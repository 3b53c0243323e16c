import BoschBle.Foundation.Effect
import BoschBle.Foundation.Bytes
import BoschBle.Foundation.Loop
import BoschBle.Foundation.ContextManager
import BoschBle.Foundation.AsyncQueue
import BoschBle.Foundation.Transition
import BoschBle.Foundation.RecordStream
import BoschBle.Foundation.StreamPieces
import BoschBle.Foundation.Exchange
import BoschBle.Foundation.Register
import BoschBle.Foundation.Interaction
import BoschBle.Foundation.Interleaving
import BoschBle.Foundation.Text
import BoschBle.Foundation.Regex
import BoschBle.Foundation.Base128
import BoschBle.Foundation.Integer
import BoschBle.Foundation.RegexLines
import BoschBle.Foundation.RegexRecords
import BoschBle.Foundation.RegexFindAll
import BoschBle.Foundation.Environment
import BoschBle.Mcsp.Frame
import BoschBle.Mcsp.FrameStream
import BoschBle.Mcsp.Command
import BoschBle.Mcsp.CommandStream
import BoschBle.MessageBus.Message
import BoschBle.MessageBus.Codec
import BoschBle.MessageBus.Grammar
import BoschBle.Handshake.StartupResponse
import BoschBle.Handshake.Log
import BoschBle.Live.Handshake
import BoschBle.Live.Session
import BoschBle.Live.System
import BoschBle.Live.Shutdown
import BoschBle.Live.SessionRun
import BoschBle.Live.StartupOrder
import BoschBle.Live.Detection
import BoschBle.Live.Cleaning
import BoschBle.Live.ConnectedClient
import BoschBle.Live.Fragmentation
import BoschBle.Live.StartupExchange
import BoschBle.Live.HandshakeResponse
import BoschBle.Live.Caller
import BoschBle.Live.Termination
import BoschBle.Dashboard.Varint
import BoschBle.Dashboard.State
import BoschBle.Dashboard.Session
import BoschBle.Dashboard.Reading
import BoschBle.Dashboard.Run
import BoschBle.Dashboard.Charger
import BoschBle.Dashboard.FieldGrammar
import BoschBle.Mgmt.Response
import BoschBle.Mgmt.LoadParameters
import BoschBle.Mgmt.AddressBytes
import BoschBle.Common.Address
import BoschBle.Common.AddressIdentity
import BoschBle.Bluez.State
import BoschBle.Bluez.Environment
import BoschBle.Bluez.Scan
import BoschBle.Bluez.Connect
import BoschBle.Bluez.Preparation
import BoschBle.Bluez.ConnectOrder
import BoschBle.Bluez.Trace
import BoschBle.Bluez.TraceConnection
import BoschBle.Bluez.TraceAttribution
import BoschBle.Bluez.LoadParameters
import BoschBle.Bluez.Processes
import BoschBle.Bluez.Flags
import BoschBle.Bluez.TraceParameters
import BoschBle.Bluez.AgentLifetime
import BoschBle.Bluez.Controller
import BoschBle.Bluez.DevicePaths
import BoschBle.Bluez.WaitRuns
import BoschBle.Bluez.Capture
import BoschBle.Bluez.Diagnosis
import BoschBle.DumpGatt.Main
import BoschBle.DumpGatt.Report
import BoschBle.DumpGatt.Safety
import BoschBle.DumpGatt.Staging
import BoschBle.TraceConnect.Baseline
import BoschBle.Probe.Main
import BoschBle.Probe.Changes
import BoschBle.Scanner.Table
import BoschBle.Scanner.App
import BoschBle.ValidateLive.Validator
import BoschBle.ValidateLive.Commands
import BoschBle.ValidateLive.Entries
import BoschBle.ValidateLive.Agreement
