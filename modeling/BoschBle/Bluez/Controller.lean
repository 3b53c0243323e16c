import BoschBle.Bluez.AgentLifetime
import BoschBle.Bluez.Processes

/-!
# Whether the controller is free

The tools ask `bluetoothctl` whether the controller discovers already and `ps` for other
tools that use it, and refuse to go on where either says so.
-/

namespace BoschBle
namespace Bluez

open Foundation

/-- What the tool knows of the process that it runs in. -/
structure HostProcess where
  printable : Char -> Bool
  pid : Int
  ppid : Int

/-- The class of the exception for a command that is not installed. -/
def fileNotFoundError : ExnType :=
  .user "FileNotFoundError"

/-- What `bluetoothctl show` prints, and a failure where the command is missing. -/
def controllerShow : Action CompletedProcess :=
  Program.tryExcept (perform (.runCommand ["bluetoothctl", "show"] 15)) fun exc =>
    if exc.type = fileNotFoundError then
      return ⟨["bluetoothctl", "show"], 127, "", ""⟩
    else
      Program.raise exc

/-- Whether the controller is discovering, where it tells. -/
def controllerDiscoveringState : Action (Option Bool) := do
  let showResult <- controllerShow
  return parseFlag (outputText showResult) "Discovering"

/-- The discovery state that was passed, or else that of the controller. -/
def discoveringOr : Option Bool -> Action (Option Bool)
  | some discovering => return some discovering
  | none => controllerDiscoveringState

section Ready

variable (host : HostProcess)

/-- `list_busy_bluetooth_processes` with its default. -/
def readBusyProcesses : Action (List String) := do
  let result <- perform (.runCommand ["ps", "-eo", "pid=,ppid=,args="] 15)
  return listBusyBluetoothProcesses host.printable none host.pid host.ppid result

/-- `problems` in `assert_controller_ready`. -/
def controllerProblems
    (discovering : Option Bool)
    (busyProcesses : List String) : List String :=
  (if discovering = some true then ["controller discovery is already active"] else []) ++
    if busyProcesses = [] then []
    else
      let joined := "; ".intercalate (busyProcesses.take 3)
      let joined := if 3 < busyProcesses.length then joined ++ "; ..." else joined
      ["other Bluetooth tools are still running (" ++ joined ++ ")"]

/-- `assert_controller_ready`. -/
def assertControllerReady (address : String) (discovering : Option Bool) : Action Unit := do
  let discovering <- discoveringOr discovering
  let busyProcesses <- readBusyProcesses host
  let problems := controllerProblems discovering busyProcesses
  if problems = [] then
    return ()
  else
    Program.raise ⟨.runtimeError, "Bluetooth controller is busy before connecting to " ++
      address ++ ": " ++ "; ".intercalate problems⟩

theorem controllerDiscoveringState_preparing :
    controllerDiscoveringState.Only Call.IsPreparing := by
  apply Program.Only.bind
  · apply Program.Only.tryExcept (Program.Only.perform ⟨rfl, rfl⟩)
    intro exc
    split <;> exact trivial
  · intro showResult
    exact trivial

theorem assertControllerReady_preparing (address : String) (discovering : Option Bool) :
    (assertControllerReady host address discovering).Only Call.IsPreparing := by
  apply Program.Only.bind
  · cases discovering with
    | some discovering => exact trivial
    | none => exact controllerDiscoveringState_preparing
  · intro discovering
    apply Program.Only.bind
    · exact Program.Only.bind (Program.Only.perform ⟨rfl, rfl⟩) fun _ => trivial
    · intro busyProcesses
      dsimp only
      split <;> exact trivial

end Ready
end Bluez
end BoschBle
