import BoschBle.Bluez.Connect
import BoschBle.Mgmt.AddressBytes

/-!
# Connection parameters on their way to the kernel

`bluez.py` gives the parameters to a process of its own as arguments, which
`mgmt.py` reads and writes into a packet.
-/

namespace BoschBle
namespace Bluez

open Foundation Common Mgmt

/-- The flags of `bluez_load_connection_parameters`, each with its value. -/
def loadFlags
    (address : String)
    (controllerIndex addressType minInterval maxInterval latency timeout : Int) :
    List (String × String) :=
  [("--address", address), ("--controller-index", toString controllerIndex),
    ("--address-type", toString addressType), ("--min-interval", toString minInterval),
    ("--max-interval", toString maxInterval), ("--latency", toString latency),
    ("--timeout", toString timeout)]

/-- The pairs of a flag and its value, as arguments. -/
def arguments (flags : List (String × String)) : List String :=
  flags.flatMap fun flag => [flag.1, flag.2]

/-! ## The command line -/

section CommandLine

variable
  {printable : Char -> Bool} {address : String}
  {controllerIndex addressType minInterval maxInterval latency timeout : Nat}
  {order : List (String × String)}

theorem loadFlags_distinct :
    ((loadFlags address controllerIndex addressType minInterval maxInterval latency
      timeout).map Prod.fst).Nodup := by
  simp [loadFlags]

/-- The flags are read in any order. -/
theorem parseArgs_of_perm
    (module : String)
    (reordered : order.Perm (loadFlags address controllerIndex addressType minInterval
      maxInterval latency timeout))
    (controllerFits : controllerIndex < 2 ^ 16)
    (typeFits : addressType < 2 ^ 8)
    (minFits : minInterval < 2 ^ 16)
    (maxFits : maxInterval < 2 ^ 16)
    (latencyFits : latency < 2 ^ 16)
    (timeoutFits : timeout < 2 ^ 16) :
    parseArgs printable (module :: "load-conn-params" :: arguments order) =
      .ok ⟨address, controllerIndex, addressType, minInterval, maxInterval, latency,
        timeout⟩ := by
  have pairs : readPairs [] (arguments order) = order.reverse :=
    (readPairs_flatMap [] order).trans (List.append_nil _)
  have sameFlags : order.reverse.Perm (loadFlags address controllerIndex addressType
      minInterval maxInterval latency timeout) :=
    order.reverse_perm.trans reordered
  have distinct : (order.reverse.map Prod.fst).Nodup :=
    (sameFlags.map Prod.fst).nodup_iff.mpr loadFlags_distinct
  have present (flag : String × String)
      (isFlag : flag ∈ loadFlags address controllerIndex addressType minInterval
        maxInterval latency timeout) : flag ∈ order.reverse :=
    sameFlags.mem_iff.mpr isFlag
  have sixteen : (module :: "load-conn-params" :: arguments order).length = 16 := by
    have seven : order.length = 7 := reordered.length_eq
    have twice : (arguments order).length = order.length * 2 := by
      simp [arguments, List.length_flatMap]
    rw [List.length_cons, List.length_cons, twice, seven]
  have typeShort : addressType < 2 ^ 16 := typeFits.trans (by decide)
  have isCommand : ¬((module :: "load-conn-params" :: arguments order).length ≠ 16 ∨
      (module :: "load-conn-params" :: arguments order)[1]? ≠ some "load-conn-params") := by
    rw [sixteen]
    simp
  rw [parseArgs, if_neg isCommand, List.drop_succ_cons, List.drop_succ_cons, List.drop_zero,
    pairs]
  simp only [loadFlags, List.mem_cons] at present
  dsimp only
  rw [item_of_mem distinct (present ("--address", address) (by simp)),
    intItem_of_mem distinct (present ("--controller-index", _) (by simp)) controllerFits,
    intItem_of_mem distinct (present ("--address-type", _) (by simp)) typeShort,
    intItem_of_mem distinct (present ("--min-interval", _) (by simp)) minFits,
    intItem_of_mem distinct (present ("--max-interval", _) (by simp)) maxFits,
    intItem_of_mem distinct (present ("--latency", _) (by simp)) latencyFits,
    intItem_of_mem distinct (present ("--timeout", _) (by simp)) timeoutFits]
  rfl

end CommandLine

/-! ## The packet -/

/-- What a packet holds, read in little-endian order. -/
structure LoadPacket where
  opcode : Nat
  controllerIndex : Nat
  length : Nat
  count : Nat
  /-- The octets of the address from the most significant one. -/
  address : Bytes
  addressType : Nat
  minInterval : Nat
  maxInterval : Nat
  latency : Nat
  timeout : Nat
  deriving DecidableEq

/-- The fields of a packet, read at the offsets that the kernel reads them at. -/
def readPacket (packet : Bytes) : LoadPacket where
  opcode := Bytes.fromLittle (packet.slice 0 2)
  controllerIndex := Bytes.fromLittle (packet.slice 2 4)
  length := Bytes.fromLittle (packet.slice 4 6)
  count := Bytes.fromLittle (packet.slice 6 8)
  address := (packet.slice 8 14).reverse
  addressType := Bytes.fromLittle (packet.slice 14 15)
  minInterval := Bytes.fromLittle (packet.slice 15 17)
  maxInterval := Bytes.fromLittle (packet.slice 17 19)
  latency := Bytes.fromLittle (packet.slice 19 21)
  timeout := Bytes.fromLittle (packet.slice 21 23)

theorem packUnsigned_of_lt
    {width value : Nat} {rangeError : String}
    (narrow : 256 ^ width < 2 ^ 63)
    (fits : value < 256 ^ width) :
    packUnsigned width rangeError value = .ok (Bytes.littleEndian width value) := by
  have inLong : ¬((value : Int) < -(2 ^ 63) ∨ 2 ^ 63 ≤ (value : Int)) := by
    omega
  have inRange : ¬((value : Int) < 0 ∨ 256 ^ width ≤ (value : Int)) := by
    rw [not_or, not_lt, not_le]
    exact ⟨Int.natCast_nonneg value, by exact_mod_cast fits⟩
  rw [packUnsigned, if_neg inLong, if_neg inRange, Int.toNat_natCast]

/-- The six octets are neither cut nor padded. -/
theorem pack6s_of_length
    {octets : Bytes}
    (six : octets.length = 6) :
    pack6s octets = octets :=
  List.take_left' six

/-- The packet with six octets of an address, from the least significant one. -/
def packetBytes
    (controllerIndex : Nat)
    (octets : Bytes)
    (addressType minInterval maxInterval latency timeout : Nat) : Bytes :=
  Bytes.littleEndian 2 MGMT_OP_LOAD_CONN_PARAM ++ Bytes.littleEndian 2 controllerIndex ++
    Bytes.littleEndian 2 17 ++
    (Bytes.littleEndian 2 1 ++ octets ++ Bytes.littleEndian 1 addressType ++
      Bytes.littleEndian 2 minInterval ++ Bytes.littleEndian 2 maxInterval ++
      Bytes.littleEndian 2 latency ++ Bytes.littleEndian 2 timeout)

section Packet

variable
  {controllerIndex addressType minInterval maxInterval latency timeout : Nat}
  (controllerFits : controllerIndex < 2 ^ 16)
  (typeFits : addressType < 2 ^ 8)
  (minFits : minInterval < 2 ^ 16)
  (maxFits : maxInterval < 2 ^ 16)
  (latencyFits : latency < 2 ^ 16)
  (timeoutFits : timeout < 2 ^ 16)

include controllerFits typeFits minFits maxFits latencyFits timeoutFits

theorem encode_of_fits
    (printable : Char -> Bool)
    (address : Address) :
    encodeLoadConnectionParameters printable
        ⟨String.ofList address.text, controllerIndex, addressType, minInterval, maxInterval,
          latency, timeout⟩ =
      .ok (packetBytes controllerIndex address.octets.reverse addressType minInterval
        maxInterval latency timeout) := by
  have octets := bdaddrToBytes_of_text printable address (.inl rfl)
  rw [List.append_nil] at octets
  have six : address.octets.reverse.length = 6 := by
    rw [List.length_reverse, Address.octets, List.length_map, address.six]
  have packs {value : Nat} (fits : value < 2 ^ 16) :
      packH value = .ok (Bytes.littleEndian 2 value) :=
    packUnsigned_of_lt (by decide) fits
  have packsType : packB addressType = .ok (Bytes.littleEndian 1 addressType) :=
    packUnsigned_of_lt (by decide) typeFits
  have packsOne : packH 1 = .ok (Bytes.littleEndian 2 1) := packs (by decide)
  have payloadLength (count octets addressType minInterval maxInterval latency
      timeout : Bytes) :
      (count ++ octets ++ addressType ++ minInterval ++ maxInterval ++ latency ++
        timeout).length = count.length + octets.length + addressType.length +
          minInterval.length + maxInterval.length + latency.length + timeout.length := by
    simp only [List.length_append]
  rw [encodeLoadConnectionParameters, octets, packsOne, packsType, packs minFits,
    packs maxFits, packs latencyFits, packs timeoutFits, packs controllerFits]
  simp only [bind, Except.bind, pack6s_of_length six, payloadLength,
    Bytes.length_littleEndian, six]
  rw [packs (by decide), packs (by decide)]
  rfl

/-- The values are read back from the packet. -/
theorem readPacket_packetBytes
    {octets : Bytes}
    (six : octets.length = 6) :
    readPacket (packetBytes controllerIndex octets addressType minInterval maxInterval
        latency timeout) =
      ⟨0x0035, controllerIndex, 17, 1, octets.reverse, addressType, minInterval, maxInterval,
        latency, timeout⟩ := by
  obtain ⟨a, b, c, d, e, f, rfl⟩ : ∃ a b c d e f, octets = [a, b, c, d, e, f] := by
    match octets, six with
    | [a, b, c, d, e, f], _ => exact ⟨a, b, c, d, e, f, rfl⟩
  have fields : readPacket (packetBytes controllerIndex [a, b, c, d, e, f] addressType
      minInterval maxInterval latency timeout) =
      ⟨Bytes.fromLittle (Bytes.littleEndian 2 MGMT_OP_LOAD_CONN_PARAM),
        Bytes.fromLittle (Bytes.littleEndian 2 controllerIndex),
        Bytes.fromLittle (Bytes.littleEndian 2 17), Bytes.fromLittle (Bytes.littleEndian 2 1),
        [a, b, c, d, e, f].reverse, Bytes.fromLittle (Bytes.littleEndian 1 addressType),
        Bytes.fromLittle (Bytes.littleEndian 2 minInterval),
        Bytes.fromLittle (Bytes.littleEndian 2 maxInterval),
        Bytes.fromLittle (Bytes.littleEndian 2 latency),
        Bytes.fromLittle (Bytes.littleEndian 2 timeout)⟩ := rfl
  rw [fields, Bytes.fromLittle_littleEndian (by decide),
    Bytes.fromLittle_littleEndian controllerFits, Bytes.fromLittle_littleEndian (by decide),
    Bytes.fromLittle_littleEndian (by decide), Bytes.fromLittle_littleEndian typeFits,
    Bytes.fromLittle_littleEndian minFits, Bytes.fromLittle_littleEndian maxFits,
    Bytes.fromLittle_littleEndian latencyFits, Bytes.fromLittle_littleEndian timeoutFits]
  rfl

end Packet

/-- The parameters that the command is given are the ones that the kernel reads, in
whatever order the flags are passed on. -/
theorem loadConnectionParameters_reachKernel
    (printable : Char -> Bool)
    (executable module : String)
    (address : Address)
    {controllerIndex addressType minInterval maxInterval latency timeout : Nat}
    (controllerFits : controllerIndex < 2 ^ 16)
    (typeFits : addressType < 2 ^ 8)
    (minFits : minInterval < 2 ^ 16)
    (maxFits : maxInterval < 2 ^ 16)
    (latencyFits : latency < 2 ^ 16)
    (timeoutFits : timeout < 2 ^ 16) :
    ∃ flags,
      loadConnectionParametersCommand executable (String.ofList address.text)
          controllerIndex addressType minInterval maxInterval latency timeout =
        ["sudo", "-n", executable, "-m", "bosch_ble.mgmt"] ++
          "load-conn-params" :: arguments flags ∧
      flags.length = 7 ∧
      ∀ order, order.Perm flags -> ∃ command packet,
        parseArgs printable (module :: "load-conn-params" :: arguments order) =
          .ok command ∧
        encodeLoadConnectionParameters printable command = .ok packet ∧
        readPacket packet =
          ⟨0x0035, controllerIndex, (packet.drop 6).length, 1, address.octets, addressType,
            minInterval, maxInterval, latency, timeout⟩ := by
  refine ⟨loadFlags (String.ofList address.text) controllerIndex addressType minInterval
    maxInterval latency timeout, rfl, rfl, ?_⟩
  intro order reordered
  have six : address.octets.reverse.length = 6 := by
    rw [List.length_reverse, Address.octets, List.length_map, address.six]
  have length_eq : ((packetBytes controllerIndex address.octets.reverse addressType
      minInterval maxInterval latency timeout).drop 6).length = 17 := by
    simp only [packetBytes, List.length_drop, List.length_append, Bytes.length_littleEndian,
      six]
  refine ⟨_, _, parseArgs_of_perm module reordered controllerFits typeFits minFits maxFits
    latencyFits timeoutFits, encode_of_fits controllerFits typeFits minFits maxFits
      latencyFits timeoutFits printable address, ?_⟩
  rw [length_eq, readPacket_packetBytes controllerFits typeFits minFits maxFits latencyFits
    timeoutFits six, List.reverse_reverse]

/-- An address for examples. -/
def exampleAddress : Address where
  pairs :=
    [⟨'0', '0', rfl, rfl⟩, ⟨'0', '4', rfl, rfl⟩, ⟨'6', '3', rfl, rfl⟩, ⟨'B', 'a', rfl, rfl⟩,
      ⟨'6', '4', rfl, rfl⟩, ⟨'f', 'C', rfl, rfl⟩]
  six := rfl

/-- The ends of the ranges. -/
theorem loadConnectionParameters_reachKernel_extremes :
    ∃ flags,
      loadConnectionParametersCommand "python" (String.ofList exampleAddress.text)
          (65535 : Nat) (255 : Nat) (65535 : Nat) (65535 : Nat) (65535 : Nat) (65535 : Nat) =
        ["sudo", "-n", "python", "-m", "bosch_ble.mgmt"] ++
          "load-conn-params" :: arguments flags ∧
      flags.length = 7 ∧
      ∀ order, order.Perm flags -> ∃ command packet,
        parseArgs (fun _ => true) ("mgmt.py" :: "load-conn-params" :: arguments order) =
          .ok command ∧
        encodeLoadConnectionParameters (fun _ => true) command = .ok packet ∧
        readPacket packet =
          ⟨0x0035, 65535, (packet.drop 6).length, 1, [0x00, 0x04, 0x63, 0xba, 0x64, 0xfc], 255,
            65535, 65535, 65535, 65535⟩ := by
  have octets_eq : exampleAddress.octets = [0x00, 0x04, 0x63, 0xba, 0x64, 0xfc] := by
    decide
  rw [← octets_eq]
  exact loadConnectionParameters_reachKernel (fun _ => true) "python" "mgmt.py" exampleAddress
    (by decide) (by decide) (by decide) (by decide) (by decide) (by decide)

end Bluez
end BoschBle
