import BoschBle.DumpGatt.Main

/-!
# The report of a dump

The report is a list of entries, each a line or a value that is read first.  A run
that returns has printed every entry in its order, whatever reads have failed.
-/

namespace BoschBle
namespace DumpGatt

open Foundation

/-! ## Entries -/

/-- A value that is read. -/
inductive Reading
  | char (uuid : String)
  | descriptor (handle : Nat)

namespace Reading

/-- The call that reads the value. -/
def read : Reading -> Action Bytes
  | .char uuid => perform (.readGattChar uuid)
  | .descriptor handle => perform (.readGattDescriptor handle)

/-- The exchange with an answer. -/
def step : Reading -> Except Exn Bytes -> Step
  | .char uuid, answer => ⟨.readGattChar uuid, answer⟩
  | .descriptor handle, answer => ⟨.readGattDescriptor handle, answer⟩

theorem runs_read {reading : Reading} {trace : List Step} {answer : Except Exn Bytes} :
    reading.read.Runs trace answer ↔ trace = [reading.step answer] := by
  cases reading with
  | char uuid => exact Program.runs_perform
  | descriptor handle => exact Program.runs_perform

end Reading

/-- What a dump prints: a line, or a value that has to be read first. -/
inductive Entry
  | line (text : String)
  /-- A value, with the line for it and the beginning of the line for a failure. -/
  | reading (source : Reading) (value : Bytes -> String) (failure : String)

/-- Print an entry. -/
def Entry.print : Entry -> Action Unit
  | .line text => DumpGatt.print text
  | .reading source value failure => reportRead source.read value failure

/-- The header of a dump. -/
def headerEntries : List Entry :=
  [.line "", .line "Services and characteristics",
    .line (String.ofList (List.replicate 100 '='))]

/-- What is printed of a descriptor. -/
def descriptorEntries (descriptor : Descriptor) : List Entry :=
  [.line ("    [DESC] handle=" ++ toString descriptor.handle ++ " uuid=" ++ descriptor.uuid),
    .reading (.descriptor descriptor.handle)
      (fun dval => "           value=" ++ dval.hex ++ " raw=" ++ String.ofList (Repr.ofBytes dval))
      "           read failed: "]

/-- The value of a characteristic is read only where that is one of its properties. -/
def valueEntries (char : Characteristic) : List Entry :=
  if char.properties.contains "read" then
    [.reading (.char char.uuid)
      (fun value => "         value=" ++ value.hex ++ "  raw=bytearray(" ++
        String.ofList (Repr.ofBytes value) ++ ")")
      "         read failed: "]
  else []

/-- What is printed of a characteristic. -/
def characteristicEntries (char : Characteristic) : List Entry :=
  [.line ("  [CHAR] " ++ char.uuid),
    .line ("         properties=" ++ propsToStr char.properties),
    .line ("         description=" ++ char.description)] ++
      (valueEntries char ++ char.descriptors.flatMap descriptorEntries)

/-- What is printed of a service. -/
def serviceEntries (service : Service) : List Entry :=
  .line ("[SERVICE] " ++ service.uuid ++ "  (" ++ service.description ++ ")") ::
    (service.characteristics.flatMap characteristicEntries ++
      [.line (String.ofList (List.replicate 100 '-'))])

/-! ## Printing entries -/

/-- Printing entry by entry. -/
def printEntries (entries : List Entry) : Action Unit :=
  Program.forEach Entry.print entries

theorem printEntries_append (first second : List Entry) :
    printEntries (first ++ second) = (do
      printEntries first
      printEntries second) :=
  Program.forEach_append first second

theorem printEntries_cons (entry : Entry) (entries : List Entry) :
    printEntries (entry :: entries) = (do
      entry.print
      printEntries entries) :=
  rfl

theorem printEntries_singleton (entry : Entry) : printEntries [entry] = entry.print :=
  bind_pure_unit

theorem dumpDescriptor_eq (descriptor : Descriptor) :
    dumpDescriptor descriptor = printEntries (descriptorEntries descriptor) := by
  rw [descriptorEntries, printEntries_cons, printEntries_singleton]
  rfl

theorem dumpCharacteristic_eq (char : Characteristic) :
    dumpCharacteristic char = printEntries (characteristicEntries char) := by
  have descriptors : Program.forEach dumpDescriptor char.descriptors =
      printEntries (char.descriptors.flatMap descriptorEntries) := by
    rw [printEntries, Program.forEach_flatMap]
    congr 1
    funext descriptor
    exact dumpDescriptor_eq descriptor
  rw [characteristicEntries, printEntries_append, printEntries_append, ← descriptors, valueEntries]
  simp only [printEntries_cons, bind_assoc]
  rw [dumpCharacteristic]
  split
  case isTrue =>
    rw [printEntries_singleton]
    rfl
  case isFalse => rfl

theorem dumpService_eq (service : Service) :
    dumpService service = printEntries (serviceEntries service) := by
  have characteristics : Program.forEach dumpCharacteristic service.characteristics =
      printEntries (service.characteristics.flatMap characteristicEntries) := by
    rw [printEntries, Program.forEach_flatMap]
    congr 1
    funext char
    exact dumpCharacteristic_eq char
  rw [serviceEntries, printEntries_cons, printEntries_append, printEntries_singleton,
    ← characteristics]
  rfl

/-- The dump prints the entries of the services that the client offers. -/
theorem dumpServices_eq :
    dumpServices = (do
      printEntries headerEntries
      let services <- perform .services
      printEntries (services.flatMap serviceEntries)) := by
  have each : dumpService = fun service => printEntries (serviceEntries service) :=
    funext dumpService_eq
  have all (services : List Service) :
      Program.forEach dumpService services = printEntries (services.flatMap serviceEntries) := by
    rw [printEntries, Program.forEach_flatMap, each]
    rfl
  rw [headerEntries, printEntries_cons, printEntries_cons, printEntries_singleton]
  simp only [bind_assoc, ← all]
  rfl

/-! ## Runs -/

/-- The exchanges for an entry.  A value that could not be read, or not be printed, has
the exception printed in its place. -/
inductive Printed : Entry -> List Step -> Prop
  | line (text : String) : Printed (.line text) [⟨.print text, .ok ()⟩]
  | value
      {source : Reading} {value : Bytes -> String} {failure : String}
      (data : Bytes) :
      Printed (.reading source value failure)
        [source.step (.ok data), ⟨.print (value data), .ok ()⟩]
  | failed
      {source : Reading} {value : Bytes -> String} {failure : String} {exc : Exn}
      (caught : exc.type.isException = true) :
      Printed (.reading source value failure)
        [source.step (.error exc), ⟨.print (failure ++ exc.message), .ok ()⟩]
  | unprinted
      {source : Reading} {value : Bytes -> String} {failure : String} {exc : Exn}
      (data : Bytes)
      (caught : exc.type.isException = true) :
      Printed (.reading source value failure)
        [source.step (.ok data), ⟨.print (value data), .error exc⟩,
          ⟨.print (failure ++ exc.message), .ok ()⟩]

theorem Entry.print_ok {entry : Entry} {trace : List Step} :
    entry.print.Runs trace (.ok ()) ↔ Printed entry trace := by
  cases entry with
  | line text =>
      refine Program.runs_perform.trans ⟨?_, ?_⟩
      · rintro rfl
        exact Printed.line text
      · intro printed
        cases printed
        rfl
  | reading source value failure =>
      refine Program.runs_tryExcept.trans ⟨?_, ?_⟩
      · rintro (⟨_, _, runs⟩ | ⟨_, _, impossible, _⟩ |
          ⟨first, second, exc, rfl, caught, runs, handles⟩)
        · obtain ⟨reads, prints, data, rfl, answers, shows⟩ := Program.runs_bind_ok.mp runs
          rw [Reading.runs_read.mp answers, Program.runs_perform.mp shows]
          exact Printed.value data
        · cases impossible
        · rw [Program.runs_perform.mp handles]
          rcases Program.runs_bind_error.mp runs with
            raises | ⟨reads, prints, data, rfl, answers, shows⟩
          · rw [Reading.runs_read.mp raises]
            exact Printed.failed caught
          · rw [Reading.runs_read.mp answers, Program.runs_perform.mp shows]
            exact Printed.unprinted data caught
      · intro printed
        cases printed with
        | value data =>
            refine Or.inl ⟨(), rfl, Program.runs_bind_ok.mpr ?_⟩
            exact ⟨[_], [_], data, rfl, Reading.runs_read.mpr rfl, Program.runs_perform.mpr rfl⟩
        | @failed _ _ _ exc caught =>
            refine Or.inr (Or.inr ⟨[_], [_], exc, rfl, caught, ?_, Program.runs_perform.mpr rfl⟩)
            exact Program.runs_bind_error.mpr (Or.inl (Reading.runs_read.mpr rfl))
        | @unprinted _ _ _ exc data caught =>
            refine Or.inr (Or.inr
              ⟨[_, _], [_], exc, rfl, caught, ?_, Program.runs_perform.mpr rfl⟩)
            apply Program.runs_bind_error.mpr
            exact Or.inr ⟨[_], [_], data, rfl, Reading.runs_read.mpr rfl,
              Program.runs_perform.mpr rfl⟩

theorem printEntries_ok {entries : List Entry} {trace : List Step} :
    (printEntries entries).Runs trace (.ok ()) ↔
      ∃ blocks, trace = blocks.flatten ∧ List.Forall₂ Printed entries blocks := by
  have each : (fun (entry : Entry) block => entry.print.Runs block (.ok ())) = Printed := by
    funext entry block
    exact propext Entry.print_ok
  rw [printEntries, Program.runs_forEach_ok, each]

/-- What may end a report: printing, or asking for the services.  A read may not, unless
the tool is interrupted in it. -/
def MayEnd (call : Call) (exc : Exn) : Prop :=
  call = .services ∨ (∃ line, call = .print line) ∨ exc.type.isException = false

theorem printEntries_raises (entries : List Entry) :
    (printEntries entries).RaisesOnly MayEnd := by
  apply Program.raisesOnly_forEach
  intro entry _
  have prints (line : String) : (print line).RaisesOnly MayEnd :=
    Program.RaisesOnly.perform fun _ => Or.inr (Or.inl ⟨line, rfl⟩)
  cases entry with
  | line text => exact prints text
  | reading source value failure =>
      have reads : source.read.Passive := by
        cases source with
        | char uuid => exact Program.Passive.perform _
        | descriptor handle => exact Program.Passive.perform _
      have body : Program.Passive (do
          let data <- source.read
          print (value data)) :=
        reads.bind fun _ => Program.Passive.perform _
      apply body.tryExcept
      · intro call exc _ interrupts
        exact Or.inr (Or.inr interrupts)
      · intro exc
        exact prints _

/-- A dump returns exactly where it has printed its header and then, in their order, every
service, characteristic and descriptor that the client offers, each value or why it is
missing.  One that raises was ended by a call for the services, by printing or by an
interruption: no value that cannot be read ends it. -/
theorem dumpServices_report {trace : List Step} :
    (dumpServices.Runs trace (.ok ()) ↔
      ∃ header services blocks,
        trace = header.flatten ++ ⟨.services, .ok services⟩ :: blocks.flatten ∧
          List.Forall₂ Printed headerEntries header ∧
            List.Forall₂ Printed (services.flatMap serviceEntries) blocks) ∧
      ∀ exc, dumpServices.Runs trace (.error exc) ->
        ∃ before call, trace = before ++ [⟨call, .error exc⟩] ∧ MayEnd call exc := by
  rw [dumpServices_eq]
  constructor
  · constructor
    · intro runs
      obtain ⟨first, rest, _, rfl, prints, continues⟩ := Program.runs_bind_ok.mp runs
      obtain ⟨header, rfl, printed⟩ := printEntries_ok.mp prints
      obtain ⟨asks, last, services, rfl, offers, shows⟩ := Program.runs_bind_ok.mp continues
      obtain ⟨blocks, rfl, shown⟩ := printEntries_ok.mp shows
      rw [Program.runs_perform.mp offers]
      exact ⟨header, services, blocks, rfl, printed, shown⟩
    · rintro ⟨header, services, blocks, rfl, printed, shown⟩
      apply Program.runs_bind_ok.mpr
      refine ⟨_, _, (), rfl, printEntries_ok.mpr ⟨header, rfl, printed⟩, ?_⟩
      apply Program.runs_bind_ok.mpr
      exact ⟨[_], _, services, rfl, Program.runs_perform.mpr rfl,
        printEntries_ok.mpr ⟨blocks, rfl, shown⟩⟩
  · intro exc runs
    have raises : Program.RaisesOnly MayEnd (do
        printEntries headerEntries
        let services <- perform .services
        printEntries (services.flatMap serviceEntries)) := by
      apply (printEntries_raises headerEntries).bind
      intro _
      apply (Program.RaisesOnly.perform fun _ => Or.inl rfl).bind
      intro services
      exact printEntries_raises _
    exact raises trace exc runs

end DumpGatt
end BoschBle
