import BoschBle.Bluez.Environment
import BoschBle.Common.AddressIdentity
import BoschBle.Foundation.Raising
import BoschBle.Foundation.Words

/-!
# The device a path names

BlueZ names the object of a device after its address.  The tools look for that object
in the tree that `busctl` prints, and the agent that confirms pairing requests lets
pass what ends in the name of its device.  For addresses both come down to the octets
of the address.  What the agent logs is left out.
-/

namespace BoschBle
namespace Bluez

open Foundation Common

/-- The error by which an agent refuses a request. -/
def BLUEZ_REJECTED_ERROR : String := "org.bluez.Error.Rejected"

/-! ## The agent -/

/-- An error that is sent over the system bus. -/
structure DBusError where
  type : String
  text : String
  deriving DecidableEq

/-- A call of BlueZ on the agent. -/
inductive AgentRequest
  | release
  | requestPinCode (device : String)
  | displayPinCode (device pincode : String)
  | requestPasskey (device : String)
  | displayPasskey (device : String) (passkey : UInt32) (entered : UInt16)
  | requestConfirmation (device : String) (passkey : UInt32)
  | requestAuthorization (device : String)
  | authorizeService (device uuid : String)
  | cancel
  deriving DecidableEq

/-- The agent that confirms the requests of one device. -/
structure AutoConfirmBluezAgent where
  address : String
  deviceSuffix : String
  deriving DecidableEq

namespace AutoConfirmBluezAgent

/-- `__init__`: the agent for the device with the address. -/
def init (address : String) : AutoConfirmBluezAgent where
  address := normalizeAddress address
  deviceSuffix := deviceObjectSuffix address

/-- `_authorize_device`. -/
def authorizeDevice (agent : AutoConfirmBluezAgent) (device : String) :
    Except DBusError Unit :=
  if agent.deviceSuffix.toList.isSuffixOf device.toList then
    .ok ()
  else
    .error ⟨BLUEZ_REJECTED_ERROR,
      "Refusing pairing request for unexpected device " ++ device⟩

/-- A request for something that has to be typed in. -/
def refuseEntry (agent : AutoConfirmBluezAgent) (device text : String) :
    Except DBusError Unit := do
  agent.authorizeDevice device
  .error ⟨BLUEZ_REJECTED_ERROR, text⟩

/-- The reply to a request.  None that succeeds has a value. -/
def reply (agent : AutoConfirmBluezAgent) : AgentRequest -> Except DBusError Unit
  | .release => .ok ()
  | .requestPinCode device => agent.refuseEntry device "PIN code entry is not supported"
  | .displayPinCode device _ => agent.authorizeDevice device
  | .requestPasskey device => agent.refuseEntry device "Passkey entry is not supported"
  | .displayPasskey device _ _ => agent.authorizeDevice device
  | .requestConfirmation device _ => agent.authorizeDevice device
  | .requestAuthorization device => agent.authorizeDevice device
  | .authorizeService device _ => agent.authorizeDevice device
  | .cancel => .ok ()

end AutoConfirmBluezAgent

/-- The device that a request is about. -/
def AgentRequest.device : AgentRequest -> Option String
  | .release | .cancel => none
  | .requestPinCode device | .displayPinCode device _ | .requestPasskey device
  | .displayPasskey device _ _ | .requestConfirmation device _
  | .requestAuthorization device | .authorizeService device _ => some device

/-- Whether a request asks for something that has to be typed in. -/
def AgentRequest.asksEntry : AgentRequest -> Bool
  | .requestPinCode _ | .requestPasskey _ => true
  | _ => false

/-! ## Object names -/

/-- The name that BlueZ gives the object of a device. -/
def objectName (address : Common.Address) : Text :=
  (deviceObjectSuffix (String.ofList address.text)).toList

theorem char_of_mem_text
    {address : Common.Address} {char : Char}
    (present : char ∈ address.text) :
    Regex.isHexDigit char = true ∨ char = ':' := by
  have ofPair (pair : HexPair) (inPair : char ∈ pair.text) : Regex.isHexDigit char = true := by
    rw [HexPair.text, List.mem_cons, List.mem_singleton] at inPair
    rcases inPair with rfl | rfl
    · exact pair.highDigit
    · exact pair.lowDigit
  obtain ⟨front, last, _, _, text_eq⟩ := address.exists_last
  rw [text_eq, List.mem_append, List.mem_flatMap] at present
  rcases present with ⟨pair, _, inPair⟩ | inLast
  · rw [List.mem_append, List.mem_singleton] at inPair
    exact inPair.imp (ofPair pair) id
  · exact Or.inl (ofPair last inLast)

/-- A character that no address has. -/
theorem notMem_text
    {char : Char}
    (noDigit : Regex.isHexDigit char = false)
    (noColon : char ≠ ':')
    (address : Common.Address) :
    char ∉ address.text := by
  intro present
  rcases char_of_mem_text present with isHex | isColon
  · rw [noDigit] at isHex
    cases isHex
  · exact noColon isColon

theorem length_text (address : Common.Address) : address.text.length = 17 := by
  obtain ⟨front, last, _, five, text_eq⟩ := address.exists_last
  have pieces : ∀ pairs : List HexPair,
      (pairs.flatMap fun pair => pair.text ++ [':']).length = 3 * pairs.length := by
    intro pairs
    induction pairs with
    | nil => rfl
    | cons pair pairs inductionHypothesis =>
        rw [List.flatMap_cons, List.length_append, inductionHypothesis]
        simp only [List.length_append, HexPair.text, List.length_cons, List.length_nil]
        omega
  rw [text_eq, List.length_append, pieces, five, HexPair.text]
  rfl

/-- The character of an object name for one of an address. -/
def underscored (char : Char) : Char :=
  if char = ':' then '_' else char

theorem objectName_eq (address : Common.Address) :
    objectName address = "dev_".toList ++ address.upper.text.map underscored := by
  simp only [objectName, deviceObjectSuffix, String.toList_ofList, Address.text_upper]
  rfl

theorem map_underscored_inj
    {text other : Text}
    (free : '_' ∉ text)
    (otherFree : '_' ∉ other) :
    text.map underscored = other.map underscored ↔ text = other := by
  constructor
  · intro same
    have undone : ∀ text : Text, '_' ∉ text ->
        (text.map underscored).map (fun char => if char = '_' then ':' else char) = text := by
      intro text free
      rw [List.map_map]
      refine (List.map_congr_left ?_).trans text.map_id
      intro char present
      have noBar : char ≠ '_' := fun isBar => free (isBar ▸ present)
      rw [Function.comp_apply, underscored]
      split
      case isTrue isColon => rw [if_pos rfl, isColon, id]
      case isFalse => rfl
    rw [← undone text free, same, undone other otherFree]
  · rintro rfl
    rfl

/-- Two addresses have one object name exactly if their octets are the same. -/
theorem objectName_eq_iff {address other : Common.Address} :
    objectName address = objectName other ↔ address.octets = other.octets := by
  have noBar : ∀ address : Common.Address, '_' ∉ address.upper.text := fun address =>
    notMem_text (by decide) (by decide) address.upper
  rw [objectName_eq, objectName_eq, List.append_cancel_left_eq,
    map_underscored_inj (noBar address) (noBar other), upper_text_eq_iff]

theorem length_objectName (address : Common.Address) : (objectName address).length = 21 := by
  rw [objectName_eq, List.length_append, List.length_map, length_text]
  rfl

/-- What ends in one object name ends in another exactly if they are the same. -/
theorem objectName_suffix_iff
    {path : Text} {address other : Common.Address} :
    objectName address <:+ path ++ objectName other ↔ address.octets = other.octets := by
  rw [← objectName_eq_iff]
  constructor
  · rintro ⟨front, whole⟩
    exact List.append_inj_right' whole
      ((length_objectName address).trans (length_objectName other).symm)
  · intro same
    rw [same]
    exact List.suffix_append _ _

/-- What ends in a slash and one object name, likewise. -/
theorem slash_objectName_suffix_iff
    {path : Text} {address other : Common.Address} :
    '/' :: objectName address <:+ path ++ '/' :: objectName other ↔
      address.octets = other.octets := by
  constructor
  · intro ends
    have inner : objectName address <:+ (path ++ ['/']) ++ objectName other := by
      rw [List.append_assoc, List.singleton_append]
      exact (List.suffix_cons _ _).trans ends
    exact objectName_suffix_iff.mp inner
  · intro same
    rw [objectName_eq_iff.mpr same]
    exact List.suffix_append _ _

/-! ## The tree that is printed -/

/-- An object path that names no device. -/
structure PlainPath where
  path : Text
  isBluez : "/org/bluez".toList <+: path
  oneLine : Text.OneLine path
  trimmed : Text.Trimmed path
  namesNone : ∀ address, ¬ '/' :: objectName address <:+ path

/-- An object of BlueZ: a device of an adapter, or something else. -/
inductive BluezObject
  | device (adapter : Text) (oneLine : Text.OneLine adapter) (address : Common.Address)
  | plain (path : PlainPath)

/-- The path of an object. -/
def BluezObject.path : BluezObject -> Text
  | .device adapter _ address => "/org/bluez/".toList ++ adapter ++ '/' :: objectName address
  | .plain path => path.path

/-- Whether the object is a device with the octets of the address. -/
def BluezObject.isDevice (address : Common.Address) : BluezObject -> Bool
  | .device _ _ other => address.octets == other.octets
  | .plain _ => false

/-- A line of the tree: some drawing and an object path, or a line that has none of the
objects of BlueZ, such as the one of `/org`. -/
inductive TreeLine
  | node
      (drawing : Text) (noSlash : '/' ∉ drawing) (oneLine : Text.OneLine drawing)
      (object : BluezObject)
  | other
      (text : Text) (oneLine : Text.OneLine text) (noBluez : ¬ "/org/bluez".toList <:+: text)

/-- The line as it is printed. -/
def TreeLine.text : TreeLine -> Text
  | .node drawing _ _ object => drawing ++ object.path
  | .other text _ _ => text

/-- The object in the line. -/
def TreeLine.object : TreeLine -> Option BluezObject
  | .node _ _ _ object => some object
  | .other _ _ _ => none

/-- What `busctl tree` prints. -/
def printTree (lines : List TreeLine) : String :=
  String.ofList (lines.flatMap fun line => line.text ++ ['\n'])

/-- A word is found at once behind a text that does not have its first character. -/
theorem suffixFrom_of_notMem
    {char : Char} {word front rest : Text}
    (free : char ∉ front)
    (starts : char :: word <+: rest) :
    Text.suffixFrom (char :: word) (front ++ rest) = some rest := by
  induction front with
  | nil =>
      obtain ⟨tail, rfl⟩ := starts
      rw [List.nil_append, List.cons_append, Text.suffixFrom, if_pos]
      rw [List.isPrefixOf_iff_prefix, ← List.cons_append]
      exact List.prefix_append _ _
  | cons first front inductionHypothesis =>
      rw [List.mem_cons, not_or] at free
      rw [List.cons_append, Text.suffixFrom, if_neg]
      · exact inductionHypothesis free.2
      · rw [List.isPrefixOf_iff_prefix, List.cons_prefix_cons]
        exact fun same => free.1 same.1

theorem oneLine_append
    {first second : Text}
    (firstLine : Text.OneLine first)
    (secondLine : Text.OneLine second) :
    Text.OneLine (first ++ second) :=
  List.forall_mem_append.mpr ⟨firstLine, secondLine⟩

theorem visible_of_mem_objectName
    {address : Common.Address} {char : Char}
    (present : char ∈ objectName address) :
    Text.isSpace char = false ∧ Text.isLineBreak char = false := by
  rw [objectName_eq, List.mem_append, List.mem_map] at present
  rcases present with inStart | ⟨source, inText, rfl⟩
  · have marks : ∀ char ∈ ['d', 'e', 'v', '_'],
        Text.isSpace char = false ∧ Text.isLineBreak char = false := by
      simp only [List.forall_mem_cons]
      exact ⟨⟨rfl, rfl⟩, ⟨rfl, rfl⟩, ⟨rfl, rfl⟩, ⟨rfl, rfl⟩, List.forall_mem_nil _⟩
    exact marks char inStart
  · unfold underscored
    split
    case isTrue => exact ⟨rfl, rfl⟩
    case isFalse noColon =>
      have isHex := (char_of_mem_text inText).resolve_right noColon
      exact Regex.forall_isHexDigit
        (fun char => Text.isSpace char = false ∧ Text.isLineBreak char = false)
        (by decide) isHex

namespace BluezObject

theorem path_device
    (adapter : Text)
    (oneLine : Text.OneLine adapter)
    (address : Common.Address) :
    (device adapter oneLine address).path =
      "/org/bluez/".toList ++ adapter ++ '/' :: objectName address :=
  rfl

theorem isBluez (object : BluezObject) : "/org/bluez".toList <+: object.path := by
  cases object with
  | plain path => exact path.isBluez
  | device adapter oneLine address =>
      rw [path_device, List.append_assoc]
      exact ⟨'/' :: (adapter ++ '/' :: objectName address), rfl⟩

theorem oneLine (object : BluezObject) : Text.OneLine object.path := by
  cases object with
  | plain path => exact path.oneLine
  | device adapter oneLine address =>
      apply oneLine_append (oneLine_append (by decide) oneLine)
      rw [Text.OneLine, List.forall_mem_cons]
      exact ⟨by decide, fun char present => (visible_of_mem_objectName present).2⟩

theorem trimmed (object : BluezObject) : Text.Trimmed object.path := by
  cases object with
  | plain path => exact path.trimmed
  | device adapter oneLine address =>
      obtain ⟨front, last, name_eq⟩ : ∃ front last, objectName address = front ++ [last] := by
        have nonempty : objectName address ≠ [] := by
          rw [← List.length_pos_iff, length_objectName]
          decide
        exact ⟨_, _, (List.dropLast_append_getLast nonempty).symm⟩
      have isFirst : (device adapter oneLine address).path.head? = some '/' := rfl
      have isLast : (device adapter oneLine address).path.getLast? = some last := by
        rw [path_device, name_eq, ← List.cons_append, ← List.append_assoc, List.getLast?_concat]
      have present : last ∈ objectName address := by
        rw [name_eq]
        exact List.mem_append_right _ List.mem_cons_self
      exact Text.trimmed_of_ends isFirst isLast (by decide) (visible_of_mem_objectName present).1

/-- An object path ends in the name of a device exactly if it is an object of that
device. -/
theorem suffix_iff (object : BluezObject) (address : Common.Address) :
    '/' :: objectName address <:+ object.path ↔ object.isDevice address = true := by
  cases object with
  | plain path =>
      constructor
      · intro ends
        exact absurd ends (path.namesNone address)
      · intro impossible
        cases impossible
  | device adapter oneLine other =>
      rw [path_device, slash_objectName_suffix_iff, isDevice, beq_iff_eq]

end BluezObject

/-- What `find_device_object_path` takes from a line. -/
def pathInLine (suffix line : Text) : Option String :=
  match Text.suffixFrom "/org/bluez".toList line with
  | none => none
  | some marked =>
      let objectPath := Text.strip marked
      if ('/' :: suffix).isSuffixOf objectPath then some (String.ofList objectPath) else none

theorem objectPathIn_eq (stdout suffix : String) :
    objectPathIn stdout suffix =
      (Text.splitLines stdout.toList).findSome? (pathInLine suffix.toList) :=
  rfl

/-- The path of an object if it is the device. -/
def BluezObject.pathOf (address : Common.Address) (object : BluezObject) : Option String :=
  if object.isDevice address then some (String.ofList object.path) else none

/-- A line without an object of BlueZ is passed over. -/
theorem pathInLine_text (line : TreeLine) (address : Common.Address) :
    pathInLine (objectName address) line.text =
      line.object.bind fun object => object.pathOf address := by
  unfold pathInLine
  cases line with
  | other text oneLine noBluez =>
      have missing : Text.suffixFrom "/org/bluez".toList text = none := by
        rwa [← Text.contains_iff, Text.contains, Option.not_isSome_iff_eq_none] at noBluez
      rw [TreeLine.text, missing]
      rfl
  | node drawing noSlash oneLine object =>
      have found : Text.suffixFrom "/org/bluez".toList (drawing ++ object.path) =
          some object.path :=
        suffixFrom_of_notMem noSlash object.isBluez
      have stripped : Text.strip object.path = object.path := by
        have blank : Text.Blank [] := List.forall_mem_nil _
        have whole := Text.strip_of_trimmed blank object.trimmed blank
        rwa [List.nil_append, List.append_nil] at whole
      have ends : ('/' :: objectName address).isSuffixOf object.path =
          object.isDevice address := by
        rw [Bool.eq_iff_iff, List.isSuffixOf_iff_suffix, object.suffix_iff]
      rw [TreeLine.text, found]
      dsimp only
      rw [stripped, ends]
      rfl

theorem oneLine_text (line : TreeLine) : Text.OneLine line.text := by
  cases line with
  | other text oneLine noBluez => exact oneLine
  | node drawing noSlash oneLine object => exact oneLine_append oneLine object.oneLine

/-- In a tree that is printed line by line the first object of the device is found. -/
theorem objectPathIn_printTree (lines : List TreeLine) (address : Common.Address) :
    objectPathIn (printTree lines) (deviceObjectSuffix (String.ofList address.text)) =
      ((lines.filterMap TreeLine.object).find? fun object => object.isDevice address).map
        fun object => String.ofList object.path := by
  have oneLines : ∀ text ∈ lines.map TreeLine.text, Text.OneLine text := by
    intro text present
    obtain ⟨line, _, rfl⟩ := List.mem_map.mp present
    exact oneLine_text line
  have split : Text.splitLines (printTree lines).toList = lines.map TreeLine.text := by
    have whole := Text.splitLines_lines oneLines []
    rw [List.flatMap_map, List.append_nil] at whole
    rw [printTree, String.toList_ofList]
    exact whole.trans (List.append_nil _)
  rw [objectPathIn_eq, split, List.findSome?_map]
  change lines.findSome? (pathInLine (objectName address) ∘ TreeLine.text) = _
  clear split oneLines
  induction lines with
  | nil => rfl
  | cons line lines inductionHypothesis =>
      rw [List.findSome?_cons, Function.comp_apply, pathInLine_text, List.filterMap_cons]
      cases line.object with
      | none => exact inductionHypothesis
      | some object =>
          rw [Option.bind_some, BluezObject.pathOf, List.find?_cons]
          cases object.isDevice address with
          | true => rfl
          | false => exact inductionHypothesis

/-! ## The lookup and the agent -/

/-- The step is a listing of the tree that has succeeded with this output. -/
def Lists (stdout : String) (step : Step) : Prop :=
  ∃ arguments timeout process,
    step = ⟨.runCommand ("busctl" :: "tree" :: arguments) timeout, .ok process⟩ ∧
      process.returncode = 0 ∧ process.stdout = stdout

theorem busctlAvailable_runs
    {trace : List Step} {available : Bool}
    (runs : busctlAvailable.Runs trace (.ok available)) :
    ∃ found, trace = [⟨.which "busctl", .ok found⟩] ∧ available = found.isSome := by
  rcases Program.runs_perform_bind.mp runs with
    ⟨exc, impossible, _⟩ | ⟨found, rest, rfl, returns⟩
  · cases impossible
  · obtain ⟨rfl, same⟩ := Program.runs_done.mp returns
    exact ⟨found, rfl, Except.ok.inj same⟩

theorem lists_iff
    {arguments : List String} {timeout : Nat} {process : CompletedProcess} {stdout : String} :
    Lists stdout ⟨.runCommand ("busctl" :: "tree" :: arguments) timeout, .ok process⟩ ↔
      process.returncode = 0 ∧ process.stdout = stdout := by
  constructor
  · rintro ⟨_, _, other, same, succeeds, prints⟩
    cases same
    exact ⟨succeeds, prints⟩
  · rintro ⟨succeeds, prints⟩
    exact ⟨arguments, timeout, process, rfl, succeeds, prints⟩

theorem not_lists_which (found : Option String) (stdout : String) :
    ¬ Lists stdout ⟨.which "busctl", .ok found⟩ := by
  rintro ⟨_, _, _, impossible, _⟩
  cases impossible

/-- What a lookup finds is in the listing that it has made, if one has succeeded. -/
theorem findDeviceObjectPath_runs
    {address : String} {trace : List Step} {found : Option String}
    (runs : (findDeviceObjectPath address).Runs trace (.ok found)) :
    (∃ stdout, (∃ step ∈ trace, Lists stdout step) ∧
        found = objectPathIn stdout (deviceObjectSuffix address)) ∨
      found = none ∧ ∀ stdout, ∀ step ∈ trace, ¬ Lists stdout step := by
  obtain ⟨first, rest, available, rfl, looks, continues⟩ := Program.runs_bind_ok.mp runs
  obtain ⟨path, rfl, rfl⟩ := busctlAvailable_runs looks
  split at continues
  case isFalse =>
    obtain ⟨rfl, same⟩ := Program.runs_done.mp continues
    refine Or.inr ⟨Except.ok.inj same, ?_⟩
    intro stdout
    rw [List.append_nil, List.forall_mem_singleton]
    exact not_lists_which path stdout
  case isTrue =>
    rcases Program.runs_perform_bind.mp continues with
      ⟨exc, impossible, _⟩ | ⟨tree, later, rfl, chooses⟩
    · cases impossible
    split at chooses
    case isFalse succeeds =>
      obtain ⟨rfl, same⟩ := Program.runs_done.mp chooses
      refine Or.inl ⟨tree.stdout, ⟨_, List.mem_cons_of_mem _ List.mem_cons_self, ?_⟩,
        Except.ok.inj same⟩
      exact lists_iff.mpr ⟨Decidable.of_not_not succeeds, rfl⟩
    case isTrue fails =>
      rcases Program.runs_perform_bind.mp chooses with
        ⟨exc, impossible, _⟩ | ⟨whole, last, rfl, ends⟩
      · cases impossible
      split at ends
      case isFalse succeeds =>
        obtain ⟨rfl, same⟩ := Program.runs_done.mp ends
        refine Or.inl ⟨whole.stdout, ⟨_, List.mem_cons_of_mem _
          (List.mem_cons_of_mem _ List.mem_cons_self), ?_⟩, Except.ok.inj same⟩
        exact lists_iff.mpr ⟨Decidable.of_not_not succeeds, rfl⟩
      case isTrue failsAgain =>
        obtain ⟨rfl, same⟩ := Program.runs_done.mp ends
        refine Or.inr ⟨Except.ok.inj same, ?_⟩
        intro stdout
        rw [List.singleton_append, List.forall_mem_cons, List.forall_mem_cons,
          List.forall_mem_singleton, lists_iff, lists_iff]
        exact ⟨not_lists_which path stdout, fun lists => fails lists.1,
          fun lists => failsAgain lists.1⟩

theorem authorizeDevice_eq_ok_iff
    {agent : AutoConfirmBluezAgent} {device : String} :
    agent.authorizeDevice device = .ok () ↔ agent.deviceSuffix.toList <:+ device.toList := by
  unfold AutoConfirmBluezAgent.authorizeDevice
  rw [← List.isSuffixOf_iff_suffix]
  split
  case isTrue ends => exact iff_of_true rfl ends
  case isFalse noEnd =>
    constructor
    · intro impossible
      cases impossible
    · intro ends
      exact absurd ends noEnd

theorem reply_eq_ok_iff
    {agent : AutoConfirmBluezAgent} {request : AgentRequest} {device : String}
    (names : request.device = some device) :
    agent.reply request = .ok () ↔
      request.asksEntry = false ∧ agent.authorizeDevice device = .ok () := by
  have refused (text : String) : ¬ agent.refuseEntry device text = .ok () := by
    unfold AutoConfirmBluezAgent.refuseEntry
    cases agent.authorizeDevice device with
    | ok value =>
        intro impossible
        cases impossible
    | error exc =>
        intro impossible
        cases impossible
  cases request with
  | release => cases names
  | cancel => cases names
  | requestPinCode =>
      cases names
      exact iff_of_false (refused _) fun impossible => Bool.noConfusion impossible.1
  | requestPasskey =>
      cases names
      exact iff_of_false (refused _) fun impossible => Bool.noConfusion impossible.1
  | displayPinCode =>
      cases names
      exact (and_iff_right rfl).symm
  | displayPasskey =>
      cases names
      exact (and_iff_right rfl).symm
  | requestConfirmation =>
      cases names
      exact (and_iff_right rfl).symm
  | requestAuthorization =>
      cases names
      exact (and_iff_right rfl).symm
  | authorizeService =>
      cases names
      exact (and_iff_right rfl).symm

/-- The lookup of a device finds its first object in the tree that `busctl` has printed,
and of the devices in the tree the agent confirms that one alone, whatever the letters
of its address, and never with something that has to be typed in. -/
theorem device_found_and_confirmed
    {lines : List TreeLine} {address : Common.Address}
    {trace : List Step} {found : Option String}
    (runs : (findDeviceObjectPath (String.ofList address.text)).Runs trace (.ok found))
    (prints : ∀ stdout, ∀ step ∈ trace, Lists stdout step -> stdout = printTree lines) :
    (found = (((lines.filterMap TreeLine.object).find? fun object =>
          object.isDevice address).map fun object => String.ofList object.path) ∨
      found = none ∧ ∀ stdout, ∀ step ∈ trace, ¬ Lists stdout step) ∧
      ∀ adapter oneLine other request,
        request.device =
            some (String.ofList (BluezObject.device adapter oneLine other).path) ->
          ((AutoConfirmBluezAgent.init (String.ofList address.text)).reply request = .ok () ↔
            request.asksEntry = false ∧ address.octets = other.octets) := by
  constructor
  · rcases findDeviceObjectPath_runs runs with ⟨stdout, ⟨step, present, lists⟩, rfl⟩ | none
    · rw [prints stdout step present lists, objectPathIn_printTree]
      exact Or.inl rfl
    · exact Or.inr none
  · intro adapter oneLine other request names
    rw [reply_eq_ok_iff names, authorizeDevice_eq_ok_iff, String.toList_ofList,
      BluezObject.path_device]
    apply and_congr_right
    intro _
    have whole : "/org/bluez/".toList ++ adapter ++ '/' :: objectName other =
        ("/org/bluez/".toList ++ adapter ++ ['/']) ++ objectName other := by
      rw [List.append_assoc _ ['/'], List.singleton_append]
    rw [whole]
    exact objectName_suffix_iff

/-- A path that is too short for the object of a device. -/
theorem namesNone_of_short
    {path : Text}
    (short : path.length < 22)
    (address : Common.Address) :
    ¬ '/' :: objectName address <:+ path := by
  intro ends
  have bound := ends.length_le
  rw [List.length_cons, length_objectName] at bound
  omega

/-- What `busctl` prints where two bikes are known. -/
def twoBikes : String :=
  "└─ /org\n  └─ /org/bluez\n    └─ /org/bluez/hci0\n" ++
    "      ├─ /org/bluez/hci0/dev_00_04_63_AA_BB_CE\n" ++
      "      └─ /org/bluez/hci0/dev_00_04_63_AA_BB_CC\n"

/-- A lookup that lists the tree of two bikes. -/
def lookupSteps : List Step :=
  [⟨.which "busctl", .ok (some "/usr/bin/busctl")⟩,
    ⟨.runCommand ["busctl", "tree", BLUEZ_SERVICE, BLUEZ_ROOT_PATH] 15,
      .ok ⟨[], 0, twoBikes, ""⟩⟩]

/-- The lines of that tree. -/
theorem exists_twoBikes :
    ∃ lines : List TreeLine, ∃ address : Common.Address,
      printTree lines = twoBikes ∧ String.ofList address.text = "00:04:63:aa:bb:cc" ∧
        (((lines.filterMap TreeLine.object).find? fun object =>
          object.isDevice address).map fun object => String.ofList object.path) =
            some "/org/bluez/hci0/dev_00_04_63_AA_BB_CC" ∧
        ∃ other : Common.Address, address.octets = other.octets ∧
          String.ofList (BluezObject.device "hci0".toList (by decide) other).path =
            "/org/bluez/hci0/dev_00_04_63_AA_BB_CC" := by
  let bike : Common.Address :=
    ⟨[⟨'0', '0', rfl, rfl⟩, ⟨'0', '4', rfl, rfl⟩, ⟨'6', '3', rfl, rfl⟩, ⟨'A', 'A', rfl, rfl⟩,
      ⟨'B', 'B', rfl, rfl⟩, ⟨'C', 'C', rfl, rfl⟩], rfl⟩
  refine ⟨
    [.other "└─ /org".toList (by decide)
        (fun has => absurd (Text.contains_iff.mpr has) (by decide)),
      .node "  └─ ".toList (by decide) (by decide) (.plain ⟨"/org/bluez".toList, by decide,
        by decide, Text.trimmed_of_ends rfl rfl (by decide) (by decide),
        namesNone_of_short (by decide)⟩),
      .node "    └─ ".toList (by decide) (by decide) (.plain ⟨"/org/bluez/hci0".toList, by decide,
        by decide, Text.trimmed_of_ends rfl rfl (by decide) (by decide),
        namesNone_of_short (by decide)⟩),
      .node "      ├─ ".toList (by decide) (by decide) (.device "hci0".toList (by decide)
        ⟨[⟨'0', '0', rfl, rfl⟩, ⟨'0', '4', rfl, rfl⟩, ⟨'6', '3', rfl, rfl⟩, ⟨'A', 'A', rfl, rfl⟩,
          ⟨'B', 'B', rfl, rfl⟩, ⟨'C', 'E', rfl, rfl⟩], rfl⟩),
      .node "      └─ ".toList (by decide) (by decide) (.device "hci0".toList (by decide) bike)],
    ⟨[⟨'0', '0', rfl, rfl⟩, ⟨'0', '4', rfl, rfl⟩, ⟨'6', '3', rfl, rfl⟩, ⟨'a', 'a', rfl, rfl⟩,
      ⟨'b', 'b', rfl, rfl⟩, ⟨'c', 'c', rfl, rfl⟩], rfl⟩, ?_, ?_, ?_, bike, ?_, ?_⟩
  · decide +kernel
  · decide
  · decide
  · decide
  · decide

/-- An address in small letters: its device is found behind another one, and confirmed. -/
theorem device_found_and_confirmed_small :
    (findDeviceObjectPath "00:04:63:aa:bb:cc").Runs lookupSteps
        (.ok (some "/org/bluez/hci0/dev_00_04_63_AA_BB_CC")) ∧
      (AutoConfirmBluezAgent.init "00:04:63:aa:bb:cc").reply
        (.requestConfirmation "/org/bluez/hci0/dev_00_04_63_AA_BB_CC" 123456) = .ok () := by
  have runs : (findDeviceObjectPath "00:04:63:aa:bb:cc").Runs lookupSteps
      (.ok (objectPathIn twoBikes (deviceObjectSuffix "00:04:63:aa:bb:cc"))) := by
    repeat first | exact Program.Runs.done | apply Program.Runs.ask
  have lists : Lists twoBikes ⟨.runCommand ["busctl", "tree", BLUEZ_SERVICE, BLUEZ_ROOT_PATH] 15,
      .ok ⟨[], 0, twoBikes, ""⟩⟩ :=
    lists_iff.mpr ⟨rfl, rfl⟩
  obtain ⟨lines, address, printed, text_eq, first, other, octets_eq, path_eq⟩ := exists_twoBikes
  rw [← text_eq] at runs
  have prints : ∀ stdout, ∀ step ∈ lookupSteps, Lists stdout step -> stdout = printTree lines := by
    intro stdout
    rw [printed, lookupSteps, List.forall_mem_cons, List.forall_mem_singleton]
    refine ⟨fun lists => absurd lists (not_lists_which _ _), ?_⟩
    intro lists
    exact (lists_iff.mp lists).2.symm
  obtain ⟨finds, confirms⟩ := device_found_and_confirmed runs prints
  rw [first] at finds
  rw [text_eq] at runs finds confirms
  constructor
  · rcases finds with found_eq | ⟨_, unlisted⟩
    · rwa [found_eq] at runs
    · exact absurd lists (unlisted _ _ (List.mem_cons_of_mem _ List.mem_cons_self))
  · exact (confirms _ (by decide) other
      (.requestConfirmation "/org/bluez/hci0/dev_00_04_63_AA_BB_CC" 123456)
        (congrArg some path_eq.symm)).mpr ⟨rfl, octets_eq⟩

end Bluez
end BoschBle
