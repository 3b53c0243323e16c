import BoschBle.Bluez.Trace

/-!
# The events of a connection

A connection to a peer over a given handle as `btmon` prints it, and what the
patterns of a summary find in its events.
-/

namespace BoschBle
namespace Bluez

open Foundation

/-! ## The digits of a handle -/

/-- What holds of the ten digits holds of the digits of a number. -/
theorem forall_digits
    (holds : Char -> Prop)
    (each : ∀ digit < 10, holds (Nat.digitChar digit))
    (handle : Nat) :
    ∀ char ∈ Nat.toDigits 10 handle, holds char := by
  intro char isDigit
  have ascii := Nat.isDigit_of_mem_toDigits (Nat.succ_pos 9) (Nat.le_refl 10) isDigit
  have inRange : 48 ≤ char.toNat ∧ char.toNat ≤ 57 := by
    simpa [Char.isDigit, UInt32.le_iff_toNat_le] using ascii
  have digitChar_eq : ∀ digit < 10, Nat.digitChar digit = Char.ofNat (48 + digit) := by
    decide
  have isDigitChar : Nat.digitChar (char.toNat - 48) = char := by
    rw [digitChar_eq _ (by omega), Nat.add_sub_cancel' inRange.1, Char.ofNat_toNat]
  rw [← isDigitChar]
  exact each _ (by omega)

/-- A search passes the digits of a number that no match starts with. -/
theorem searchFrom_digits
    {regex : Regex}
    (consumes : regex.nullable = false)
    (cannot : ∀ digit < 10, regex.canStart (Nat.digitChar digit) = false)
    (previous : Option Char)
    (handle : Nat)
    (rest : Text) :
    ∃ last, regex.searchFrom previous (Nat.toDigits 10 handle ++ rest) =
      regex.searchFrom last rest :=
  Regex.searchFrom_skip consumes previous
    (forall_digits (fun char => regex.canStart char = false) cannot handle)

/-! ## Its events -/

/-- The lines of the event that creates a connection. -/
def creation (peer : String) : Text :=
  Regex.unlines
    ["< HCI Command: LE Create Connection (0x08|0x000d) plen 25".toList,
      "        Peer address: ".toList ++ peer.toList]

/-- The lines of the event with which a connection gets its handle. -/
def completion (peer : String) (handle : Nat) : Text :=
  Regex.unlines
    ["> HCI Event: LE Meta Event (0x3e) plen 31".toList,
      "      LE Enhanced Connection Complete (0x0a)".toList,
      "        Handle: ".toList ++ Nat.toDigits 10 handle,
      "        Peer address: ".toList ++ peer.toList]

/-- The lines of the event that ends a connection. -/
def ending (handle : Nat) (reason : String) : Text :=
  Regex.unlines
    ["> HCI Event: Disconnect Complete (0x05) plen 4".toList,
      "        Status: Success (0x00)".toList,
      "        Handle: ".toList ++ Nat.toDigits 10 handle,
      "        Reason: ".toList ++ reason.toList]

/-- Two peers: one of them is not the target of a summary. -/
def otherPeers : List String :=
  ["AA:BB:CC:DD:EE:FF", "11:22:33:44:55:66"]

/-- Two reasons for the end of a connection. -/
def reasons : List String :=
  ["Connection Timeout (0x08)", "Remote User Terminated Connection (0x13)"]

/-! ## What a summary reads in them -/

theorem completion_eq (peer : String) (handle : Nat) :
    completion peer handle =
      "> HCI Event: LE Meta Event (0x3e) plen 31".toList ++ (['\n'] ++
        ("      LE Enhanced Connection Complete (0x0a)".toList ++ (['\n'] ++
          ("        Handle: ".toList ++ (Nat.toDigits 10 handle ++ (['\n'] ++
            ("        Peer address: ".toList ++ (peer.toList ++ ['\n'])))))))) := by
  simp only [completion, Regex.unlines, List.flatMap_cons, List.flatMap_nil,
    List.append_assoc, List.append_nil]

theorem ending_eq (handle : Nat) (reason : String) :
    ending handle reason =
      "> HCI Event: Disconnect Complete (0x05) plen 4".toList ++ (['\n'] ++
        ("        Status: Success (0x00)".toList ++ (['\n'] ++
          ("        Handle: ".toList ++ (Nat.toDigits 10 handle ++ (['\n'] ++
            ("        Reason: ".toList ++ (reason.toList ++ ['\n'])))))))) := by
  simp only [ending, Regex.unlines, List.flatMap_cons, List.flatMap_nil,
    List.append_assoc, List.append_nil]

/-- The number of a handle is read to its last digit. -/
theorem matchAt_handle
    (previous : Option Char)
    (handle : Nat)
    (behind : Text) :
    handlePattern.matchAt previous
        ("Handle: ".toList ++ (Nat.toDigits 10 handle ++ (['\n'] ++ behind))) =
      some (Nat.toDigits 10 handle) := by
  have areDigits :=
    forall_digits (fun char => Regex.isDigit char = true) (by decide) handle
  have noSeparators :=
    forall_digits (fun char => (char == ' ' || char == ':') = false) (by decide) handle
  cases digits_eq : Nat.toDigits 10 handle with
  | nil => cases Nat.toDigits_ne_nil digits_eq
  | cons digit digits =>
      rw [digits_eq, List.forall_mem_cons] at areDigits noSeparators
      -- What is left of the pattern behind the separators.
      let next (cursor : Regex.Cursor) : Option Text :=
        (Regex.group (Regex.oneOrMore Regex.isDigit)).run cursor
          fun cursor => some (cursor.captured.getD [])
      let rest : Text := digit :: digits ++ '\n' :: behind
      have digitsTaken (previous : Option Char) :
          next ⟨previous, rest, none, none⟩ = some (digit :: digits) := by
        change (if Regex.isDigit digit then Regex.runMany Regex.isDigit _
          (digits ++ '\n' :: behind) _ else none) = _
        rw [if_pos areDigits.1]
        apply Regex.runMany_eq_some areDigits.2
        · intro char isNext
          cases isNext
          decide
        · exact fun _ => rfl
      have stops : ∀ char ∈ rest.head?, (char == ' ' || char == ':') = false := by
        intro char isNext
        cases isNext
        exact noSeparators.1
      have spaceTaken : ∀ char ∈ [' '], (char == ' ' || char == ':') = true := by
        intro char isSpace
        rw [List.mem_singleton.mp isSpace]
        rfl
      exact Regex.runMany_eq_some spaceTaken stops (some ':') none digitsTaken

theorem search_handle_completion (peer : String) (handle : Nat) :
    handlePattern.search (completion peer handle) = some (Nat.toDigits 10 handle) := by
  rw [completion_eq]
  have found := Regex.searchFrom_of_matchAt (matchAt_handle (some ' ') handle
    ("        Peer address: ".toList ++ (peer.toList ++ ['\n'])))
  exact found

theorem search_handle_ending (handle : Nat) (reason : String) :
    handlePattern.search (ending handle reason) = some (Nat.toDigits 10 handle) := by
  rw [ending_eq]
  have found := Regex.searchFrom_of_matchAt (matchAt_handle (some ' ') handle
    ("        Reason: ".toList ++ (reason.toList ++ ['\n'])))
  exact found

theorem handleOf_of_search
    {event : Text} {handle : Nat}
    (found : handlePattern.search event = some (Nat.toDigits 10 handle))
    (readable : intOfDigits (Nat.toDigits 10 handle) = .ok handle) :
    handleOf event = .ok (some handle) := by
  rw [handleOf, found]
  exact congrArg (fun number => number >>= fun value => Except.ok (some value)) readable

theorem peerOf_creation
    {peer : String}
    (isOther : peer ∈ otherPeers) :
    peerOf (creation peer) = some peer := by
  rcases List.mem_pair.mp isOther with rfl | rfl <;> rfl

theorem peerOf_completion
    {peer : String}
    (isOther : peer ∈ otherPeers)
    (handle : Nat) :
    peerOf (completion peer handle) = some peer := by
  obtain ⟨last, passes⟩ := @searchFrom_digits peerPattern (by decide) (by decide)
    (some ' ') handle (['\n'] ++ ("        Peer address: ".toList ++ (peer.toList ++ ['\n'])))
  have finds : peerPattern.search (completion peer handle) = some peer.toList := by
    rw [completion_eq]
    refine passes.trans ?_
    rcases List.mem_pair.mp isOther with rfl | rfl <;> rfl
  rw [peerOf, finds]
  rcases List.mem_pair.mp isOther with rfl | rfl <;> decide

theorem peerOf_ending
    {reason : String}
    (isReason : reason ∈ reasons)
    (handle : Nat) :
    peerOf (ending handle reason) = none := by
  obtain ⟨last, passes⟩ := @searchFrom_digits peerPattern (by decide) (by decide)
    (some ' ') handle (['\n'] ++ ("        Reason: ".toList ++ (reason.toList ++ ['\n'])))
  have misses : peerPattern.search (ending handle reason) = none := by
    rw [ending_eq]
    refine passes.trans ?_
    rcases List.mem_pair.mp isReason with rfl | rfl <;> rfl
  rw [peerOf, misses]
  rfl

theorem search_reason_ending
    {reason : String}
    (isReason : reason ∈ reasons)
    (handle : Nat)
    (behind : Text) :
    reasonPattern.search (ending handle reason ++ behind) = some reason.toList := by
  obtain ⟨last, passes⟩ := @searchFrom_digits reasonPattern (by decide) (by decide)
    (some ' ') handle (['\n'] ++ ("        Reason: ".toList ++ (reason.toList ++ (['\n'] ++ behind))))
  rw [ending_eq]
  simp only [List.append_assoc]
  refine passes.trans ?_
  rcases List.mem_pair.mp isReason with rfl | rfl <;> rfl

/-! ## They are events of a trace -/

theorem headerPattern_withinLine : headerPattern.WithinLine := by
  decide

theorem indented_of_space
    {line : Text}
    (startsWithSpace : line.head? = some ' ')
    (oneLine : '\n' ∉ line) :
    Regex.Indented headerPattern line :=
  ⟨oneLine, ' ', startsWithSpace, by decide⟩

theorem indented_handle (handle : Nat) :
    Regex.Indented headerPattern ("        Handle: ".toList ++ Nat.toDigits 10 handle) := by
  apply indented_of_space rfl
  rw [List.mem_append, not_or]
  exact ⟨by decide, fun present =>
    forall_digits (fun char => char ≠ '\n') (by decide) handle _ present rfl⟩

theorem isPiece_of_header
    {first : Text} {others : List Text}
    (isHeader : (headerPattern.matchAt none (first ++ ['\n'])).isSome = true)
    (nonempty : first ≠ [])
    (oneLine : '\n' ∉ first)
    (indented : ∀ other ∈ others, Regex.Indented headerPattern other) :
    Regex.IsPiece headerPattern (Regex.unlines (first :: others)) :=
  Regex.isPiece_of_lines headerPattern_withinLine (by decide) (by decide) nonempty isHeader
    oneLine indented

theorem isPiece_creation
    {peer : String}
    (oneLine : '\n' ∉ peer.toList) :
    Regex.IsPiece headerPattern (creation peer) := by
  apply isPiece_of_header (by decide) (by decide) (by decide)
  rw [List.forall_mem_singleton]
  apply indented_of_space rfl
  rw [List.mem_append, not_or]
  exact ⟨by decide, oneLine⟩

theorem isPiece_completion
    {peer : String}
    (oneLine : '\n' ∉ peer.toList)
    (handle : Nat) :
    Regex.IsPiece headerPattern (completion peer handle) := by
  apply isPiece_of_header (by decide) (by decide) (by decide)
  rw [List.forall_mem_cons, List.forall_mem_cons, List.forall_mem_singleton]
  refine ⟨indented_of_space rfl (by decide), indented_handle handle, indented_of_space rfl ?_⟩
  rw [List.mem_append, not_or]
  exact ⟨by decide, oneLine⟩

theorem isPiece_ending
    {reason : String}
    (oneLine : '\n' ∉ reason.toList)
    (handle : Nat) :
    Regex.IsPiece headerPattern (ending handle reason) := by
  apply isPiece_of_header (by decide) (by decide) (by decide)
  rw [List.forall_mem_cons, List.forall_mem_cons, List.forall_mem_singleton]
  refine ⟨indented_of_space rfl (by decide), indented_handle handle, indented_of_space rfl ?_⟩
  rw [List.mem_append, not_or]
  exact ⟨by decide, oneLine⟩

end Bluez
end BoschBle
