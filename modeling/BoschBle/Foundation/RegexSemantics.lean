import BoschBle.Foundation.Regex

/-!
# What a pattern matches

The places that a match of a pattern can end at, without the order in which the
matcher tries them.  The matcher succeeds exactly when what comes behind succeeds at
one of these places.
-/

namespace BoschBle
namespace Foundation

/-- The place behind some characters. -/
def Regex.Cursor.advanceBy (cursor : Cursor) (taken rest : Text) : Cursor :=
  { cursor with
    previous := taken.getLast?.or cursor.previous
    rest := rest
    opened := cursor.opened.map fun text => text ++ taken }

namespace Regex

/-- A match of the pattern at the first place can end at the second one. -/
def Reaches : Regex -> Cursor -> Cursor -> Prop
  | .empty, start, stop => stop = start
  | .one accepts, start, stop =>
      ∃ char rest, start.rest = char :: rest ∧ accepts char = true ∧
        stop = start.advance char rest
  | .andThen first second, start, stop =>
      ∃ middle, first.Reaches start middle ∧ second.Reaches middle stop
  | .either first second, start, stop => first.Reaches start stop ∨ second.Reaches start stop
  | .many accepts, start, stop =>
      ∃ taken rest, start.rest = taken ++ rest ∧ (∀ char ∈ taken, accepts char = true) ∧
        stop = start.advanceBy taken rest
  | .group body, start, stop =>
      ∃ after, body.Reaches { start with opened := some [] } after ∧
        stop = { after with opened := none, captured := after.opened }
  | .lineStart, start, stop =>
      (start.previous = none ∨ start.previous = some '\n') ∧ stop = start
  | .lineEnd, start, stop =>
      (start.rest.head? = none ∨ start.rest.head? = some '\n') ∧ stop = start
  | .textStart, start, stop => start.previous = none ∧ stop = start
  | .textEnd, start, stop => (start.rest = [] ∨ start.rest = ['\n']) ∧ stop = start

theorem Cursor.advanceBy_nil
    (cursor : Cursor)
    {rest : Text}
    (rest_eq : cursor.rest = rest) :
    cursor.advanceBy [] rest = cursor := by
  subst rest_eq
  simp [advanceBy]

theorem Cursor.advanceBy_cons
    (cursor : Cursor)
    (char : Char)
    (taken middle rest : Text) :
    (cursor.advance char middle).advanceBy taken rest =
      cursor.advanceBy (char :: taken) rest := by
  have previous_eq : taken.getLast?.or (some char) =
      (char :: taken).getLast?.or cursor.previous := by
    rw [List.getLast?_cons]
    cases taken.getLast? with
    | none => rfl
    | some last => rfl
  have opened_eq : (cursor.opened.map fun text => text ++ [char]).map
      (fun text => text ++ taken) = cursor.opened.map fun text => text ++ char :: taken := by
    rw [Option.map_map]
    congr
    funext text
    exact List.append_assoc text [char] taken
  simp only [advanceBy, advance, previous_eq, opened_eq]

theorem runMany_isSome
    {accepts : Char -> Bool} {next : Cursor -> Option β}
    (text : Text)
    (cursor : Cursor)
    (text_eq : cursor.rest = text) :
    (runMany accepts next text cursor).isSome = true ↔
      ∃ taken rest, text = taken ++ rest ∧ (∀ char ∈ taken, accepts char = true) ∧
        (next (cursor.advanceBy taken rest)).isSome = true := by
  induction text generalizing cursor with
  | nil =>
      rw [runMany]
      constructor
      · intro succeeds
        refine ⟨[], [], rfl, fun _ inNone => absurd inNone List.not_mem_nil, ?_⟩
        rwa [cursor.advanceBy_nil text_eq]
      · rintro ⟨taken, rest, split, _, succeeds⟩
        obtain ⟨rfl, rfl⟩ := List.append_eq_nil_iff.mp split.symm
        rwa [cursor.advanceBy_nil text_eq] at succeeds
  | cons char text inductionHypothesis =>
      have longer := inductionHypothesis (cursor.advance char text) rfl
      rw [runMany]
      cases accepted : accepts char with
      | true =>
          rw [if_pos rfl, Option.isSome_or, Bool.or_eq_true, longer]
          constructor
          · rintro (⟨taken, rest, rfl, allAccepted, succeeds⟩ | succeeds)
            · refine ⟨char :: taken, rest, rfl,
                List.forall_mem_cons.mpr ⟨accepted, allAccepted⟩, ?_⟩
              rwa [cursor.advanceBy_cons] at succeeds
            · refine ⟨[], char :: text, rfl, fun _ inNone => absurd inNone List.not_mem_nil,
                ?_⟩
              rwa [cursor.advanceBy_nil text_eq]
          · rintro ⟨taken, rest, split, allAccepted, succeeds⟩
            cases taken with
            | nil =>
                right
                rw [List.nil_append] at split
                rwa [← split, cursor.advanceBy_nil text_eq] at succeeds
            | cons first taken =>
                left
                rw [List.cons_append, List.cons.injEq] at split
                obtain ⟨rfl, rfl⟩ := split
                refine ⟨taken, rest, rfl, (List.forall_mem_cons.mp allAccepted).2, ?_⟩
                rwa [cursor.advanceBy_cons]
      | false =>
          rw [if_neg Bool.false_ne_true]
          constructor
          · intro succeeds
            refine ⟨[], char :: text, rfl, fun _ inNone => absurd inNone List.not_mem_nil, ?_⟩
            rwa [cursor.advanceBy_nil text_eq]
          · rintro ⟨taken, rest, split, allAccepted, succeeds⟩
            cases taken with
            | nil =>
                rw [List.nil_append] at split
                rwa [← split, cursor.advanceBy_nil text_eq] at succeeds
            | cons first taken =>
                rw [List.cons_append, List.cons.injEq] at split
                have wrong := (List.forall_mem_cons.mp allAccepted).1
                rw [← split.1, accepted] at wrong
                cases wrong

theorem isSome_ite
    {condition : Prop} [Decidable condition] {found : Option β} :
    (if condition then found else none).isSome = true ↔
      condition ∧ found.isSome = true := by
  split <;> simp [*]

/-- The matcher succeeds where what is behind succeeds at the end of some match. -/
theorem run_isSome
    {regex : Regex} {cursor : Cursor} {next : Cursor -> Option β} :
    (regex.run cursor next).isSome = true ↔
      ∃ stop, regex.Reaches cursor stop ∧ (next stop).isSome = true := by
  induction regex generalizing cursor next with
  | empty => simp [run, Reaches]
  | one accepts =>
      cases rest_eq : cursor.rest with
      | nil => simp [run, Reaches, rest_eq]
      | cons char rest =>
          cases accepted : accepts char with
          | true => simp [run, Reaches, rest_eq, accepted]
          | false => simp [run, Reaches, rest_eq, accepted]
  | andThen first second firstHypothesis secondHypothesis =>
      rw [run, firstHypothesis]
      simp only [secondHypothesis, Reaches]
      constructor
      · rintro ⟨middle, reachesMiddle, stop, reachesStop, succeeds⟩
        exact ⟨stop, ⟨middle, reachesMiddle, reachesStop⟩, succeeds⟩
      · rintro ⟨stop, ⟨middle, reachesMiddle, reachesStop⟩, succeeds⟩
        exact ⟨middle, reachesMiddle, stop, reachesStop, succeeds⟩
  | either first second firstHypothesis secondHypothesis =>
      rw [run, Option.isSome_or, Bool.or_eq_true, firstHypothesis, secondHypothesis]
      simp only [Reaches, or_and_right, exists_or]
  | many accepts =>
      rw [run, runMany_isSome cursor.rest cursor rfl]
      constructor
      · rintro ⟨taken, rest, split, allAccepted, succeeds⟩
        exact ⟨_, ⟨taken, rest, split, allAccepted, rfl⟩, succeeds⟩
      · rintro ⟨_, ⟨taken, rest, split, allAccepted, rfl⟩, succeeds⟩
        exact ⟨taken, rest, split, allAccepted, succeeds⟩
  | group body inductionHypothesis =>
      rw [run, inductionHypothesis]
      constructor
      · rintro ⟨after, reaches, succeeds⟩
        exact ⟨_, ⟨after, reaches, rfl⟩, succeeds⟩
      · rintro ⟨_, ⟨after, reaches, rfl⟩, succeeds⟩
        exact ⟨after, reaches, succeeds⟩
  | lineStart => simp [run, Reaches, isSome_ite]
  | lineEnd => simp [run, Reaches, isSome_ite]
  | textStart => simp [run, Reaches, isSome_ite]
  | textEnd => simp [run, Reaches, isSome_ite]

/-- A pattern matches at a place where some match can start. -/
theorem matchAt_isSome
    {regex : Regex} {previous : Option Char} {text : Text} :
    (regex.matchAt previous text).isSome = true ↔
      ∃ stop, regex.Reaches ⟨previous, text, none, none⟩ stop := by
  rw [matchAt, run_isSome]
  simp

/-! ## Patterns without anchors -/

/-- The pattern has no anchors. -/
def Anchorless : Regex -> Prop
  | .empty | .one _ | .many _ => True
  | .andThen first second | .either first second => first.Anchorless ∧ second.Anchorless
  | .group body => body.Anchorless
  | .lineStart | .lineEnd | .textStart | .textEnd => False

/-- The texts that a pattern without anchors matches. -/
def Spells : Regex -> Text -> Prop
  | .empty, text => text = []
  | .one accepts, text => ∃ char, text = [char] ∧ accepts char = true
  | .andThen first second, text =>
      ∃ front back, text = front ++ back ∧ first.Spells front ∧ second.Spells back
  | .either first second, text => first.Spells text ∨ second.Spells text
  | .many accepts, text => ∀ char ∈ text, accepts char = true
  | .group body, text => body.Spells text
  | .lineStart, _ | .lineEnd, _ | .textStart, _ | .textEnd, _ => False

/-- Where a match can end is decided by what can be taken from the rest. -/
theorem reaches_iff_spells
    {regex : Regex}
    (anchorless : regex.Anchorless)
    (start : Cursor)
    (holds : Text -> Prop) :
    (∃ stop, regex.Reaches start stop ∧ holds stop.rest) ↔
      ∃ taken rest, start.rest = taken ++ rest ∧ regex.Spells taken ∧ holds rest := by
  induction regex generalizing start holds with
  | empty => simp [Reaches, Spells]
  | one accepts =>
      constructor
      · rintro ⟨_, ⟨char, rest, rest_eq, accepted, rfl⟩, held⟩
        exact ⟨[char], rest, rest_eq, ⟨char, rfl, accepted⟩, held⟩
      · rintro ⟨_, rest, rest_eq, ⟨char, rfl, accepted⟩, held⟩
        exact ⟨_, ⟨char, rest, rest_eq, accepted, rfl⟩, held⟩
  | andThen first second firstHypothesis secondHypothesis =>
      have behind := fun middle => secondHypothesis anchorless.2 middle holds
      constructor
      · rintro ⟨stop, ⟨middle, reachesMiddle, reachesStop⟩, held⟩
        have split := (behind middle).mp ⟨stop, reachesStop, held⟩
        obtain ⟨front, rest, rest_eq, frontSpelled, back, last, rfl, backSpelled, heldLast⟩ :=
          (firstHypothesis anchorless.1 start (fun rest => ∃ back last, rest = back ++ last ∧
            second.Spells back ∧ holds last)).mp ⟨middle, reachesMiddle, split⟩
        exact ⟨front ++ back, last, by rw [rest_eq, List.append_assoc],
          ⟨front, back, rfl, frontSpelled, backSpelled⟩, heldLast⟩
      · rintro ⟨_, last, rest_eq, ⟨front, back, rfl, frontSpelled, backSpelled⟩, held⟩
        obtain ⟨middle, reachesMiddle, split⟩ :=
          (firstHypothesis anchorless.1 start (fun rest => ∃ back last, rest = back ++ last ∧
            second.Spells back ∧ holds last)).mpr
            ⟨front, back ++ last, by rw [rest_eq, List.append_assoc], frontSpelled,
              back, last, rfl, backSpelled, held⟩
        obtain ⟨stop, reachesStop, heldStop⟩ := (behind middle).mpr split
        exact ⟨stop, ⟨middle, reachesMiddle, reachesStop⟩, heldStop⟩
  | either first second firstHypothesis secondHypothesis =>
      simp only [Reaches, Spells, or_and_right, and_or_left, exists_or,
        firstHypothesis anchorless.1, secondHypothesis anchorless.2]
  | many accepts =>
      constructor
      · rintro ⟨_, ⟨taken, rest, rest_eq, allAccepted, rfl⟩, held⟩
        exact ⟨taken, rest, rest_eq, allAccepted, held⟩
      · rintro ⟨taken, rest, rest_eq, allAccepted, held⟩
        exact ⟨_, ⟨taken, rest, rest_eq, allAccepted, rfl⟩, held⟩
  | group body inductionHypothesis =>
      have inside := inductionHypothesis anchorless { start with opened := some [] } holds
      constructor
      · rintro ⟨_, ⟨after, reaches, rfl⟩, held⟩
        exact inside.mp ⟨after, reaches, held⟩
      · intro taken
        obtain ⟨after, reaches, held⟩ := inside.mpr taken
        exact ⟨_, ⟨after, reaches, rfl⟩, held⟩
  | _ => cases anchorless

/-! ## Patterns one after the other -/

theorem spells_sequence_cons
    {first : Regex} {rest : List Regex} {text : Text} :
    (sequence (first :: rest)).Spells text ↔
      ∃ front back, text = front ++ back ∧ first.Spells front ∧
        (sequence rest).Spells back := by
  cases rest with
  | nil => simp [sequence, Spells]
  | cons second rest => rfl

theorem reaches_sequence_cons
    {first : Regex} {rest : List Regex} {start stop : Cursor} :
    (sequence (first :: rest)).Reaches start stop ↔
      ∃ middle, first.Reaches start middle ∧ (sequence rest).Reaches middle stop := by
  cases rest with
  | nil => simp [sequence, Reaches]
  | cons second rest => rfl

theorem reaches_sequence_append
    {first second : List Regex} {start stop : Cursor} :
    (sequence (first ++ second)).Reaches start stop ↔
      ∃ middle, (sequence first).Reaches start middle ∧
        (sequence second).Reaches middle stop := by
  induction first generalizing start with
  | nil => simp [sequence, Reaches]
  | cons regex first inductionHypothesis =>
      simp only [List.cons_append, reaches_sequence_cons, inductionHypothesis]
      constructor
      · rintro ⟨near, reachesNear, middle, reachesMiddle, reachesStop⟩
        exact ⟨middle, ⟨near, reachesNear, reachesMiddle⟩, reachesStop⟩
      · rintro ⟨middle, ⟨near, reachesNear, reachesMiddle⟩, reachesStop⟩
        exact ⟨near, reachesNear, middle, reachesMiddle, reachesStop⟩

theorem spells_sequence_append
    {first second : List Regex} {text : Text} :
    (sequence (first ++ second)).Spells text ↔
      ∃ front back, text = front ++ back ∧ (sequence first).Spells front ∧
        (sequence second).Spells back := by
  induction first generalizing text with
  | nil => simp [sequence, Spells]
  | cons regex first inductionHypothesis =>
      simp only [List.cons_append, spells_sequence_cons, inductionHypothesis]
      constructor
      · rintro ⟨front, _, rfl, frontSpelled, middle, back, rfl, middleSpelled, backSpelled⟩
        exact ⟨front ++ middle, back, by rw [List.append_assoc],
          ⟨front, middle, rfl, frontSpelled, middleSpelled⟩, backSpelled⟩
      · rintro ⟨_, back, rfl, ⟨front, middle, rfl, frontSpelled, middleSpelled⟩, backSpelled⟩
        exact ⟨front, middle ++ back, by rw [List.append_assoc], frontSpelled,
          middle, back, rfl, middleSpelled, backSpelled⟩

end Regex
end Foundation
end BoschBle
