import BoschBle.Foundation.RecordStream

/-!
# Streams of records cut into pieces

A reader that keeps nothing from one piece to the next finds the records of a
stream exactly when every cut falls between two records.
-/

namespace BoschBle
namespace Foundation
namespace RecordFormat

variable (format : RecordFormat β ε α)

/-- The records of a piece that is read by itself; none where that fails. -/
def recordsOf (piece : List β) : List α :=
  ((format.decodeAll piece).toOption).getD []

/-- A piece that holds whole records. -/
def Whole (piece : List β) : Prop :=
  ∃ records, (∀ record ∈ records, format.Valid record) ∧
    piece = format.encodeAll records

theorem recordsOf_encodeAll
    {records : List α}
    (valid : ∀ record ∈ records, format.Valid record) :
    format.recordsOf (format.encodeAll records) = records := by
  rw [recordsOf, format.decodeAll_encodeAll valid]
  rfl

/-- Either a piece is whole and its records are its encoding, or nothing is
read from it. -/
theorem whole_or_recordsOf_eq_nil (piece : List β) :
    format.Whole piece ∧ format.encodeAll (format.recordsOf piece) = piece ∨
      format.recordsOf piece = [] := by
  cases decodes : format.decodeAll piece with
  | error exc =>
      right
      rw [recordsOf, decodes]
      rfl
  | ok records =>
      left
      obtain ⟨valid, piece_eq⟩ := format.encodeAll_of_decodeAll decodes
      subst piece_eq
      refine ⟨⟨records, valid, rfl⟩, ?_⟩
      rw [format.recordsOf_encodeAll valid]

theorem encodeAll_append (first second : List α) :
    format.encodeAll (first ++ second) =
      format.encodeAll first ++ format.encodeAll second :=
  List.flatMap_append

/-- No more is read from pieces than they hold, and as much only from pieces
that are whole. -/
theorem length_encodeAll_flatMap_recordsOf
    {pieces : List (List β)}
    (nonempty : ∀ piece ∈ pieces, piece ≠ []) :
    (format.encodeAll (pieces.flatMap format.recordsOf)).length ≤
        pieces.flatten.length ∧
      ((format.encodeAll (pieces.flatMap format.recordsOf)).length =
          pieces.flatten.length ->
        ∀ piece ∈ pieces, format.Whole piece) := by
  induction pieces with
  | nil => simp
  | cons piece rest inductionHypothesis =>
      obtain ⟨restLe, restWhole⟩ := inductionHypothesis
        fun other present => nonempty other (List.mem_cons_of_mem piece present)
      have positive : 0 < piece.length :=
        List.length_pos_iff.mpr (nonempty piece List.mem_cons_self)
      rw [List.flatMap_cons, encodeAll_append, List.length_append,
        List.flatten_cons, List.length_append]
      rcases format.whole_or_recordsOf_eq_nil piece with
        ⟨whole, encode_eq⟩ | none
      · rw [encode_eq]
        refine ⟨Nat.add_le_add_left restLe _, ?_⟩
        intro equal
        rw [List.forall_mem_cons]
        exact ⟨whole, restWhole (Nat.add_left_cancel equal)⟩
      · rw [none, encodeAll_nil, List.length_nil]
        refine ⟨by omega, ?_⟩
        intro equal
        omega

/-- Whole pieces are read as the records of the stream. -/
theorem flatMap_recordsOf_of_whole
    {pieces : List (List β)}
    (whole : ∀ piece ∈ pieces, format.Whole piece) :
    (∀ record ∈ pieces.flatMap format.recordsOf, format.Valid record) ∧
      pieces.flatten = format.encodeAll (pieces.flatMap format.recordsOf) := by
  induction pieces with
  | nil => simp
  | cons piece rest inductionHypothesis =>
      rw [List.forall_mem_cons] at whole
      obtain ⟨records, valid, rfl⟩ := whole.1
      obtain ⟨restValid, rest_eq⟩ := inductionHypothesis whole.2
      rw [List.flatMap_cons, format.recordsOf_encodeAll valid, List.flatten_cons,
        encodeAll_append, rest_eq]
      refine ⟨?_, rfl⟩
      rw [List.forall_mem_append]
      exact ⟨valid, restValid⟩

/-- Reading the pieces one by one finds the records of the stream exactly when
every piece is whole. -/
theorem flatMap_recordsOf_eq_iff
    {pieces : List (List β)} {records : List α}
    (nonempty : ∀ piece ∈ pieces, piece ≠ [])
    (valid : ∀ record ∈ records, format.Valid record)
    (stream : pieces.flatten = format.encodeAll records) :
    pieces.flatMap format.recordsOf = records ↔
      ∀ piece ∈ pieces, format.Whole piece := by
  constructor
  · intro equal
    apply (format.length_encodeAll_flatMap_recordsOf nonempty).2
    rw [equal, stream]
  · intro whole
    obtain ⟨readValid, read_eq⟩ := format.flatMap_recordsOf_of_whole whole
    exact format.encodeAll_injective readValid valid (read_eq.symm.trans stream)

/-- Every cut falls between two records. -/
def CutBetween (pieces : List (List β)) (records : List α) : Prop :=
  ∀ count, ∃ complete,
    (pieces.take count).flatten = format.encodeAll (records.take complete)

theorem encodeAll_take_of_le
    (records : List α)
    {first second : Nat}
    (le : first ≤ second) :
    format.encodeAll (records.take second) =
      format.encodeAll (records.take first) ++
        format.encodeAll ((records.take second).drop first) := by
  have split := List.take_append_drop first (records.take second)
  rw [List.take_take, Nat.min_eq_left le] at split
  rw [← encodeAll_append, split]

/-- The pieces between cuts that fall between records are whole. -/
theorem whole_of_cutBetween
    {pieces : List (List β)} {records : List α}
    (valid : ∀ record ∈ records, format.Valid record)
    (between : format.CutBetween pieces records) :
    ∀ piece ∈ pieces, format.Whole piece := by
  intro piece present
  obtain ⟨front, rest, rfl⟩ := List.append_of_mem present
  obtain ⟨first, front_eq⟩ := between front.length
  obtain ⟨second, both_eq⟩ := between (front.length + 1)
  rw [List.take_left] at front_eq
  rw [List.take_length_add_append, List.take_succ_cons, List.take_zero,
    List.flatten_append, List.flatten_singleton, front_eq] at both_eq
  by_cases le : first ≤ second
  · refine ⟨(records.take second).drop first, ?_, ?_⟩
    · intro record member
      exact valid record (List.mem_of_mem_take (List.mem_of_mem_drop member))
    · rw [format.encodeAll_take_of_le records le] at both_eq
      exact List.append_cancel_left both_eq
  · -- The second cut lies before the first one, so the piece is empty.
    refine ⟨[], by simp, ?_⟩
    rw [format.encodeAll_take_of_le records (Nat.le_of_not_le le),
      List.append_assoc] at both_eq
    exact (List.append_eq_nil_iff.mp
      (List.self_eq_append_right.mp both_eq.symm)).2

/-- Cuts between whole pieces fall between records. -/
theorem cutBetween_of_whole
    {pieces : List (List β)} {records : List α}
    (valid : ∀ record ∈ records, format.Valid record)
    (stream : pieces.flatten = format.encodeAll records)
    (whole : ∀ piece ∈ pieces, format.Whole piece) :
    format.CutBetween pieces records := by
  intro count
  obtain ⟨frontValid, front_eq⟩ := format.flatMap_recordsOf_of_whole
    fun piece present => whole piece (List.mem_of_mem_take present)
  obtain ⟨allValid, all_eq⟩ := format.flatMap_recordsOf_of_whole whole
  have records_eq : pieces.flatMap format.recordsOf = records :=
    format.encodeAll_injective allValid valid (all_eq.symm.trans stream)
  refine ⟨((pieces.take count).flatMap format.recordsOf).length, ?_⟩
  rw [front_eq, ← records_eq]
  congr 1
  have split := List.take_append_drop count pieces
  rw [← congrArg (List.flatMap format.recordsOf) split, List.flatMap_append,
    List.take_left]

end RecordFormat
end Foundation
end BoschBle
