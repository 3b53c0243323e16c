import BoschBle.Dashboard.Varint
import BoschBle.Foundation.Dictionary
import Mathlib.Data.List.Induction

/-!
# The grammar of varint fields

A payload is well formed when it is a concatenation of pairs of varints, a key with
the wire type zero and a value.  The reader accepts the well-formed payloads, and of
a repeated field it keeps the last value.
-/

namespace BoschBle
namespace Dashboard

open Foundation

/-- A key with the wire type zero, and a value. -/
structure VarintField where
  key : Varint
  value : Varint
  wireType : key.value % 8 = 0

namespace VarintField

/-- The encoding of a field: its key and its value. -/
def bytes (field : VarintField) : Bytes :=
  field.key.bytes ++ field.value.bytes

/-- The number of a field, without the wire type. -/
def fieldNumber (field : VarintField) : Nat :=
  field.key.value / 8

/-- The pairs, one after the other. -/
def encode (fields : List VarintField) : Bytes :=
  fields.flatMap VarintField.bytes

/-- The value of the last field with a number. -/
def lastValue (fields : List VarintField) (number : Nat) : Option Nat :=
  (fields.reverse.find? fun field => field.fieldNumber = number).map
    fun field => field.value.value

end VarintField

/-- The reader's answer on some bytes, which it joins to the fields that it has. -/
def Reads (data : Bytes) (values : Fields) (result : Except Exn Fields) : Prop :=
  (∀ fields, data = VarintField.encode fields -> result =
    .ok (fields.foldl (fun values field =>
      values.setItem field.fieldNumber field.value.value) values)) ∧
  ((¬∃ fields, data = VarintField.encode fields) ->
    ∃ message, result = .error ⟨.valueError, message⟩)

theorem reads_nil (values : Fields) :
    Reads [] values (.ok values) := by
  constructor
  · intro fields encodes
    cases fields with
    | nil => rfl
    | cons field fields =>
        have notNil : VarintField.encode (field :: fields) ≠ [] := by
          simp [VarintField.encode, VarintField.bytes, Varint.bytes]
        exact absurd encodes.symm notNil
  · intro malformed
    exact absurd ⟨[], rfl⟩ malformed

/-- What stops the reader is not a pair at the front. -/
theorem reads_of_noField
    {data : Bytes}
    (nonempty : data ≠ [])
    (noField : ∀ (field : VarintField) (tail : Bytes), data ≠ field.bytes ++ tail)
    (values : Fields)
    (message : String) :
    Reads data values (.error ⟨.valueError, message⟩) := by
  constructor
  · intro fields encodes
    cases fields with
    | nil => exact absurd encodes nonempty
    | cons field fields => exact absurd encodes (noField field _)
  · intro _
    exact ⟨message, rfl⟩

/-- A varint at the front is followed by the bytes behind the one that was read. -/
theorem drop_of_parseVarint
    {data tail : Bytes} {offset value stop : Nat}
    (parses : parseVarint data offset = .ok (value, stop))
    (varint : Varint)
    (reads : data.drop offset = varint.bytes ++ tail) :
    varint.value = value ∧ data.drop stop = tail := by
  rw [parseVarint_of_varint varint reads, Except.ok.injEq, Prod.mk.injEq] at parses
  obtain ⟨sameValue, rfl⟩ := parses
  refine ⟨sameValue, ?_⟩
  rw [← List.drop_drop, reads, List.drop_left]

/-- Where a varint is read there is one, and otherwise there is none. -/
theorem parseVarint_cases (data : Bytes) (offset : Nat) :
    (∃ varint : Varint, parseVarint data offset =
        .ok (varint.value, offset + varint.bytes.length) ∧
      data.drop offset = varint.bytes ++ data.drop (offset + varint.bytes.length)) ∨
    (∃ message, parseVarint data offset = .error ⟨.valueError, message⟩ ∧
      ∀ (varint : Varint) (tail : Bytes), data.drop offset ≠ varint.bytes ++ tail) := by
  cases Varint.exists_or_marked (data.drop offset) with
  | inl starts =>
      obtain ⟨varint, tail, reads⟩ := starts
      have parses := parseVarint_of_varint varint reads
      refine .inl ⟨varint, parses, ?_⟩
      rw [(drop_of_parseVarint parses varint reads).2, reads]
  | inr allMarked =>
      have fails := parseVarint_of_marked allMarked
      refine .inr ⟨_, fails, ?_⟩
      intro varint tail reads
      rw [parseVarint_of_varint varint reads] at fails
      cases fails

/-- A pass ends at the end of the payload, reads the field at the front, or raises
where there is none. -/
theorem parseVarintFieldsBody_cases
    (payload : Bytes)
    (values : Fields)
    (offset : Nat) :
    (payload.drop offset = [] ∧
      parseVarintFieldsBody payload (values, offset) = .stop (.ok values)) ∨
    (∃ (field : VarintField) (stop : Nat),
      payload.drop offset = field.bytes ++ payload.drop stop ∧
      parseVarintFieldsBody payload (values, offset) =
        .next (values.setItem field.fieldNumber field.value.value, stop)) ∨
    (payload.drop offset ≠ [] ∧
      (∀ (field : VarintField) (tail : Bytes), payload.drop offset ≠ field.bytes ++ tail) ∧
      ∃ message, parseVarintFieldsBody payload (values, offset) =
        .stop (.error ⟨.valueError, message⟩)) := by
  by_cases inside : offset < payload.length
  case neg =>
    refine .inl ⟨List.drop_eq_nil_of_le (Nat.le_of_not_lt inside), ?_⟩
    simp only [parseVarintFieldsBody, inside, if_false]
  case pos =>
    have nonempty : payload.drop offset ≠ [] := by
      rw [Ne, List.drop_eq_nil_iff]
      omega
    right
    obtain ⟨key, keyParses, keyReads⟩ | ⟨message, fails, noKey⟩ :=
      parseVarint_cases payload offset
    case inr =>
      refine .inr ⟨nonempty, ?_, message, ?_⟩
      · intro field tail reads
        exact noKey field.key _ (by rw [reads, VarintField.bytes, List.append_assoc])
      · simp only [parseVarintFieldsBody, inside, if_true, fails]
    case inl =>
      have firstKey : ∀ (field : VarintField) (tail : Bytes),
          payload.drop offset = field.bytes ++ tail ->
            field.key.value = key.value ∧
              payload.drop (offset + key.bytes.length) = field.value.bytes ++ tail := by
        intro field tail reads
        apply drop_of_parseVarint keyParses
        rw [reads, VarintField.bytes, List.append_assoc]
      have wireType_eq : key.value &&& 0x07 = key.value % 8 := by
        rw [show (0x07 : Nat) = 2 ^ 3 - 1 by rfl, Nat.and_two_pow_sub_one_eq_mod]
      by_cases zeroType : key.value % 8 = 0
      case neg =>
        refine .inr ⟨nonempty, ?_, s!"Unsupported wire type {key.value % 8}.", ?_⟩
        · intro field tail reads
          apply zeroType
          rw [← (firstKey field tail reads).1]
          exact field.wireType
        · simp only [parseVarintFieldsBody, inside, if_true, keyParses, wireType_eq,
            zeroType, ne_eq, not_false_eq_true]
      case pos =>
        obtain ⟨value, valueParses, valueReads⟩ | ⟨message, fails, noValue⟩ :=
          parseVarint_cases payload (offset + key.bytes.length)
        case inr =>
          refine .inr ⟨nonempty, ?_, message, ?_⟩
          · intro field tail reads
            exact noValue field.value tail (firstKey field tail reads).2
          · simp only [parseVarintFieldsBody, inside, if_true, keyParses, wireType_eq,
              zeroType, ne_eq, not_true_eq_false, if_false, fails]
        case inl =>
          refine .inl ⟨⟨key, value, zeroType⟩,
            offset + key.bytes.length + value.bytes.length, ?_, ?_⟩
          · rw [VarintField.bytes, List.append_assoc, ← valueReads]
            exact keyReads
          · simp only [parseVarintFieldsBody, inside, if_true, keyParses, wireType_eq,
              zeroType, ne_eq, not_true_eq_false, if_false, valueParses,
              VarintField.fieldNumber, Nat.shiftRight_eq_div_pow]

/-- Two fields in front of some bytes are equal in what they are read as. -/
theorem field_of_append
    {field other : VarintField} {tail otherTail : Bytes}
    (same : field.bytes ++ tail = other.bytes ++ otherTail) :
    field.fieldNumber = other.fieldNumber ∧ field.value.value = other.value.value ∧
      tail = otherTail := by
  rw [VarintField.bytes, VarintField.bytes, List.append_assoc, List.append_assoc] at same
  have keyReads : (other.key.bytes ++ (other.value.bytes ++ otherTail)).drop 0 =
      other.key.bytes ++ (other.value.bytes ++ otherTail) := rfl
  have keyParses := parseVarint_of_varint other.key keyReads
  obtain ⟨sameKey, behindKey⟩ := drop_of_parseVarint keyParses field.key same.symm
  have behindOther := (drop_of_parseVarint keyParses other.key keyReads).2
  have valueParses := parseVarint_of_varint other.value behindOther
  obtain ⟨sameValue, behindValue⟩ := drop_of_parseVarint valueParses field.value behindKey
  refine ⟨congrArg (fun value => value / 8) sameKey, sameValue, ?_⟩
  rw [← behindValue, (drop_of_parseVarint valueParses other.value behindOther).2]

/-- A field that is read in front makes the rest's answer the whole one. -/
theorem Reads.cons
    {field : VarintField} {data : Bytes} {values : Fields} {result : Except Exn Fields}
    (rest : Reads data (values.setItem field.fieldNumber field.value.value) result) :
    Reads (field.bytes ++ data) values result := by
  constructor
  · intro fields encodes
    cases fields with
    | nil =>
        have notNil : field.bytes ++ data ≠ [] := by
          simp [VarintField.bytes, Varint.bytes]
        exact absurd encodes notNil
    | cons first fields =>
        obtain ⟨sameNumber, sameValue, behind⟩ := field_of_append encodes
        rw [List.foldl_cons, ← sameNumber, ← sameValue]
        exact rest.1 fields behind
  · intro malformed
    apply rest.2
    rintro ⟨fields, rfl⟩
    exact malformed ⟨field :: fields, rfl⟩

/-- The loop reads the rest of the payload. -/
theorem exec_parseVarintFields
    (payload : Bytes)
    (values : Fields)
    (offset : Nat) :
    Reads (payload.drop offset) values
      ((parseVarintFieldsLoop payload).exec (values, offset)) := by
  have runs := Loop.exec_induction (parseVarintFieldsLoop payload)
    (fun state result => Reads (payload.drop state.2) state.1 result)
  refine runs ?stops ?continues (values, offset)
  case stops =>
    rintro ⟨values, offset⟩ result stops
    change parseVarintFieldsBody payload (values, offset) = .stop result at stops
    obtain ⟨atEnd, ends⟩ | ⟨field, stop, _, reads⟩ | ⟨nonempty, noField, message, fails⟩ :=
      parseVarintFieldsBody_cases payload values offset
    · rw [ends] at stops
      cases stops
      rw [atEnd]
      exact reads_nil values
    · rw [reads] at stops
      cases stops
    · rw [fails] at stops
      cases stops
      exact reads_of_noField nonempty noField values message
  case continues =>
    rintro ⟨values, offset⟩ after continues hypothesis
    change parseVarintFieldsBody payload (values, offset) = .next after at continues
    obtain ⟨_, ends⟩ | ⟨field, stop, front, reads⟩ | ⟨_, _, message, fails⟩ :=
      parseVarintFieldsBody_cases payload values offset
    · rw [ends] at continues
      cases continues
    · rw [reads] at continues
      cases continues
      rw [front]
      exact hypothesis.cons
    · rw [fails] at continues
      cases continues

/-- A dictionary has every key once. -/
theorem nodup_setItem
    {values : Fields}
    (distinct : (values.map Prod.fst).Nodup)
    (number value : Nat) :
    ((values.setItem number value).map Prod.fst).Nodup := by
  rw [Fields.setItem, List.map_cons, List.nodup_cons]
  constructor
  · intro inRest
    obtain ⟨entry, kept, isNumber⟩ := List.mem_map.mp inRest
    exact of_decide_eq_true (List.mem_filter.mp kept).2 isNumber
  · exact distinct.sublist (List.filter_sublist.map Prod.fst)

theorem get_setItem
    (values : Fields)
    (number value other : Nat) :
    (values.setItem number value).get other =
      if other = number then some value else values.get other := by
  rw [Fields.get, Fields.setItem, List.lookup_cons]
  by_cases isNumber : other = number
  case pos => simp [isNumber]
  case neg =>
    rw [beq_eq_false_iff_ne.mpr isNumber, if_neg isNumber]
    exact Dictionary.lookup_filter isNumber values

/-- The dictionary of some fields, set one after the other. -/
def setFields (fields : List VarintField) : Fields :=
  fields.foldl (fun values field =>
    values.setItem field.fieldNumber field.value.value) []

theorem setFields_append
    (fields : List VarintField)
    (field : VarintField) :
    setFields (fields ++ [field]) =
      (setFields fields).setItem field.fieldNumber field.value.value :=
  List.foldl_append

theorem nodup_setFields (fields : List VarintField) :
    ((setFields fields).map Prod.fst).Nodup := by
  induction fields using List.reverseRecOn with
  | nil => exact List.nodup_nil
  | append_singleton fields field inductionHypothesis =>
      rw [setFields_append]
      exact nodup_setItem inductionHypothesis _ _

/-- The dictionary maps every number to its last value. -/
theorem get_setFields
    (fields : List VarintField)
    (number : Nat) :
    (setFields fields).get number = VarintField.lastValue fields number := by
  induction fields using List.reverseRecOn with
  | nil => rfl
  | append_singleton fields field inductionHypothesis =>
      rw [setFields_append, get_setItem, inductionHypothesis, VarintField.lastValue,
        VarintField.lastValue, List.reverse_append, List.reverse_singleton,
        List.singleton_append, List.find?_cons]
      by_cases isNumber : field.fieldNumber = number
      · simp [isNumber]
      · simp [isNumber, Ne.symm isNumber]

/-- The reader ends on every payload and accepts exactly the concatenations of
varint fields.  Its dictionary has the last value of every field and nothing else,
and all that it raises is a value error. -/
theorem parseVarintFields_grammar (payload : Bytes) :
    ((∃ values, parseVarintFields payload = .ok values) ↔
      ∃ fields, payload = VarintField.encode fields) ∧
    (∀ values fields, parseVarintFields payload = .ok values ->
      payload = VarintField.encode fields ->
        (values.map Prod.fst).Nodup ∧
          ∀ number, values.get number = VarintField.lastValue fields number) ∧
    (∀ exc, parseVarintFields payload = .error exc -> exc.type = .valueError) ∧
    runPasses (parseVarintFieldsBody payload) (payload.length + 1) ([], 0) =
      some (parseVarintFields payload) ∧
    ∀ offset, runPasses (parseVarintBody payload) (payload.length + 1) (0, 0, offset) =
      some (parseVarint payload offset) := by
  have reads : Reads payload [] (parseVarintFields payload) :=
    exec_parseVarintFields payload [] 0
  refine ⟨⟨?accepted, ?wellFormed⟩, ?dictionary, ?errors, ?ends, ?varintEnds⟩
  case accepted =>
    rintro ⟨values, parses⟩
    by_contra malformed
    obtain ⟨message, fails⟩ := reads.2 malformed
    rw [fails] at parses
    cases parses
  case wellFormed =>
    rintro ⟨fields, encodes⟩
    exact ⟨_, reads.1 fields encodes⟩
  case dictionary =>
    intro values fields parses encodes
    have same : Except.ok (setFields fields) = Except.ok values :=
      (reads.1 fields encodes).symm.trans parses
    cases same
    exact ⟨nodup_setFields fields, get_setFields fields⟩
  case errors =>
    intro exc fails
    by_cases wellFormed : ∃ fields, payload = VarintField.encode fields
    · obtain ⟨fields, encodes⟩ := wellFormed
      rw [reads.1 fields encodes] at fails
      cases fails
    · obtain ⟨message, raises⟩ := reads.2 wellFormed
      rw [raises] at fails
      cases fails
      rfl
  case ends =>
    exact (parseVarintFieldsLoop payload).runPasses_eq_exec _ (Nat.lt_succ_self _)
  case varintEnds =>
    intro offset
    apply (parseVarintLoop payload).runPasses_eq_exec
    exact Nat.lt_succ_of_le (Nat.sub_le _ _)

end Dashboard
end BoschBle
