import BoschBle.Foundation.Base128
import BoschBle.Foundation.Loop

/-!
# Varint fields

Message payloads hold pairs of varints: a key with a field number and a wire
type, and a value.  The reader raises on a varint that does not end and on every
wire type but zero.
-/

namespace BoschBle
namespace Dashboard

open Foundation

/-- One pass of the loop of `_parse_varint`. -/
def parseVarintBody (data : Bytes) :
    Nat × Nat × Nat -> Pass (Nat × Nat × Nat) (Except Exn (Nat × Nat))
  | (value, shift, index) =>
      match data[index]? with
      | none => .stop (.error ⟨.valueError, "Truncated protobuf varint."⟩)
      | some byte =>
          let value := value ||| ((byte.toNat &&& 0x7F) <<< shift)
          let index := index + 1
          if byte.toNat &&& 0x80 = 0 then .stop (.ok (value, index))
          else .next (value, shift + 7, index)

/-- The loop of `_parse_varint`; each pass that continues moves the index. -/
def parseVarintLoop (data : Bytes) :
    Loop (Nat × Nat × Nat) (Except Exn (Nat × Nat)) where
  body := parseVarintBody data
  measure := fun state => data.length - state.2.2
  decreases := by
    rintro ⟨value, shift, index⟩ after continues
    cases byte_eq : data[index]? with
    | none => simp [parseVarintBody, byte_eq] at continues
    | some byte =>
        obtain ⟨inside, _⟩ := List.getElem?_eq_some_iff.mp byte_eq
        simp only [parseVarintBody, byte_eq] at continues
        split at continues
        · cases continues
        · cases continues
          simp only
          omega

/-- `_parse_varint`: the varint at an offset and the index behind it. -/
def parseVarint (data : Bytes) (offset : Nat) : Except Exn (Nat × Nat) :=
  (parseVarintLoop data).exec (0, 0, offset)

/-- A varint is read from inside the data, and forwards. -/
theorem parseVarint_index
    {data : Bytes} {offset value stop : Nat}
    (parses : parseVarint data offset = .ok (value, stop)) :
    offset < stop ∧ offset < data.length := by
  have sound := Loop.exec_induction (parseVarintLoop data)
    (fun state result => ∀ value stop, result = .ok (value, stop) ->
      state.2.2 < stop ∧ state.2.2 < data.length)
    (by
      rintro ⟨total, shift, index⟩ result stops value stop result_eq
      change parseVarintBody data (total, shift, index) = .stop result at stops
      subst result_eq
      cases byte_eq : data[index]? with
      | none => simp [parseVarintBody, byte_eq] at stops
      | some byte =>
          obtain ⟨inside, _⟩ := List.getElem?_eq_some_iff.mp byte_eq
          simp only [parseVarintBody, byte_eq] at stops
          split at stops
          · cases stops
            exact ⟨Nat.lt_succ_self index, inside⟩
          · cases stops)
    (by
      rintro ⟨total, shift, index⟩ after continues hypothesis value stop result_eq
      change parseVarintBody data (total, shift, index) = .next after
        at continues
      obtain ⟨forwards, inside⟩ := hypothesis value stop result_eq
      cases byte_eq : data[index]? with
      | none => simp [parseVarintBody, byte_eq] at continues
      | some byte =>
          simp only [parseVarintBody, byte_eq] at continues
          split at continues
          · cases continues
          · cases continues
            simp only at forwards inside ⊢
            omega)
    (0, 0, offset)
  exact sound value stop parses

/-- The loop over a varint adds its value above what has been read. -/
theorem exec_parseVarint
    {data tail : Bytes}
    (varint : Varint)
    {total shift index : Nat}
    (below : total < 2 ^ shift)
    (reads : data.drop index = varint.bytes ++ tail) :
    (parseVarintLoop data).exec (total, shift, index) =
      .ok (total + varint.value * 2 ^ shift, index + varint.bytes.length) := by
  obtain ⟨marked, last, marks, ends⟩ := varint
  induction marked generalizing total shift index with
  | nil =>
      have byte_eq : data[index]? = some last := by
        have head := congrArg (fun rest : Bytes => rest[0]?) reads
        simpa [Varint.bytes] using head
      have value_eq : (Varint.mk [] last marks ends).value = last.toNat % 128 := by
        simp [Varint.value, Varint.bytes, Varint.digitsValue]
      apply Loop.exec_of_stop
      simp only [parseVarintLoop, parseVarintBody, byte_eq,
        (and_topBit_eq_zero_iff last).mpr ends, if_true, Varint.and_lowBits,
        Varint.or_shiftLeft below, value_eq]
      rfl
  | cons byte marked inductionHypothesis =>
      rw [List.forall_mem_cons] at marks
      have byte_eq : data[index]? = some byte := by
        have head := congrArg (fun rest : Bytes => rest[0]?) reads
        simpa [Varint.bytes] using head
      have rest_eq : data.drop (index + 1) =
          (Varint.mk marked last marks.2 ends).bytes ++ tail := by
        rw [← List.tail_drop, reads]
        rfl
      have continues : (parseVarintLoop data).body (total, shift, index) =
          .next (total + byte.toNat % 128 * 2 ^ shift, shift + 7, index + 1) := by
        have isMarked : byte.toNat &&& 0x80 ≠ 0 := by
          rw [Ne, and_topBit_eq_zero_iff]
          omega
        simp only [parseVarintLoop, parseVarintBody, byte_eq, isMarked, if_false,
          Varint.and_lowBits, Varint.or_shiftLeft below]
      have stillBelow : total + byte.toNat % 128 * 2 ^ shift < 2 ^ (shift + 7) := by
        have digit : byte.toNat % 128 + 1 ≤ 128 := Nat.mod_lt _ (by decide)
        calc total + byte.toNat % 128 * 2 ^ shift
            < (byte.toNat % 128 + 1) * 2 ^ shift := by
              rw [Nat.add_mul, Nat.one_mul]
              omega
          _ ≤ 128 * 2 ^ shift := Nat.mul_le_mul_right _ digit
          _ = 2 ^ (shift + 7) := by rw [Nat.pow_add, Nat.mul_comm]
      have value_eq : (Varint.mk (byte :: marked) last
          (List.forall_mem_cons.mpr marks) ends).value =
            byte.toNat % 128 + 128 * (Varint.mk marked last marks.2 ends).value :=
        Varint.digitsValue_cons byte _
      rw [Loop.exec_of_next continues, inductionHypothesis stillBelow marks.2 rest_eq,
        value_eq, Nat.pow_add]
      congr 2
      · ring
      · simp only [Varint.bytes, List.cons_append, List.length_cons]
        omega

/-- A varint at an offset is read as its value. -/
theorem parseVarint_of_varint
    {data tail : Bytes} {offset : Nat}
    (varint : Varint)
    (reads : data.drop offset = varint.bytes ++ tail) :
    parseVarint data offset =
      .ok (varint.value, offset + varint.bytes.length) := by
  rw [parseVarint, exec_parseVarint varint (by decide) reads, Nat.zero_add, Nat.pow_zero,
    Nat.mul_one]

/-- Bytes that all continue a varint are refused. -/
theorem parseVarint_of_marked
    {data : Bytes} {offset : Nat}
    (allMarked : ∀ byte ∈ data.drop offset, 0x80 ≤ byte.toNat) :
    parseVarint data offset = .error ⟨.valueError, "Truncated protobuf varint."⟩ := by
  have runs := Loop.exec_induction (parseVarintLoop data)
    (fun state result => (∀ byte ∈ data.drop state.2.2, 0x80 ≤ byte.toNat) ->
      result = .error ⟨.valueError, "Truncated protobuf varint."⟩)
    (by
      rintro ⟨total, shift, index⟩ result stops allMarked
      change parseVarintBody data (total, shift, index) = .stop result at stops
      cases byte_eq : data[index]? with
      | none =>
          simp only [parseVarintBody, byte_eq] at stops
          cases stops
          rfl
      | some byte =>
          have isMarked := allMarked byte (by
            rw [List.mem_drop_iff_getElem]
            obtain ⟨inside, rfl⟩ := List.getElem?_eq_some_iff.mp byte_eq
            exact ⟨0, by simpa using inside, rfl⟩)
          have topBit : byte.toNat &&& 0x80 ≠ 0 := by
            rw [Ne, and_topBit_eq_zero_iff]
            omega
          simp only [parseVarintBody, byte_eq, topBit, if_false] at stops
          cases stops)
    (by
      rintro ⟨total, shift, index⟩ after continues hypothesis allMarked
      change parseVarintBody data (total, shift, index) = .next after at continues
      apply hypothesis
      cases byte_eq : data[index]? with
      | none => simp [parseVarintBody, byte_eq] at continues
      | some byte =>
          simp only [parseVarintBody, byte_eq] at continues
          split at continues
          · cases continues
          · cases continues
            intro other inRest
            apply allMarked
            rw [← List.tail_drop] at inRest
            exact List.mem_of_mem_tail inRest)
    (0, 0, offset)
  exact runs allMarked

/-- Zeros in all groups of seven bits but the last one. -/
theorem digitsValue_zeros
    (zeros : Nat)
    {last : UInt8}
    (ends : last.toNat < 0x80) :
    Varint.digitsValue (List.replicate zeros 0x80 ++ [last]) =
      last.toNat <<< (7 * zeros) := by
  induction zeros with
  | zero => simpa [Varint.digitsValue] using ends
  | succ zeros inductionHypothesis =>
      rw [List.replicate_succ, List.cons_append, Varint.digitsValue_cons,
        inductionHypothesis, Nat.shiftLeft_eq, Nat.shiftLeft_eq, Nat.mul_add, Nat.pow_add]
      change 0 + _ = _
      ring

/-- Such a varint is its last group, shifted. -/
theorem parseVarint_zeros
    {data : Bytes} {last : UInt8} {tail : Bytes}
    (ends : last.toNat < 0x80)
    (zeros offset : Nat)
    (reads : data.drop offset = List.replicate zeros 0x80 ++ last :: tail) :
    parseVarint data offset =
      .ok (last.toNat <<< (7 * zeros), offset + zeros + 1) := by
  have marks : ∀ byte ∈ List.replicate zeros (0x80 : UInt8), 0x80 ≤ byte.toNat := by
    intro byte inZeros
    rw [List.eq_of_mem_replicate inZeros]
    decide
  have parses := parseVarint_of_varint ⟨List.replicate zeros 0x80, last, marks, ends⟩
    (by rw [reads, Varint.bytes, List.append_assoc, List.singleton_append])
  rw [parses, Varint.value, Varint.bytes, digitsValue_zeros zeros ends,
    List.length_append, List.length_replicate]
  rfl

/-- The fields read so far: the last value of every field number. -/
abbrev Fields := List (Nat × Nat)

/-- `values[field_number] = value`. -/
def Fields.setItem (values : Fields) (fieldNumber value : Nat) : Fields :=
  (fieldNumber, value) :: values.filter (·.1 ≠ fieldNumber)

/-- `values.get(field_number)`. -/
def Fields.get (values : Fields) (fieldNumber : Nat) : Option Nat :=
  values.lookup fieldNumber

/-- One pass of the loop of `_parse_varint_fields`. -/
def parseVarintFieldsBody (payload : Bytes) :
    Fields × Nat -> Pass (Fields × Nat) (Except Exn Fields)
  | (values, offset) =>
      if offset < payload.length then
        match parseVarint payload offset with
        | .error exc => .stop (.error exc)
        | .ok (key, offset) =>
            let fieldNumber := key >>> 3
            let wireType := key &&& 0x07
            if wireType ≠ 0 then
              .stop (.error
                ⟨.valueError, s!"Unsupported wire type {wireType}."⟩)
            else
              match parseVarint payload offset with
              | .error exc => .stop (.error exc)
              | .ok (value, offset) =>
                  .next (values.setItem fieldNumber value, offset)
      else
        .stop (.ok values)

/-- The loop of `_parse_varint_fields`; each pass reads two varints. -/
def parseVarintFieldsLoop (payload : Bytes) :
    Loop (Fields × Nat) (Except Exn Fields) where
  body := parseVarintFieldsBody payload
  measure := fun state => payload.length - state.2
  decreases := by
    rintro ⟨values, offset⟩ after continues
    simp only [parseVarintFieldsBody] at continues
    split at continues
    case isFalse => cases continues
    case isTrue inside =>
      split at continues
      case h_1 => cases continues
      case h_2 key middle keyParses =>
        split at continues
        case isTrue => cases continues
        case isFalse =>
          split at continues
          case h_1 => cases continues
          case h_2 value stop valueParses =>
            cases continues
            have keyForwards := (parseVarint_index keyParses).1
            have valueForwards := (parseVarint_index valueParses).1
            simp only
            omega

/-- `_parse_varint_fields`: the fields of a payload. -/
def parseVarintFields (payload : Bytes) : Except Exn Fields :=
  (parseVarintFieldsLoop payload).exec ([], 0)

/-- A payload with field 1 only, and in it a power of two. -/
theorem parseVarintFields_zeros (zeros : Nat) :
    parseVarintFields (0x08 :: (List.replicate zeros 0x80 ++ [0x01])) =
      .ok [(1, 1 <<< (7 * zeros))] := by
  have small : (0x08 : UInt8).toNat < 0x80 := by decide
  have one : (0x01 : UInt8).toNat < 0x80 := by decide
  have key : parseVarint (0x08 :: (List.replicate zeros 0x80 ++ [0x01])) 0 =
      .ok (0x08, 1) := parseVarint_zeros small 0 0 rfl
  have value : parseVarint (0x08 :: (List.replicate zeros 0x80 ++ [0x01])) 1 =
      .ok (1 <<< (7 * zeros), 1 + zeros + 1) := parseVarint_zeros one zeros 1 rfl
  have continues :
      (parseVarintFieldsLoop (0x08 :: (List.replicate zeros 0x80 ++ [0x01]))).body
        ([], 0) = .next ([(1, 1 <<< (7 * zeros))], 1 + zeros + 1) := by
    simp [parseVarintFieldsLoop, parseVarintFieldsBody, key, value,
      Fields.setItem]
  have stops :
      (parseVarintFieldsLoop (0x08 :: (List.replicate zeros 0x80 ++ [0x01]))).body
        ([(1, 1 <<< (7 * zeros))], 1 + zeros + 1) =
          .stop (.ok [(1, 1 <<< (7 * zeros))]) := by
    have ended : ¬1 + zeros + 1 < zeros + 1 + 1 := by omega
    simp [parseVarintFieldsLoop, parseVarintFieldsBody, ended]
  rw [parseVarintFields, Loop.exec_of_next continues, Loop.exec_of_stop stops]

/-- Field 1 as an unsigned integer. -/
def decodeUint8Nullable (payload : Bytes) : Except Exn (Option Nat) := do
  let fields ← parseVarintFields payload
  .ok (fields.get 1)

/-- Field 1 as a truth value. -/
def decodeBoolean (payload : Bytes) : Except Exn (Option Bool) := do
  let fields ← parseVarintFields payload
  .ok ((fields.get 1).map fun value => value ≠ 0)

/-- Field 1 as an unsigned integer. -/
def decodeUint (payload : Bytes) : Except Exn (Option Nat) := do
  let fields ← parseVarintFields payload
  .ok (fields.get 1)

/-- Field 1 as a speed, and field 2 as its validity. -/
def decodeBikeSpeed (payload : Bytes) :
    Except Exn (Option Nat × Option Bool) := do
  let fields ← parseVarintFields payload
  .ok (fields.get 1, (fields.get 2).map fun validity => validity ≠ 0)

example : decodeBikeSpeed [0x08, 0x19, 0x10, 0x01] = .ok (some 25, some true) := by
  decide

end Dashboard
end BoschBle
