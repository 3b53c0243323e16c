import BoschBle.Foundation.Regex
import BoschBle.Foundation.Repr

/-!
# Integers from text

`int` passes white space, takes a sign, in base sixteen a marker, and digits with
single underscores between them, and nothing but white space may follow.  Decimal
digits of any script count.
-/

namespace BoschBle
namespace Foundation
namespace Integer

/-- The white space that `int` passes.  It is that of C within ASCII. -/
def isIntSpace (char : Char) : Bool :=
  if char.toNat < 0x7f then (0x09 ≤ char.toNat && char.toNat ≤ 0x0d) || char == ' '
  else Text.isSpace char

/-- The value of a digit in a base. -/
def digitIn (base : Nat) (char : Char) : Option Nat :=
  let value :=
    match Regex.digitValue char with
    | some value => some value
    | none =>
        if 'A' ≤ char ∧ char ≤ 'Z' then some (char.toNat - 'A'.toNat + 10)
        else if 'a' ≤ char ∧ char ≤ 'z' then some (char.toNat - 'a'.toNat + 10)
        else none
  value.filter fun value => value < base

/-- The digits, where single underscores may stand between two of them. -/
def digitsOf (base : Nat) : Text -> Option (List Nat)
  | [] => none
  | [char] => (digitIn base char).map fun digit => [digit]
  | char :: '_' :: rest =>
      match digitIn base char with
      | none => none
      | some digit => (digitsOf base rest).map fun digits => digit :: digits
  | char :: rest =>
      match digitIn base char with
      | none => none
      | some digit => (digitsOf base rest).map fun digits => digit :: digits

/-- Whether there is a minus sign, and the text behind the sign. -/
def splitSign : Text -> Bool × Text
  | '-' :: rest => (true, rest)
  | '+' :: rest => (false, rest)
  | text => (false, text)

/-- The text behind `0x`, which an underscore may follow. -/
def dropMarker : Text -> Text
  | '0' :: 'x' :: '_' :: rest | '0' :: 'X' :: '_' :: rest => rest
  | '0' :: 'x' :: rest | '0' :: 'X' :: rest => rest
  | text => text

/-- The number that digits stand for. -/
def ofDigits (base : Nat) (digits : List Nat) : Nat :=
  digits.foldl (fun value digit => base * value + digit) 0

/-- `int(text, base)` for the bases ten and sixteen. -/
def intOf (printable : Char -> Bool) (base : Nat) (text : Text) : Except Exn Int :=
  let invalid := ⟨.valueError, "invalid literal for int() with base " ++ toString base ++
    ": " ++ String.ofList ((Repr.ofText printable text).take 200)⟩
  let (negative, unsigned) := splitSign (text.dropWhile isIntSpace)
  let body := if base = 16 then dropMarker unsigned else unsigned
  let inNumber := fun char => (digitIn base char).isSome || char == '_'
  match digitsOf base (body.takeWhile inNumber) with
  | none => .error invalid
  | some digits =>
      -- Only a base that is no power of two has a limit.
      if base &&& (base - 1) ≠ 0 ∧ digits.length > 4300 then
        .error ⟨.valueError,
          "Exceeds the limit (4300 digits) for integer string conversion: value has " ++
            toString digits.length ++
              " digits; use sys.set_int_max_str_digits() to increase the limit"⟩
      else if (body.dropWhile inNumber).dropWhile isIntSpace = [] then
        let value : Int := ofDigits base digits
        .ok (if negative then -value else value)
      else .error invalid

/-! ## Digits -/

/-- Characters of ASCII that are no digits have no value. -/
theorem digitValue_of_ascii
    {char : Char}
    (ascii : char.toNat < 128)
    (other : char.toNat < 48 ∨ 57 < char.toNat) :
    Regex.digitValue char = none := by
  have allCodes : ∀ code < 128, code < 48 ∨ 57 < code ->
      (Regex.digitBases.find? fun base => base ≤ code && code < base + 10) = none := by
    decide +kernel
  exact congrArg (Option.map fun base => char.toNat - base)
    (allCodes char.toNat ascii other)

theorem digitIn_of_isDigit
    {base : Nat} {char : Char}
    (decimal : 10 ≤ base)
    (isDigit : char.isDigit = true) :
    digitIn base char = some (char.toNat - '0'.toNat) := by
  have value_eq := Regex.digitValue_of_isDigit isDigit
  have small := Regex.digitValue_lt value_eq
  rw [digitIn, value_eq, Option.filter_some, if_pos]
  exact decide_eq_true (small.trans_le decimal)

/-- Where every character is a digit, the digits are those. -/
theorem digitsOf_of_digits
    {base : Nat} {text : Text}
    (nonempty : text ≠ [])
    (areDigits : ∀ char ∈ text, (digitIn base char).isSome) :
    digitsOf base text = some (text.map fun char => (digitIn base char).getD 0) := by
  induction text with
  | nil => exact absurd rfl nonempty
  | cons char rest inductionHypothesis =>
      rw [List.forall_mem_cons] at areDigits
      obtain ⟨digit, isDigit⟩ := Option.isSome_iff_exists.mp areDigits.1
      cases rest with
      | nil => simp only [digitsOf, isDigit, Option.map_some, List.map_cons, List.map_nil,
          Option.getD_some]
      | cons second rest =>
          have noUnderscore : second ≠ '_' := by
            rintro rfl
            have rejected : digitIn base '_' = none := by
              rw [digitIn, digitValue_of_ascii (by decide) (by decide)]
              rfl
            have isSome := areDigits.2 '_' List.mem_cons_self
            rw [rejected] at isSome
            cases isSome
          have restDigits := inductionHypothesis (List.cons_ne_nil _ _) areDigits.2
          rw [digitsOf.eq_4 _ _ _ (by simp) (by simpa using noUnderscore), isDigit]
          simp only [restDigits, Option.map_some, List.map_cons, isDigit, Option.getD_some]

/-- The number that the digits in a text stand for. -/
def valueOf (base : Nat) (text : Text) : Nat :=
  ofDigits base (text.map fun char => (digitIn base char).getD 0)

/-- Digits with white space behind them are read as their value. -/
theorem intOf_digits
    {printable : Char -> Bool} {base : Nat} {digits spaces : Text}
    (nonempty : digits ≠ [])
    (areDigits : ∀ char ∈ digits, (digitIn base char).isSome ∧
      isIntSpace char = false ∧ char ≠ '-' ∧ char ≠ '+')
    (noMarker : base = 16 -> dropMarker (digits ++ spaces) = digits ++ spaces)
    (short : base &&& (base - 1) = 0 ∨ digits.length ≤ 4300)
    (areSpaces : ∀ char ∈ spaces, isIntSpace char)
    (stops : ∀ char ∈ spaces.head?, digitIn base char = none ∧ char ≠ '_') :
    intOf printable base (digits ++ spaces) = .ok (valueOf base digits) := by
  obtain ⟨first, rest, rfl⟩ := List.exists_cons_of_ne_nil nonempty
  obtain ⟨firstDigit, firstSpace, notMinus, notPlus⟩ := areDigits first List.mem_cons_self
  have unspaced : (first :: rest ++ spaces).dropWhile isIntSpace =
      first :: rest ++ spaces := by
    rw [List.cons_append, List.dropWhile_cons_of_neg]
    rw [firstSpace]
    exact Bool.false_ne_true
  have unsigned : splitSign (first :: rest ++ spaces) = (false, first :: rest ++ spaces) := by
    rw [List.cons_append, splitSign.eq_3 _ (by simpa using notMinus) (by simpa using notPlus)]
  have body : (if base = 16 then dropMarker (first :: rest ++ spaces)
      else first :: rest ++ spaces) = first :: rest ++ spaces := by
    split
    case isTrue isHex => exact noMarker isHex
    case isFalse => rfl
  have allInNumber : ∀ char ∈ first :: rest,
      ((digitIn base char).isSome || char == '_') = true := by
    intro char present
    rw [(areDigits char present).1, Bool.true_or]
  have stopsHere : ∀ char ∈ spaces.head?,
      ((digitIn base char).isSome || char == '_') = false := by
    intro char isHead
    rw [(stops char isHead).1, beq_eq_false_iff_ne.mpr (stops char isHead).2]
    rfl
  have taken : (first :: rest ++ spaces).takeWhile
      (fun char => (digitIn base char).isSome || char == '_') = first :: rest := by
    rw [List.takeWhile_append_of_pos allInNumber]
    cases spaces with
    | nil => rw [List.takeWhile_nil, List.append_nil]
    | cons char spaces =>
        rw [List.takeWhile_cons_of_neg, List.append_nil]
        rw [stopsHere char rfl]
        exact Bool.false_ne_true
  have dropped : (first :: rest ++ spaces).dropWhile
      (fun char => (digitIn base char).isSome || char == '_') = spaces := by
    rw [List.dropWhile_append_of_pos allInNumber]
    cases spaces with
    | nil => rfl
    | cons char spaces =>
        rw [List.dropWhile_cons_of_neg]
        rw [stopsHere char rfl]
        exact Bool.false_ne_true
  have noneLeft : spaces.dropWhile isIntSpace = [] := by
    rw [List.dropWhile_eq_nil_iff]
    exact areSpaces
  have isShort : ¬(base &&& (base - 1) ≠ 0 ∧
      ((first :: rest).map fun char => (digitIn base char).getD 0).length > 4300) := by
    rw [List.length_map]
    omega
  rw [intOf, unspaced, unsigned]
  simp only [body, taken, dropped, noneLeft,
    digitsOf_of_digits nonempty fun char present => (areDigits char present).1,
    if_neg isShort, if_true]
  rfl

/-- What `str` writes is read back. -/
theorem intOf_toDigits
    {printable : Char -> Bool} {value : Nat}
    (short : (Nat.toDigits 10 value).length ≤ 4300) :
    intOf printable 10 (Nat.toDigits 10 value) = .ok value := by
  have isDigit : ∀ char ∈ Nat.toDigits 10 value, char.isDigit = true := fun char present =>
    Nat.isDigit_of_mem_toDigits (Nat.succ_pos 9) (Nat.le_refl 10) present
  have areDigits : ∀ char ∈ Nat.toDigits 10 value, (digitIn 10 char).isSome ∧
      isIntSpace char = false ∧ char ≠ '-' ∧ char ≠ '+' := by
    intro char present
    have ascii := isDigit char present
    have inRange : 48 ≤ char.toNat ∧ char.toNat ≤ 57 := by
      simpa [Char.isDigit, UInt32.le_iff_toNat_le] using ascii
    refine ⟨?_, ?_, ?_, ?_⟩
    · rw [digitIn_of_isDigit (Nat.le_refl 10) ascii]
      rfl
    · have notBlank : char ≠ ' ' := by
        rintro rfl
        exact absurd inRange.1 (by decide)
      have belowDelete : char.toNat < 0x7f := by omega
      have aboveReturn : ¬char.toNat ≤ 0x0d := by omega
      rw [isIntSpace, if_pos belowDelete, decide_eq_false aboveReturn, Bool.and_false,
        Bool.false_or]
      exact beq_eq_false_iff_ne.mpr notBlank
    · rintro rfl
      exact absurd inRange.1 (by decide)
    · rintro rfl
      exact absurd inRange.1 (by decide)
  have value_eq : valueOf 10 (Nat.toDigits 10 value) = value := by
    rw [valueOf, ofDigits, List.foldl_map,
      List.foldl_ext _ (fun value char => 10 * value + (char.toNat - '0'.toNat)) 0]
    · exact Nat.ofDigitChars_ten_toDigits
    · intro value char present
      rw [digitIn_of_isDigit (Nat.le_refl 10) (isDigit char present)]
      rfl
  have reads := @intOf_digits printable 10 (Nat.toDigits 10 value) [] Nat.toDigits_ne_nil
    areDigits (fun isHex => absurd isHex (by decide)) (.inr short)
    (fun _ inNone => absurd inNone List.not_mem_nil) (fun _ inNone => absurd inNone (by simp))
  rw [List.append_nil, value_eq] at reads
  exact reads

end Integer
end Foundation
end BoschBle
