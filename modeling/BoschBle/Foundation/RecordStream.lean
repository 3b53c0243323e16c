import BoschBle.Foundation.Loop
import Mathlib.Data.List.Basic

/-!
# Streams of self-delimiting records

A record format reads one record off the front of a token list and writes one
record in the same form.  From the two laws of a single record the module
derives those of whole streams: reading back what was written, writing back
what was read, and uniqueness of the parse.
-/

namespace BoschBle
namespace Foundation

/-- A format whose records announce their own end. -/
structure RecordFormat (β ε α : Type) where
  /-- The records that can be written. -/
  Valid : α -> Prop
  /-- The tokens of one record. -/
  encode : α -> List β
  /-- Read one record off a nonempty token list. -/
  parse : List β -> Except ε (α × List β)
  /-- No record is written as the empty list. -/
  encode_ne_nil : ∀ record, encode record ≠ []
  /-- Reading stops exactly behind the record that was written. -/
  parse_encode : ∀ record rest, Valid record ->
    parse (encode record ++ rest) = .ok (record, rest)
  /-- Whatever is read is the writing of a valid record. -/
  parse_sound : ∀ tokens record rest,
    parse tokens = .ok (record, rest) ->
      Valid record ∧ tokens = encode record ++ rest

namespace RecordFormat

variable (format : RecordFormat β ε α)

/-- The tokens of a whole stream. -/
def encodeAll (records : List α) : List β :=
  records.flatMap format.encode

@[simp] theorem encodeAll_nil : format.encodeAll [] = [] := rfl

@[simp] theorem encodeAll_cons (record : α) (records : List α) :
    format.encodeAll (record :: records) =
      format.encode record ++ format.encodeAll records := by
  rw [encodeAll, List.flatMap_cons, encodeAll]

theorem length_lt_of_parse
    {tokens rest : List β} {record : α}
    (parses : format.parse tokens = .ok (record, rest)) :
    rest.length < tokens.length := by
  obtain ⟨_, tokens_eq⟩ := format.parse_sound tokens record rest parses
  have nonempty := List.length_pos_iff.mpr (format.encode_ne_nil record)
  rw [tokens_eq, List.length_append]
  omega

/-- One pass of the reader: stop at the end of the input, stop at a token list
that does not start with a record, or collect one record. -/
def readBody :
    List β × List α -> Pass (List β × List α) (Except ε (List α))
  | ([], records) => .stop (.ok records)
  | (token :: tokens, records) =>
      match format.parse (token :: tokens) with
      | .error exc => .stop (.error exc)
      | .ok (record, rest) => .next (rest, records ++ [record])

/-- A pass that continues leaves a suffix of the tokens. -/
theorem suffix_of_readBody
    {tokens rest : List β} {records collected : List α}
    (continues : format.readBody (tokens, records) = .next (rest, collected)) :
    rest <:+ tokens := by
  cases tokens with
  | nil => simp [readBody] at continues
  | cons token tokens =>
      cases parses : format.parse (token :: tokens) with
      | error exc => simp [readBody, parses] at continues
      | ok result =>
          obtain ⟨record, remaining⟩ := result
          obtain ⟨_, tokens_eq⟩ := format.parse_sound _ record remaining parses
          simp only [readBody, parses, Pass.next.injEq, Prod.mk.injEq]
            at continues
          rw [tokens_eq, ← continues.1]
          exact List.suffix_append _ _

/-- The reader of a whole stream. -/
def reader : Loop (List β × List α) (Except ε (List α)) where
  body := format.readBody
  measure := fun state => state.1.length
  decreases := by
    rintro ⟨tokens, records⟩ after continues
    cases tokens with
    | nil => simp [readBody] at continues
    | cons token tokens =>
        cases parses : format.parse (token :: tokens) with
        | error exc => simp [readBody, parses] at continues
        | ok result =>
            obtain ⟨record, rest⟩ := result
            simp only [readBody, parses, Pass.next.injEq] at continues
            rw [← continues]
            exact format.length_lt_of_parse parses

/-- Read a whole stream. -/
def decodeAll (tokens : List β) : Except ε (List α) :=
  format.reader.exec (tokens, [])

theorem exec_reader_encodeAll
    (records collected : List α)
    (valid : ∀ record ∈ records, format.Valid record) :
    format.reader.exec (format.encodeAll records, collected) =
      .ok (collected ++ records) := by
  induction records generalizing collected with
  | nil =>
      rw [List.append_nil]
      exact Loop.exec_of_stop rfl
  | cons record rest inductionHypothesis =>
      have recordValid := valid record List.mem_cons_self
      have parses := format.parse_encode record (format.encodeAll rest) recordValid
      have passes : format.reader.body
          (format.encodeAll (record :: rest), collected) =
            .next (format.encodeAll rest, collected ++ [record]) := by
        change format.readBody _ = _
        rw [encodeAll_cons]
        cases tokens_eq : format.encode record ++ format.encodeAll rest with
        | nil =>
            exact absurd (List.append_eq_nil_iff.mp tokens_eq).1
              (format.encode_ne_nil record)
        | cons token tokens =>
            rw [tokens_eq] at parses
            simp only [readBody, parses]
      rw [Loop.exec_of_next passes, inductionHypothesis _ fun other present =>
        valid other (List.mem_cons_of_mem record present)]
      rw [List.append_assoc, List.singleton_append]

/-- A stream of valid records reads back as those records. -/
theorem decodeAll_encodeAll
    {records : List α}
    (valid : ∀ record ∈ records, format.Valid record) :
    format.decodeAll (format.encodeAll records) = .ok records := by
  rw [decodeAll, format.exec_reader_encodeAll records [] valid, List.nil_append]

/-- Whatever the reader accepts is the writing of the records it returns. -/
theorem encodeAll_of_decodeAll
    {tokens : List β} {records : List α}
    (reads : format.decodeAll tokens = .ok records) :
    (∀ record ∈ records, format.Valid record) ∧
      tokens = format.encodeAll records := by
  have sound := Loop.exec_induction format.reader
    (fun state result => ∀ collected, result = .ok collected ->
      ∃ suffix, collected = state.2 ++ suffix ∧
        (∀ record ∈ suffix, format.Valid record) ∧
        state.1 = format.encodeAll suffix)
    (by
      rintro ⟨tokens, collected⟩ result stops all result_eq
      change format.readBody (tokens, collected) = .stop result at stops
      cases tokens with
      | nil =>
          simp only [readBody, Pass.stop.injEq] at stops
          rw [result_eq, Except.ok.injEq] at stops
          exact ⟨[], by simp [stops]⟩
      | cons token tokens =>
          cases parses : format.parse (token :: tokens) with
          | error exc =>
              simp only [readBody, parses, Pass.stop.injEq] at stops
              rw [result_eq] at stops
              cases stops
          | ok read => simp [readBody, parses] at stops)
    (by
      rintro ⟨tokens, collected⟩ after continues hypothesis all result_eq
      change format.readBody (tokens, collected) = .next after at continues
      cases tokens with
      | nil => simp [readBody] at continues
      | cons token tokens =>
          cases parses : format.parse (token :: tokens) with
          | error exc => simp [readBody, parses] at continues
          | ok read =>
              obtain ⟨record, rest⟩ := read
              simp only [readBody, parses, Pass.next.injEq] at continues
              subst continues
              obtain ⟨suffix, all_eq, suffixValid, rest_eq⟩ :=
                hypothesis all result_eq
              obtain ⟨recordValid, tokens_eq⟩ :=
                format.parse_sound _ record rest parses
              simp only at all_eq rest_eq
              refine ⟨record :: suffix, ?_, ?_, ?_⟩
              · rw [all_eq, List.append_assoc, List.singleton_append]
              · intro other present
                rcases List.mem_cons.mp present with rfl | present
                · exact recordValid
                · exact suffixValid other present
              · rw [tokens_eq, rest_eq, encodeAll_cons])
    (tokens, [])
  obtain ⟨suffix, records_eq, valid, tokens_eq⟩ := sound records reads
  rw [List.nil_append] at records_eq
  rw [records_eq]
  exact ⟨valid, tokens_eq⟩

/-- A token list has at most one reading as a stream of valid records. -/
theorem encodeAll_injective
    {left right : List α}
    (leftValid : ∀ record ∈ left, format.Valid record)
    (rightValid : ∀ record ∈ right, format.Valid record)
    (equal : format.encodeAll left = format.encodeAll right) :
    left = right := by
  have leftReads := format.decodeAll_encodeAll leftValid
  rw [equal, format.decodeAll_encodeAll rightValid, Except.ok.injEq] at leftReads
  exact leftReads.symm

end RecordFormat
end Foundation
end BoschBle
