import BoschBle.Foundation.Bytes
import BoschBle.Foundation.RecordStream

/-!
# Responses on the management socket

The kernel sends management events over a byte stream that `recv` cuts
anywhere.  The reader keeps what it has not consumed between two calls of `recv`
and returns at the first response to its own command.
-/

namespace BoschBle
namespace Mgmt

open Foundation

/-- The opcode of the command that loads connection parameters. -/
def MGMT_OP_LOAD_CONN_PARAM : Nat := 0x0035

/-- The event of a command that is complete. -/
def MGMT_EV_CMD_COMPLETE : Nat := 0x0001

/-- The event with the status of a command. -/
def MGMT_EV_CMD_STATUS : Nat := 0x0002

/-- How the inner loop ends: at the response, as its event code and status, or
at the offset of an event that is not complete. -/
inductive Scan
  | response (eventCode status : Nat)
  | unfinished (offset : Nat)
  deriving DecidableEq

/-- `struct.unpack_from("<HB", payload, 0)`, where the event code fits and the
payload is long enough. -/
def responseIn (expected eventCode : Nat) (payload : Bytes) : Option (Nat × Nat) :=
  if eventCode = expected ∧ payload.length ≥ 3 then
    let opcode := Bytes.fromLittle (payload.slice 0 2)
    let status := Bytes.fromLittle (payload.slice 2 3)
    if opcode = MGMT_OP_LOAD_CONN_PARAM then some (eventCode, status) else none
  else none

/-- One pass of the inner loop of `receive_mgmt_response`. -/
def scanBody (buf : Bytes) (offset : Nat) : Pass Nat Scan :=
  if offset + 6 ≤ buf.length then
    let eventCode := Bytes.fromLittle (buf.slice offset (offset + 2))
    let payloadLen := Bytes.fromLittle (buf.slice (offset + 4) (offset + 6))
    let eventEnd := offset + 6 + payloadLen
    if buf.length < eventEnd then
      .stop (.unfinished offset)
    else
      let payload := buf.slice (offset + 6) eventEnd
      match responseIn MGMT_EV_CMD_COMPLETE eventCode payload with
      | some (eventCode, status) => .stop (.response eventCode status)
      | none =>
          match responseIn MGMT_EV_CMD_STATUS eventCode payload with
          | some (eventCode, status) => .stop (.response eventCode status)
          | none => .next eventEnd
  else
    .stop (.unfinished offset)

theorem scanBody_decreases
    {buf : Bytes} {offset after : Nat}
    (continues : scanBody buf offset = .next after) :
    buf.length - after < buf.length - offset := by
  unfold scanBody at continues
  split at continues
  · dsimp only at continues
    split at continues
    · cases continues
    · split at continues
      · cases continues
      · split at continues
        · cases continues
        · cases continues
          omega
  · cases continues

/-- The inner loop of `receive_mgmt_response`. -/
def scanLoop (buf : Bytes) : Loop Nat Scan where
  body := scanBody buf
  measure := fun offset => buf.length - offset
  decreases := fun _ _ continues => scanBody_decreases continues

/-- Look for the response in the buffered events. -/
def scan (buf : Bytes) : Scan :=
  (scanLoop buf).exec 0

/-- How a call of `receive_mgmt_response` ends when the socket delivers the
given chunks: it returns and leaves chunks unread, or it has read them all and
`recv` blocks. -/
inductive Received
  | returned (eventCode status : Nat) (unread : List Bytes)
  | blocked (buf : Bytes)
  deriving DecidableEq

/-- The outer loop of `receive_mgmt_response`, at a `recv` with a buffer. -/
def receiveFrom (buf : Bytes) : List Bytes -> Received
  | [] => .blocked buf
  | chunk :: chunks =>
      if chunk = [] then
        receiveFrom buf chunks
      else
        let buf := buf ++ chunk
        match scan buf with
        | .response eventCode status => .returned eventCode status chunks
        | .unfinished offset =>
            let buf := if offset > 0 then buf.drop offset else buf
            receiveFrom buf chunks

/-- `receive_mgmt_response` on a socket that delivers the given chunks. -/
def receiveMgmtResponse (chunks : List Bytes) : Received :=
  receiveFrom [] chunks

/-! ## Events -/

/-- A management event. -/
structure Event where
  code : Nat
  index : Nat
  payload : Bytes

namespace Event

/-- The field widths of the header. -/
structure InRange (event : Event) : Prop where
  code_lt : event.code < 256 ^ 2
  index_lt : event.index < 256 ^ 2
  length_lt : event.payload.length < 256 ^ 2

/-- A header of six bytes and the payload. -/
def encode (event : Event) : Bytes :=
  Bytes.littleEndian 2 event.code ++ Bytes.littleEndian 2 event.index ++
    Bytes.littleEndian 2 event.payload.length ++ event.payload

/-- The events of a stream. -/
def encodeAll (events : List Event) : Bytes :=
  events.flatMap encode

/-- The event is a response to the command. -/
def IsResponse (event : Event) : Prop :=
  (event.code = MGMT_EV_CMD_COMPLETE ∨ event.code = MGMT_EV_CMD_STATUS) ∧
    3 ≤ event.payload.length ∧
      Bytes.fromLittle (event.payload.take 2) = MGMT_OP_LOAD_CONN_PARAM

instance (event : Event) : Decidable event.IsResponse :=
  inferInstanceAs (Decidable (_ ∧ _ ∧ _))

/-- The third byte of the payload. -/
def status (event : Event) : Nat :=
  Bytes.fromLittle (event.payload.slice 2 3)

theorem length_encode (event : Event) :
    event.encode.length = 6 + event.payload.length := by
  simp only [encode, List.length_append, Bytes.length_littleEndian]

/-- The fields of an event that a buffer starts with. -/
theorem slices_encode (event : Event) (tail : Bytes) :
    Bytes.slice (event.encode ++ tail) 0 2 = Bytes.littleEndian 2 event.code ∧
      Bytes.slice (event.encode ++ tail) 4 6 =
        Bytes.littleEndian 2 event.payload.length ∧
      Bytes.slice (event.encode ++ tail) 6 (6 + event.payload.length) =
        event.payload := by
  refine ⟨?_, ?_, ?_⟩
  · simp [Bytes.slice, encode]
  · simp [Bytes.slice, encode, List.drop_append, List.drop_eq_nil_of_le]
  · simp [Bytes.slice, encode, List.drop_append, List.drop_eq_nil_of_le]

/-- The two tests of the reader find exactly the responses. -/
theorem responseIn_eq (event : Event) :
    (responseIn MGMT_EV_CMD_COMPLETE event.code event.payload).or
        (responseIn MGMT_EV_CMD_STATUS event.code event.payload) =
      if event.IsResponse then some (event.code, event.status) else none := by
  have opcode_eq : event.payload.slice 0 2 = event.payload.take 2 := rfl
  have inTest (expected : Nat) :
      responseIn expected event.code event.payload =
        if (event.code = expected ∧ 3 ≤ event.payload.length) ∧
            Bytes.fromLittle (event.payload.take 2) = MGMT_OP_LOAD_CONN_PARAM then
          some (event.code, event.status)
        else none := by
    simp only [responseIn, opcode_eq, ite_and, ge_iff_le]
    rfl
  rw [inTest, inTest]
  by_cases complete : event.code = MGMT_EV_CMD_COMPLETE
  · have differ : MGMT_EV_CMD_COMPLETE ≠ MGMT_EV_CMD_STATUS := by decide
    simp [IsResponse, complete, differ]
  · simp [IsResponse, complete, and_assoc]

end Event

/-! ## The inner loop -/

/-- A pass over a complete event stops at a response and goes on behind any
other event. -/
theorem scanBody_complete
    {buf tail : Bytes} {offset : Nat} {event : Event}
    (inRange : event.InRange)
    (reads : buf.drop offset = event.encode ++ tail) :
    scanBody buf offset =
      if event.IsResponse then Pass.stop (.response event.code event.status)
      else Pass.next (offset + event.encode.length) := by
  obtain ⟨code_eq, length_eq, payload_eq⟩ := event.slices_encode tail
  rw [← reads, ← Bytes.slice_add] at code_eq length_eq payload_eq
  have long : offset + event.encode.length ≤ buf.length := by
    have lengths := congrArg List.length reads
    rw [List.length_drop, List.length_append] at lengths
    have positive := event.length_encode
    omega
  have header : offset + 6 ≤ buf.length := by
    rw [event.length_encode] at long
    omega
  have code_read : Bytes.fromLittle (buf.slice offset (offset + 2)) =
      event.code := by
    rw [Nat.add_zero] at code_eq
    rw [code_eq, Bytes.fromLittle_littleEndian inRange.code_lt]
  have length_read : Bytes.fromLittle (buf.slice (offset + 4) (offset + 6)) =
      event.payload.length := by
    rw [length_eq, Bytes.fromLittle_littleEndian inRange.length_lt]
  have ends : ¬buf.length < offset + 6 + event.payload.length := by
    rw [event.length_encode] at long
    omega
  rw [← Nat.add_assoc] at payload_eq
  unfold scanBody
  simp only [if_pos header, code_read, length_read, if_neg ends, payload_eq]
  have found := event.responseIn_eq
  rw [event.length_encode, ← Nat.add_assoc]
  by_cases response : event.IsResponse
  · rw [if_pos response] at found ⊢
    cases first : responseIn MGMT_EV_CMD_COMPLETE event.code event.payload with
    | some answer =>
        rw [first, Option.some_or, Option.some.injEq] at found
        rw [found]
    | none =>
        rw [first, Option.none_or] at found
        rw [found]
  · rw [if_neg response, Option.or_eq_none_iff] at found
    rw [if_neg response, found.1, found.2]

/-- A pass over an incomplete event ends the loop. -/
theorem scanBody_incomplete
    {buf more tail : Bytes} {offset : Nat} {event : Event}
    (inRange : event.InRange)
    (short : (buf.drop offset).length < event.encode.length)
    (reads : buf.drop offset ++ more = event.encode ++ tail) :
    scanBody buf offset = Pass.stop (.unfinished offset) := by
  rw [List.length_drop, event.length_encode] at short
  unfold scanBody
  by_cases header : offset + 6 ≤ buf.length
  · have length_eq := (event.slices_encode tail).2.1
    have inside : Bytes.slice (event.encode ++ tail) 4 6 =
        buf.slice (offset + 4) (offset + 6) := by
      rw [← reads, Bytes.slice_add]
      apply Bytes.slice_append more (by decide)
      rw [List.length_drop]
      omega
    have length_read : Bytes.fromLittle (buf.slice (offset + 4) (offset + 6)) =
        event.payload.length := by
      rw [← inside, length_eq, Bytes.fromLittle_littleEndian inRange.length_lt]
    rw [if_pos header]
    dsimp only
    rw [length_read]
    apply if_pos
    omega
  · rw [if_neg header]

/-- At the end of the buffer the loop ends. -/
theorem scanBody_end
    {buf : Bytes} {offset : Nat}
    (ended : buf.drop offset = []) :
    scanBody buf offset = Pass.stop (.unfinished offset) := by
  have length_le := List.drop_eq_nil_iff.mp ended
  unfold scanBody
  rw [if_neg (by omega)]

/-! ## A buffer that starts a stream of events -/

namespace Event

@[simp] theorem encodeAll_nil : encodeAll [] = [] := rfl

@[simp] theorem encodeAll_cons (event : Event) (events : List Event) :
    encodeAll (event :: events) = event.encode ++ encodeAll events :=
  List.flatMap_cons

theorem encodeAll_append (first second : List Event) :
    encodeAll (first ++ second) = encodeAll first ++ encodeAll second :=
  List.flatMap_append

end Event

/-- A buffer that does not hold the first of the events that are to come. -/
def Incomplete (buf : Bytes) : List Event -> Prop
  | [] => buf = []
  | event :: _ => buf.length < event.encode.length

/-- What the inner loop finds in a buffer with the events that are to come. -/
inductive Finds (buf : Bytes) (events : List Event) (offset : Nat) : Scan -> Prop
  | response
      {skipped after : List Event} {event : Event}
      (events_eq : events = skipped ++ event :: after)
      (others : ∀ other ∈ skipped, ¬other.IsResponse)
      (isResponse : event.IsResponse)
      (inside : (Event.encodeAll (skipped ++ [event])).length ≤ buf.length) :
      Finds buf events offset (.response event.code event.status)
  | unfinished
      {skipped after : List Event} {left : Bytes}
      (events_eq : events = skipped ++ after)
      (others : ∀ other ∈ skipped, ¬other.IsResponse)
      (buf_eq : buf = Event.encodeAll skipped ++ left)
      (incomplete : Incomplete left after) :
      Finds buf events offset
        (.unfinished (offset + (Event.encodeAll skipped).length))

/-- An event that is no response is skipped. -/
theorem Finds.cons
    {event : Event} {tail : Bytes} {events : List Event} {offset : Nat}
    {result : Scan}
    (other : ¬event.IsResponse)
    (finds : Finds tail events (offset + event.encode.length) result) :
    Finds (event.encode ++ tail) (event :: events) offset result := by
  cases finds with
  | @response skipped after found events_eq others isResponse inside =>
      refine Finds.response (congrArg (List.cons event) events_eq)
        (List.forall_mem_cons.mpr ⟨other, others⟩) isResponse ?_
      rw [List.cons_append, Event.encodeAll_cons, List.length_append,
        List.length_append]
      exact Nat.add_le_add_left inside _
  | @unfinished skipped after left events_eq others buf_eq incomplete =>
      have result_eq : offset + event.encode.length +
          (Event.encodeAll skipped).length =
            offset + (Event.encodeAll (event :: skipped)).length := by
        rw [Event.encodeAll_cons, List.length_append, Nat.add_assoc]
      rw [result_eq]
      refine Finds.unfinished (congrArg (List.cons event) events_eq)
        (List.forall_mem_cons.mpr ⟨other, others⟩) ?_ incomplete
      rw [Event.encodeAll_cons, List.append_assoc, buf_eq]

/-- A loop that stops at an incomplete event has skipped nothing. -/
theorem Finds.stopped
    {buf : Bytes} {events : List Event} {offset : Nat}
    (incomplete : Incomplete buf events) :
    Finds buf events offset (.unfinished offset) :=
  have nothing : ∀ other ∈ ([] : List Event), ¬other.IsResponse := by simp
  Finds.unfinished rfl nothing rfl incomplete

/-- A loop that stops at a response has skipped nothing. -/
theorem Finds.head
    {event : Event} {tail : Bytes} {events : List Event} {offset : Nat}
    (isResponse : event.IsResponse) :
    Finds (event.encode ++ tail) (event :: events) offset
      (.response event.code event.status) := by
  have nothing : ∀ other ∈ ([] : List Event), ¬other.IsResponse := by simp
  have events_eq : event :: events = [] ++ event :: events := rfl
  apply Finds.response events_eq nothing isResponse
  rw [List.nil_append, Event.encodeAll_cons, Event.encodeAll_nil,
    List.append_nil, List.length_append]
  exact Nat.le_add_right _ _

/-- The inner loop from any offset of the buffer. -/
theorem exec_scanLoop_finds
    {buf more : Bytes} {events : List Event} {offset : Nat}
    (inRange : ∀ event ∈ events, event.InRange)
    (reads : buf.drop offset ++ more = Event.encodeAll events) :
    Finds (buf.drop offset) events offset ((scanLoop buf).exec offset) := by
  induction events generalizing offset with
  | nil =>
      have ended := (List.append_eq_nil_iff.mp reads).1
      have stops : (scanLoop buf).body offset = .stop (.unfinished offset) :=
        scanBody_end ended
      rw [Loop.exec_of_stop stops]
      exact Finds.stopped ended
  | cons event events inductionHypothesis =>
      rw [List.forall_mem_cons] at inRange
      rw [Event.encodeAll_cons] at reads
      by_cases short : (buf.drop offset).length < event.encode.length
      · have stops : (scanLoop buf).body offset = .stop (.unfinished offset) :=
          scanBody_incomplete inRange.1 short reads
        rw [Loop.exec_of_stop stops]
        exact Finds.stopped short
      · have isPrefix : event.encode <+: buf.drop offset := by
          apply List.prefix_of_prefix_length_le ?_ (List.prefix_append _ more)
            (Nat.not_lt.mp short)
          rw [reads]
          exact List.prefix_append _ _
        obtain ⟨tail, tail_eq⟩ := isPrefix
        have body_eq := scanBody_complete inRange.1 tail_eq.symm
        by_cases response : event.IsResponse
        · rw [if_pos response] at body_eq
          have stops : (scanLoop buf).body offset =
              .stop (.response event.code event.status) := body_eq
          rw [Loop.exec_of_stop stops, ← tail_eq]
          exact Finds.head response
        · rw [if_neg response] at body_eq
          have continues : (scanLoop buf).body offset =
              .next (offset + event.encode.length) := body_eq
          have tail_reads : buf.drop (offset + event.encode.length) = tail := by
            rw [← List.drop_drop, ← tail_eq, List.drop_left]
          have rest : buf.drop (offset + event.encode.length) ++ more =
              Event.encodeAll events := by
            rw [← tail_eq, List.append_assoc] at reads
            rw [tail_reads]
            exact List.append_cancel_left reads
          have finds := inductionHypothesis inRange.2 rest
          rw [Loop.exec_of_next continues, ← tail_eq]
          rw [tail_reads] at finds
          exact Finds.cons response finds

/-- The first response of a stream. -/
theorem first_response_unique
    {skipped skipped' after after' : List Event} {event event' : Event}
    (others : ∀ other ∈ skipped, ¬other.IsResponse)
    (isResponse : event.IsResponse)
    (others' : ∀ other ∈ skipped', ¬other.IsResponse)
    (isResponse' : event'.IsResponse)
    (same : skipped ++ event :: after = skipped' ++ event' :: after') :
    skipped = skipped' ∧ event = event' := by
  induction skipped generalizing skipped' with
  | nil =>
      cases skipped' with
      | nil => exact ⟨rfl, (List.cons.inj same).1⟩
      | cons head rest =>
          have event_eq : event = head := (List.cons.inj same).1
          exact absurd (event_eq ▸ isResponse) (others' head List.mem_cons_self)
  | cons first tail inductionHypothesis =>
      cases skipped' with
      | nil =>
          have event_eq : first = event' := (List.cons.inj same).1
          exact absurd (event_eq ▸ isResponse') (others first List.mem_cons_self)
      | cons head rest =>
          rw [List.forall_mem_cons] at others others'
          obtain ⟨head_eq, rest_eq⟩ := List.cons.inj same
          have equal := inductionHypothesis others.2 others'.2 rest_eq
          exact ⟨by rw [head_eq, equal.1], equal.2⟩

/-! ## The outer loop -/

/-- From a buffer the reader returns at an event, and has then read just the
chunks that it takes to hold the stream up to the end of the event. -/
def ReturnsAt
    (buf : Bytes)
    (chunks : List Bytes)
    (skipped : List Event)
    (event : Event) : Prop :=
  ∃ read last unread,
    chunks = read ++ last :: unread ∧
      buf.length + read.flatten.length <
          (Event.encodeAll (skipped ++ [event])).length ∧
        (Event.encodeAll (skipped ++ [event])).length ≤
            buf.length + (read ++ [last]).flatten.length ∧
          receiveFrom buf chunks =
            .returned event.code event.status unread

/-- A chunk that completes no response is consumed. -/
theorem ReturnsAt.consume
    {buf left chunk : Bytes} {chunks : List Bytes}
    {first skipped : List Event} {event : Event}
    (splits : buf ++ chunk = Event.encodeAll first ++ left)
    (continues : receiveFrom buf (chunk :: chunks) = receiveFrom left chunks)
    (returns : ReturnsAt left chunks skipped event) :
    ReturnsAt buf (chunk :: chunks) (first ++ skipped) event := by
  obtain ⟨read, last, unread, chunks_eq, needed, enough, result⟩ := returns
  have lengths := congrArg List.length splits
  rw [List.length_append, List.length_append] at lengths
  refine ⟨chunk :: read, last, unread, ?_, ?_, ?_, ?_⟩
  · rw [chunks_eq, List.cons_append]
  · rw [List.append_assoc, Event.encodeAll_append, List.length_append,
      List.flatten_cons, List.length_append]
    omega
  · rw [List.append_assoc, Event.encodeAll_append, List.length_append,
      List.cons_append, List.flatten_cons, List.length_append]
    omega
  · rw [continues, result]

/-- An incomplete buffer ends inside of every response that is to come. -/
theorem Incomplete.lt
    {buf : Bytes} {skipped after : List Event} {event : Event}
    (incomplete : Incomplete buf (skipped ++ event :: after)) :
    buf.length < (Event.encodeAll (skipped ++ [event])).length := by
  cases skipped with
  | nil =>
      have short : buf.length < event.encode.length := incomplete
      simpa using short
  | cons first rest =>
      have short : buf.length < first.encode.length := incomplete
      rw [List.cons_append, Event.encodeAll_cons, List.length_append]
      exact Nat.lt_add_right _ short

/-- What the outer loop does with the events that are to come: it returns at the
first response, or reads everything where there is none. -/
inductive Outcome (buf : Bytes) (chunks : List Bytes) (events : List Event) : Prop
  | returned
      {skipped after : List Event} {event : Event}
      (events_eq : events = skipped ++ event :: after)
      (others : ∀ other ∈ skipped, ¬other.IsResponse)
      (isResponse : event.IsResponse)
      (returns : ReturnsAt buf chunks skipped event)
  | blocked
      (others : ∀ other ∈ events, ¬other.IsResponse)
      (blocks : receiveFrom buf chunks = .blocked [])

/-- A chunk that completes no response is consumed with the events in it. -/
theorem Outcome.consume
    {buf left chunk : Bytes} {chunks : List Bytes} {first events : List Event}
    (others : ∀ other ∈ first, ¬other.IsResponse)
    (splits : buf ++ chunk = Event.encodeAll first ++ left)
    (continues : receiveFrom buf (chunk :: chunks) = receiveFrom left chunks)
    (outcome : Outcome left chunks events) :
    Outcome buf (chunk :: chunks) (first ++ events) := by
  cases outcome with
  | @returned skipped after event events_eq between isResponse returns =>
      have split_eq : first ++ events = first ++ skipped ++ event :: after := by
        rw [events_eq, List.append_assoc]
      exact Outcome.returned split_eq (List.forall_mem_append.mpr ⟨others, between⟩)
        isResponse (returns.consume splits continues)
  | blocked rest blocks =>
      exact Outcome.blocked (List.forall_mem_append.mpr ⟨others, rest⟩)
        (continues.trans blocks)

/-- The outer loop with a chunk in which the inner loop finds no response. -/
theorem receiveFrom_of_unfinished
    {buf left chunk : Bytes} {chunks : List Bytes} {first : List Event}
    (nonempty : chunk ≠ [])
    (splits : buf ++ chunk = Event.encodeAll first ++ left)
    (finds : scan (buf ++ chunk) = .unfinished (0 + (Event.encodeAll first).length)) :
    receiveFrom buf (chunk :: chunks) = receiveFrom left chunks := by
  have dropped : (if 0 + (Event.encodeAll first).length > 0 then
      (buf ++ chunk).drop (0 + (Event.encodeAll first).length) else buf ++ chunk) = left := by
    rw [splits, Nat.zero_add, List.drop_left]
    split
    · rfl
    · next none =>
        have first_eq : Event.encodeAll first = [] :=
          List.length_eq_zero_iff.mp (Nat.eq_zero_of_not_pos none)
        rw [first_eq, List.nil_append]
  rw [receiveFrom, if_neg nonempty]
  simp only [finds, dropped]

/-- The outer loop on a stream of events, from a buffer that holds none of them. -/
theorem receiveFrom_finds
    {chunks : List Bytes} {buf : Bytes} {events : List Event}
    (inRange : ∀ event ∈ events, event.InRange)
    (incomplete : Incomplete buf events)
    (reads : buf ++ chunks.flatten = Event.encodeAll events) :
    Outcome buf chunks events := by
  induction chunks generalizing buf events with
  | nil =>
      rw [List.flatten_nil, List.append_nil] at reads
      cases events with
      | nil =>
          have buf_eq : buf = [] := incomplete
          exact Outcome.blocked (by simp) (by rw [buf_eq]; rfl)
      | cons event rest =>
          have short : buf.length < event.encode.length := incomplete
          rw [reads, Event.encodeAll_cons, List.length_append] at short
          omega
  | cons chunk chunks inductionHypothesis =>
      rw [List.flatten_cons, ← List.append_assoc] at reads
      by_cases empty : chunk = []
      · have continues : receiveFrom buf (chunk :: chunks) = receiveFrom buf chunks := by
          rw [receiveFrom, if_pos empty]
        have splits : buf ++ chunk = Event.encodeAll [] ++ buf := by
          rw [empty, List.append_nil, Event.encodeAll_nil, List.nil_append]
        rw [empty, List.append_nil] at reads
        have nothing : ∀ other ∈ ([] : List Event), ¬other.IsResponse := by simp
        exact (inductionHypothesis inRange incomplete reads).consume nothing splits continues
      · have fromStart : (buf ++ chunk).drop 0 ++ chunks.flatten =
            Event.encodeAll events := reads
        have finds : Finds (buf ++ chunk) events 0 (scan (buf ++ chunk)) :=
          exec_scanLoop_finds inRange fromStart
        generalize result_eq : scan (buf ++ chunk) = result at finds
        cases finds with
        | @response skipped after event events_eq others isResponse inside =>
            have step : receiveFrom buf (chunk :: chunks) =
                .returned event.code event.status chunks := by
              rw [receiveFrom, if_neg empty]
              simp only [result_eq]
            refine Outcome.returned events_eq others isResponse
              ⟨[], chunk, chunks, rfl, ?_, ?_, step⟩
            · rw [events_eq] at incomplete
              simpa using incomplete.lt
            · rw [List.nil_append, List.flatten_cons, List.flatten_nil,
                List.append_nil, ← List.length_append]
              exact inside
        | @unfinished skipped after left events_eq others buf_eq leftIncomplete =>
            rw [events_eq, List.forall_mem_append] at inRange
            rw [events_eq, Event.encodeAll_append, buf_eq, List.append_assoc] at reads
            rw [events_eq]
            exact (inductionHypothesis inRange.2 leftIncomplete
              (List.append_cancel_left reads)).consume others buf_eq
                (receiveFrom_of_unfinished empty buf_eq result_eq)

/-- However a stream of events is cut, the reader returns the code and the
status of its first response and reads no chunk beyond the one that completes
it; it does not return on a stream without a response. -/
theorem receiveMgmtResponse_first
    (events : List Event)
    (inRange : ∀ event ∈ events, event.InRange)
    (chunks : List Bytes)
    (cut : chunks.flatten = Event.encodeAll events) :
    (∀ skipped event after, events = skipped ++ event :: after ->
      (∀ other ∈ skipped, ¬other.IsResponse) -> event.IsResponse ->
        ∃ read last unread, chunks = read ++ last :: unread ∧
          read.flatten.length < (Event.encodeAll (skipped ++ [event])).length ∧
            (Event.encodeAll (skipped ++ [event])).length ≤
                (read ++ [last]).flatten.length ∧
              receiveMgmtResponse chunks =
                .returned event.code event.status unread) ∧
      ((∀ event ∈ events, ¬event.IsResponse) ->
        receiveMgmtResponse chunks = .blocked []) := by
  have incomplete : Incomplete [] events := by
    cases events with
    | nil => rfl
    | cons event rest =>
        change 0 < event.encode.length
        rw [event.length_encode]
        omega
  have reads : [] ++ chunks.flatten = Event.encodeAll events := cut
  constructor
  · intro skipped event after events_eq others isResponse
    cases receiveFrom_finds inRange incomplete reads with
    | returned events_eq' others' isResponse' returns =>
        obtain ⟨rfl, rfl⟩ := first_response_unique others isResponse others' isResponse'
          (events_eq.symm.trans events_eq')
        simp only [ReturnsAt, List.length_nil, Nat.zero_add] at returns
        exact returns
    | blocked none _ => exact absurd isResponse (none event (by rw [events_eq]; simp))
  · intro noResponse
    cases receiveFrom_finds inRange incomplete reads with
    | returned events_eq _ isResponse _ =>
        exact absurd isResponse (noResponse _ (by rw [events_eq]; simp))
    | blocked _ blocks => exact blocks

/-- A status event of another command and the response, cut inside the header
of the second and read with an empty chunk between. -/
theorem receiveMgmtResponse_first_cut :
    ∃ read last unread,
      [[2, 0, 0, 0, 3, 0, 5, 0, 0, 1, 0], [], [0, 0, 4, 0, 53, 0, 7], [1]] =
          read ++ last :: unread ∧
        read.flatten.length < 19 ∧ 19 ≤ (read ++ [last]).flatten.length ∧
          receiveMgmtResponse
              [[2, 0, 0, 0, 3, 0, 5, 0, 0, 1, 0], [], [0, 0, 4, 0, 53, 0, 7], [1]] =
            .returned 1 7 unread :=
  have inRange : ∀ event ∈ [Event.mk 2 0 [5, 0, 0], Event.mk 1 0 [53, 0, 7, 1]],
      event.InRange :=
    List.forall_mem_cons.mpr ⟨⟨by decide, by decide, by decide⟩,
      List.forall_mem_singleton.mpr ⟨by decide, by decide, by decide⟩⟩
  (receiveMgmtResponse_first _ inRange _ (by decide)).1
    [Event.mk 2 0 [5, 0, 0]] (Event.mk 1 0 [53, 0, 7, 1]) [] rfl (by decide) (by decide)

end Mgmt
end BoschBle
