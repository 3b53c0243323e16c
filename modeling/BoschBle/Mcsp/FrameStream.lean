import BoschBle.Mcsp.Frame

/-!
# The MCSP stream

The splitter reads a notification as a stream of frames.  The record format of
a single frame gives both directions at once: splitting undoes encoding, and
whatever is accepted is the concatenation of the encodings of the frames that
are returned.
-/

namespace BoschBle
namespace Mcsp

open Foundation

/-- Read one frame off the front of a byte string. -/
def parseFrame (data : Bytes) : Except Exn (Frame × Bytes) :=
  match data with
  | header :: low :: _ =>
      let frameLength := 2 + (header.toNat % 16 * 256 + low.toNat)
      if data.length < frameLength then
        .error ⟨.valueError, "Trailing partial MCSP frame payload."⟩
      else
        match decodeFrame (data.take frameLength) with
        | .ok frame => .ok (frame, data.drop frameLength)
        | .error exc => .error exc
  | _ => .error ⟨.valueError, "Trailing partial MCSP frame header."⟩

theorem frameBytes_ne_nil (frame : Frame) : frameBytes frame ≠ [] := by
  simp [frameBytes]

/-- Reading undoes writing, whatever follows. -/
theorem parseFrame_frameBytes
    {frame : Frame}
    (fits : frame.payload.length ≤ 4095)
    (rest : Bytes) :
    parseFrame (frameBytes frame ++ rest) = .ok (frame, rest) := by
  obtain ⟨header, low, bytes_eq, _, _, length_eq⟩ := frameBytes_fields fits
  have length_frame : (frameBytes frame).length =
      2 + (header.toNat % 16 * 256 + low.toNat) := by
    rw [bytes_eq, List.length_cons, List.length_cons, length_eq]
    omega
  have enough : ¬(frameBytes frame ++ rest).length <
      2 + (header.toNat % 16 * 256 + low.toNat) := by
    rw [List.length_append, length_frame]
    omega
  have decodes := decodeFrame_frameBytes fits
  have taken : (frameBytes frame ++ rest).take _ = frameBytes frame :=
    List.take_left' length_frame
  have remaining : (frameBytes frame ++ rest).drop _ = rest :=
    List.drop_left' length_frame
  rw [← taken] at decodes
  rw [bytes_eq] at enough decodes remaining ⊢
  simp only [List.cons_append] at enough decodes remaining ⊢
  simp only [parseFrame, if_neg enough, decodes, remaining]

/-- What is read is what writing it gives. -/
theorem parseFrame_sound
    {data rest : Bytes} {frame : Frame}
    (parses : parseFrame data = .ok (frame, rest)) :
    frame.payload.length ≤ 4095 ∧ data = frameBytes frame ++ rest := by
  match data with
  | [] => simp [parseFrame] at parses
  | [_] => simp [parseFrame] at parses
  | header :: low :: tail =>
      simp only [parseFrame] at parses
      split at parses
      case isTrue => cases parses
      case isFalse enough =>
        have headerBound := header.toNat_lt
        have lowBound := low.toNat_lt
        have payload_length :
            (tail.take (header.toNat % 16 * 256 + low.toNat)).length =
              header.toNat % 16 * 256 + low.toNat := by
          simp only [List.length_cons] at enough
          rw [List.length_take]
          omega
        obtain ⟨channel, value_eq, decodes⟩ :=
          decodeFrame_of_length payload_length
        rw [Nat.add_comm 2, List.take_succ_cons, List.take_succ_cons,
          decodes] at parses
        simp only [List.drop_succ_cons, Except.ok.injEq,
          Prod.mk.injEq] at parses
        obtain ⟨frame_eq, rest_eq⟩ := parses
        subst frame_eq rest_eq
        refine ⟨by simp only [payload_length]; omega, ?_⟩
        rw [frameBytes_of_header value_eq payload_length]
        simp only [List.cons_append, List.take_append_drop]

/-- MCSP frames as a record format. -/
def frameFormat : RecordFormat UInt8 Exn Frame where
  Valid := fun frame => frame.payload.length ≤ 4095
  encode := frameBytes
  parse := parseFrame
  encode_ne_nil := frameBytes_ne_nil
  parse_encode := fun _ rest fits => parseFrame_frameBytes fits rest
  parse_sound := fun _ _ _ => parseFrame_sound

/-- One pass of the splitter at `offset` is one pass of the record reader on
the bytes from `offset` on. -/
theorem splitFramesBody_eq_readBody
    {data : Bytes} {offset : Nat}
    (inside : offset ≤ data.length)
    (frames : List Frame) :
    splitFramesBody data (offset, frames) =
      match frameFormat.readBody (data.drop offset, frames) with
      | .stop result => .stop result
      | .next (rest, collected) =>
          .next (data.length - rest.length, collected) := by
  have remaining : (data.drop offset).length = data.length - offset :=
    List.length_drop
  unfold splitFramesBody
  match tokens : data.drop offset with
  | [] =>
      rw [tokens, List.length_nil] at remaining
      simp only [if_neg (show ¬offset < data.length by omega),
        RecordFormat.readBody]
  | [_] =>
      rw [tokens, List.length_singleton] at remaining
      simp only [if_pos (show offset < data.length by omega), tokens,
        RecordFormat.readBody, frameFormat, parseFrame]
  | header :: low :: tail =>
      have slice_eq (count : Nat) :
          data.slice offset (offset + count) =
            (header :: low :: tail).take count := by
        rw [Bytes.slice, tokens, Nat.add_sub_cancel_left]
      rw [tokens, List.length_cons] at remaining
      simp only [if_pos (show offset < data.length by omega), tokens,
        RecordFormat.readBody, frameFormat, parseFrame, payloadLength_eq,
        slice_eq]
      by_cases short : data.length <
          offset + (2 + (header.toNat % 16 * 256 + low.toNat))
      · rw [if_pos short, if_pos (by rw [List.length_cons]; omega)]
      · rw [if_neg short, if_neg (by rw [List.length_cons]; omega)]
        cases decodeFrame ((header :: low :: tail).take
            (2 + (header.toNat % 16 * 256 + low.toNat))) with
        | error exc => rfl
        | ok frame =>
            have stop_eq : offset +
                (2 + (header.toNat % 16 * 256 + low.toNat)) =
                  data.length - ((header :: low :: tail).drop
                    (2 + (header.toNat % 16 * 256 + low.toNat))).length := by
              rw [List.length_drop, List.length_cons]
              omega
            rw [stop_eq]

/-- The splitter reads the stream of records of `frameFormat`. -/
theorem splitFrames_eq_decodeAll (data : Bytes) :
    splitFrames data = frameFormat.decodeAll data := by
  refine Loop.exec_simulation
    (fun state other =>
      state.1 ≤ data.length ∧ other = (data.drop state.1, state.2))
    ?_ ?_ ⟨Nat.zero_le _, rfl⟩
  · rintro ⟨offset, frames⟩ _ result ⟨inside, rfl⟩ stops
    change splitFramesBody data (offset, frames) = .stop result at stops
    rw [splitFramesBody_eq_readBody inside] at stops
    change frameFormat.readBody (data.drop offset, frames) = .stop result
    cases passes : frameFormat.readBody (data.drop offset, frames) with
    | stop other =>
        rw [passes, Pass.stop.injEq] at stops
        rw [stops]
    | next after =>
        rw [passes] at stops
        cases stops
  · rintro ⟨offset, frames⟩ _ after ⟨inside, rfl⟩ continues
    change splitFramesBody data (offset, frames) = .next after at continues
    rw [splitFramesBody_eq_readBody inside] at continues
    cases passes : frameFormat.readBody (data.drop offset, frames) with
    | stop other =>
        rw [passes] at continues
        cases continues
    | next otherAfter =>
        obtain ⟨rest, collected⟩ := otherAfter
        rw [passes] at continues
        cases continues
        have suffix := (frameFormat.suffix_of_readBody passes).trans
          (List.drop_suffix offset data)
        refine ⟨(rest, collected), passes, Nat.sub_le _ _, ?_⟩
        rw [← List.suffix_iff_eq_drop.mp suffix]


/-! ## Errors and fuel of the splitter -/

theorem decodeFrame_error_type
    {data : Bytes} {exc : Exn}
    (fails : decodeFrame data = .error exc) :
    exc.type = .valueError := by
  match data with
  | [] =>
      cases fails
      rfl
  | [_] =>
      cases fails
      rfl
  | header :: low :: payload =>
      by_cases length_eq :
          payload.length = header.toNat % 16 * 256 + low.toNat
      · obtain ⟨channel, _, decodes⟩ := decodeFrame_of_length length_eq
        rw [decodes] at fails
        cases fails
      · have disagrees : (header :: low :: payload).length ≠
            2 + (header.toNat % 16 * 256 + low.toNat) := by
          rw [List.length_cons, List.length_cons]
          omega
        simp only [decodeFrame, payloadLength_eq, if_pos disagrees] at fails
        cases fails
        rfl

/-- Every failure of the splitter is a `ValueError`. -/
theorem splitFrames_error_type
    {data : Bytes} {exc : Exn}
    (fails : splitFrames data = .error exc) :
    exc.type = .valueError := by
  have sound := Loop.exec_induction (splitFramesLoop data)
    (fun _ result =>
      ∀ exc, result = .error exc → exc.type = .valueError)
    (by
      rintro ⟨offset, frames⟩ result stops exc result_eq
      subst result_eq
      change splitFramesBody data (offset, frames) = .stop (.error exc) at stops
      simp only [splitFramesBody] at stops
      split at stops
      case isFalse => cases stops
      case isTrue inside =>
        split at stops
        case h_2 =>
          cases stops
          rfl
        case h_1 =>
          split at stops
          case isTrue =>
            cases stops
            rfl
          case isFalse =>
            split at stops
            case h_1 => cases stops
            case h_2 inner decodes =>
              cases stops
              exact decodeFrame_error_type decodes)
    (fun _ _ _ hypothesis => hypothesis)
    (0, [])
  exact sound exc fails

/-- Behind the two length checks of the splitter the inner `decodeFrame` call
returns. -/
theorem decodeFrame_slice
    {data : Bytes} {offset : Nat} {header low : UInt8} {tail : Bytes}
    (tokens : data.drop offset = header :: low :: tail)
    (fits : offset + (2 + (((header.toNat &&& 0x0F) <<< 8) ||| low.toNat)) ≤
      data.length) :
    ∃ frame, decodeFrame (data.slice offset
      (offset + (2 + (((header.toNat &&& 0x0F) <<< 8) ||| low.toNat)))) =
        .ok frame := by
  rw [payloadLength_eq] at fits ⊢
  have remaining : (data.drop offset).length = data.length - offset :=
    List.length_drop
  rw [tokens, List.length_cons, List.length_cons] at remaining
  have payload_length :
      (tail.take (header.toNat % 16 * 256 + low.toNat)).length =
        header.toNat % 16 * 256 + low.toNat := by
    rw [List.length_take]
    omega
  obtain ⟨channel, _, decodes⟩ := decodeFrame_of_length payload_length
  have slice_eq : data.slice offset
      (offset + (2 + (header.toNat % 16 * 256 + low.toNat))) =
        header :: low ::
          tail.take (header.toNat % 16 * 256 + low.toNat) := by
    rw [Bytes.slice, tokens, Nat.add_sub_cancel_left, Nat.add_comm 2,
      List.take_succ_cons, List.take_succ_cons]
  rw [slice_eq]
  exact ⟨_, decodes⟩

/-! ## Lists of encoded frames -/

theorem encodeFrame_eq_ok_iff {frame : Frame} {packet : Bytes} :
    encodeFrame frame = .ok packet ↔
      frame.payload.length ≤ 4095 ∧ packet = frameBytes frame := by
  by_cases fits : frame.payload.length ≤ 4095
  · rw [encodeFrame_of_le fits, Except.ok.injEq]
    exact ⟨fun equal => ⟨fits, equal.symm⟩, fun equal => equal.2.symm⟩
  · have larger : frame.payload.length > 0x0FFF := by omega
    simp [encodeFrame, larger, fits]

/-- Encoding a list of frames returns exactly when every payload fits, and
then the packets concatenate to the stream of the frames. -/
theorem mapM_encodeFrame_eq_ok
    {frames : List Frame} {packets : List Bytes}
    (encodes : frames.mapM encodeFrame = .ok packets) :
    (∀ frame ∈ frames, frame.payload.length ≤ 4095) ∧
      packets.flatten = frameFormat.encodeAll frames := by
  rw [mapM_eq_ok_iff] at encodes
  induction encodes with
  | nil => exact ⟨by simp, rfl⟩
  | @cons frame packet rest tail first _ inductionHypothesis =>
      obtain ⟨fits, packet_eq⟩ := encodeFrame_eq_ok_iff.mp first
      obtain ⟨restFits, tail_eq⟩ := inductionHypothesis
      refine ⟨List.forall_mem_cons.mpr ⟨fits, restFits⟩, ?_⟩
      rw [List.flatten_cons, tail_eq, packet_eq, RecordFormat.encodeAll_cons]
      rfl

theorem mapM_encodeFrame_of_le
    {frames : List Frame}
    (fits : ∀ frame ∈ frames, frame.payload.length ≤ 4095) :
    frames.mapM encodeFrame = .ok (frames.map frameBytes) :=
  mapM_of_forall_ok fun frame present => encodeFrame_of_le (fits frame present)

/-- Splitting the concatenated encodings of frames gives back the frames. -/
theorem splitFrames_encodeAll
    {frames : List Frame}
    (fits : ∀ frame ∈ frames, frame.payload.length ≤ 4095) :
    splitFrames (frameFormat.encodeAll frames) = .ok frames := by
  rw [splitFrames_eq_decodeAll]
  exact frameFormat.decodeAll_encodeAll fits

/-- An accepted byte string is the concatenated encodings of its frames. -/
theorem encodeAll_of_splitFrames
    {data : Bytes} {frames : List Frame}
    (splits : splitFrames data = .ok frames) :
    (∀ frame ∈ frames, frame.payload.length ≤ 4095) ∧
      data = frameFormat.encodeAll frames := by
  rw [splitFrames_eq_decodeAll] at splits
  exact frameFormat.encodeAll_of_decodeAll splits

/-- Splitting and encoding are mutually inverse over the whole stream format:
splitting undoes encoding, every accepted byte string is put back together by
encoding, a byte string is accepted exactly when it is a concatenation of frame
encodings and then has a single parse, the loop ends, and behind its two length
checks the inner `decodeFrame` call returns. -/
theorem splitFrames_inverse_encodeFrame :
    (∀ frames : List Frame,
      (∀ frame ∈ frames, frame.payload.length ≤ 4095) →
        ∃ packets, frames.mapM encodeFrame = .ok packets ∧
          splitFrames packets.flatten = .ok frames) ∧
    (∀ data : Bytes,
      (∃ exc, splitFrames data = .error exc ∧ exc.type = .valueError) ∨
        ∃ frames packets, splitFrames data = .ok frames ∧
          frames.mapM encodeFrame = .ok packets ∧ packets.flatten = data) ∧
    (∀ data : Bytes,
      (∃ frames, splitFrames data = .ok frames) ↔
        ∃ (frames : List Frame) (packets : List Bytes),
          frames.mapM encodeFrame = .ok packets ∧ packets.flatten = data) ∧
    (∀ left right : List Frame, ∀ leftPackets rightPackets : List Bytes,
      left.mapM encodeFrame = .ok leftPackets →
        right.mapM encodeFrame = .ok rightPackets →
          leftPackets.flatten = rightPackets.flatten → left = right) ∧
    (∀ data : Bytes,
      ∃ fuel, runPasses (splitFramesBody data) fuel (0, []) =
        some (splitFrames data)) ∧
    (∀ (data : Bytes) (offset : Nat) (header low : UInt8) (tail : Bytes),
      data.drop offset = header :: low :: tail →
        offset + (2 + (((header.toNat &&& 0x0F) <<< 8) ||| low.toNat)) ≤
            data.length →
          ∃ frame, decodeFrame (data.slice offset
            (offset + (2 + (((header.toNat &&& 0x0F) <<< 8) ||| low.toNat)))) =
              .ok frame) := by
  have accepted {data : Bytes} {frames : List Frame}
      (splits : splitFrames data = .ok frames) :
      ∃ packets, frames.mapM encodeFrame = .ok packets ∧
        packets.flatten = data := by
    obtain ⟨fits, data_eq⟩ := encodeAll_of_splitFrames splits
    refine ⟨_, mapM_encodeFrame_of_le fits, ?_⟩
    rw [data_eq, ← (mapM_encodeFrame_eq_ok (mapM_encodeFrame_of_le fits)).2]
  have reads {frames : List Frame} {packets : List Bytes}
      (encodes : frames.mapM encodeFrame = .ok packets) :
      splitFrames packets.flatten = .ok frames := by
    obtain ⟨fits, flatten_eq⟩ := mapM_encodeFrame_eq_ok encodes
    rw [flatten_eq, splitFrames_encodeAll fits]
  refine ⟨?_, ?_, ?_, ?_, ?_, ?_⟩
  · intro frames fits
    exact ⟨_, mapM_encodeFrame_of_le fits, reads (mapM_encodeFrame_of_le fits)⟩
  · intro data
    cases splits : splitFrames data with
    | error exc => exact Or.inl ⟨exc, rfl, splitFrames_error_type splits⟩
    | ok frames =>
        obtain ⟨packets, encodes, flatten_eq⟩ := accepted splits
        exact Or.inr ⟨frames, packets, rfl, encodes, flatten_eq⟩
  · intro data
    constructor
    · rintro ⟨frames, splits⟩
      exact ⟨frames, accepted splits⟩
    · rintro ⟨frames, packets, encodes, rfl⟩
      exact ⟨frames, reads encodes⟩
  · intro left right leftPackets rightPackets leftEncodes rightEncodes equal
    obtain ⟨leftFits, left_eq⟩ := mapM_encodeFrame_eq_ok leftEncodes
    obtain ⟨rightFits, right_eq⟩ := mapM_encodeFrame_eq_ok rightEncodes
    apply frameFormat.encodeAll_injective leftFits rightFits
    rw [← left_eq, equal, right_eq]
  · intro data
    exact ⟨_, (splitFramesLoop data).runPasses_eq_exec (0, [])
      (Nat.lt_succ_self _)⟩
  · intro data offset header low tail tokens fits
    exact decodeFrame_slice tokens fits

/-- The recorded version command and an empty frame on the last channel. -/
theorem splitFrames_inverse_encodeFrame_recorded :
    (∃ packets,
      [ Frame.mk true .command [0x01, 0x03],
        Frame.mk false .channel7 [] ].mapM encodeFrame = .ok packets ∧
        splitFrames packets.flatten = .ok
          [Frame.mk true .command [0x01, 0x03], Frame.mk false .channel7 []]) ∧
    (∃ frame, decodeFrame
      (Bytes.slice [0x10, 0x02, 0x01, 0x03] 0 (0 + (2 + 2))) = .ok frame) :=
  ⟨splitFrames_inverse_encodeFrame.1 _ (by decide),
    splitFrames_inverse_encodeFrame.2.2.2.2.2
      [0x10, 0x02, 0x01, 0x03] 0 0x10 0x02 [0x01, 0x03] rfl (by decide)⟩

example :
    splitFrames [0x10, 0x02, 0x01, 0x03, 0xE0, 0x00] =
      .ok [Frame.mk true .command [0x01, 0x03], Frame.mk false .channel7 []] := by
  decide

end Mcsp
end BoschBle
