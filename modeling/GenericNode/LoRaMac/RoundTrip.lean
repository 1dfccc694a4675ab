import GenericNode.LoRaMac.Frames

/-!
# Serialising and parsing data messages

A message that describes a frame is serialised to the bytes of the frame, and
a buffer that starts with these bytes is parsed to a message that describes
it.  Both round trips follow.
-/

namespace GenericNode.LoRaMac

open GenericNode.Library
open GenericNode.SecureElement

/-! ## A frame and its message -/

/-- A message describes at most one frame. -/
theorem LoRaMacMessageData.Holds.unique {macMsg : LoRaMacMessageData} {first second : DataFrame}
    (holds : macMsg.Holds first) (also : macMsg.Holds second) : first = second := by
  have fCtrl_eq : first.fCtrl = second.fCtrl := holds.fCtrl.symm.trans also.fCtrl
  have fOpts_eq : first.fOpts = second.fOpts := by
    have lengths : first.fOpts.length = second.fOpts.length := by
      rw [first.fOpts_length, second.fOpts_length, fCtrl_eq]
    have read := also.fOpts
    rw [← lengths, holds.fOpts] at read
    exact Option.some.inj read
  have payload_eq : first.payload = second.payload := by
    have lengths := holds.frmPayloadSize.symm.trans also.frmPayloadSize
    have read := also.payload
    rw [← lengths, holds.payload] at read
    exact Option.some.inj read
  have content_eq : first.content = second.content := by
    cases firstContent : first.content with
    | none =>
        cases secondContent : second.content with
        | none => rfl
        | some content =>
            have none_payload : first.payload = [] := by
              simp only [DataFrame.payload, firstContent]
            rw [none_payload, second.payload_of_content secondContent] at payload_eq
            exact absurd payload_eq.symm (second.payload_ne _ _ secondContent)
    | some content =>
        cases secondContent : second.content with
        | none =>
            have none_payload : second.payload = [] := by
              simp only [DataFrame.payload, secondContent]
            rw [none_payload, first.payload_of_content firstContent] at payload_eq
            exact absurd payload_eq (first.payload_ne _ _ firstContent)
        | some other =>
            have ports := (holds.fPort _ _ firstContent).symm.trans (also.fPort _ _ secondContent)
            rw [first.payload_of_content firstContent,
              second.payload_of_content secondContent] at payload_eq
            exact congrArg some (Prod.ext ports payload_eq)
  have mhdr_eq := holds.mhdr.symm.trans also.mhdr
  have devAddr_eq := holds.devAddr.symm.trans also.devAddr
  have fCnt_eq := holds.fCnt.symm.trans also.fCnt
  have mic_eq := holds.mic.symm.trans also.mic
  cases first
  cases second
  simp_all

/-- A message inside its arrays describes a frame. -/
theorem LoRaMacMessageData.exists_holds (macMsg : LoRaMacMessageData)
    (fOpts_inside : macMsg.fhdr.fOptsLen ≤ macMsg.fhdr.fOpts.length)
    (payload_inside : macMsg.frmPayloadSize ≤ macMsg.frmPayload.length) :
    ∃ frame, macMsg.Holds frame := by
  have fOpts_length : (macMsg.fhdr.fOpts.take macMsg.fhdr.fOptsLen).length =
      macMsg.fhdr.fOptsLen := List.length_take_of_le fOpts_inside
  have payload_length : (macMsg.frmPayload.take macMsg.frmPayloadSize).length =
      macMsg.frmPayloadSize := List.length_take_of_le payload_inside
  have fOpts_read : slice macMsg.fhdr.fOpts 0 (macMsg.fhdr.fOpts.take macMsg.fhdr.fOptsLen).length =
      some (macMsg.fhdr.fOpts.take macMsg.fhdr.fOptsLen) := by
    rw [fOpts_length, slice_eq_some (by omega), List.drop_zero]
  by_cases empty : macMsg.frmPayloadSize = 0
  · exact ⟨⟨macMsg.mhdr, macMsg.fhdr.devAddr, macMsg.fhdr.fCtrl, macMsg.fhdr.fCnt,
      macMsg.fhdr.fOpts.take macMsg.fhdr.fOptsLen, none, macMsg.mic, fOpts_length, nofun⟩,
      rfl, rfl, rfl, rfl, fOpts_read, by simp [slice, DataFrame.payload], empty, nofun, rfl⟩
  · have payload_ne : macMsg.frmPayload.take macMsg.frmPayloadSize ≠ [] := by
      intro nil
      rw [nil] at payload_length
      exact empty payload_length.symm
    refine ⟨⟨macMsg.mhdr, macMsg.fhdr.devAddr, macMsg.fhdr.fCtrl, macMsg.fhdr.fCnt,
      macMsg.fhdr.fOpts.take macMsg.fhdr.fOptsLen,
      some (macMsg.fPort, macMsg.frmPayload.take macMsg.frmPayloadSize), macMsg.mic, fOpts_length,
      ?_⟩, rfl, rfl, rfl, rfl, fOpts_read, ?_, payload_length.symm, ?_, rfl⟩
    · rintro _ _ ⟨⟩
      exact payload_ne
    · simp only [DataFrame.payload, payload_length]
      rw [slice_eq_some (by omega), List.drop_zero]
    · rintro _ _ ⟨⟩
      rfl

/-- The bytes of a frame determine it, if their number is at least that of the
fixed fields with the options and not one more. -/
theorem DataFrame.exists_bytes (bytes : List UInt8) {fCtrl : UInt8} (control : bytes[5]? = some fCtrl)
    (whole : loramacFramePayloadMinSize + fOptsLenOf fCtrl ≤ bytes.length)
    (no_lone_port : bytes.length ≠ loramacFramePayloadMinSize + fOptsLenOf fCtrl + 1) :
    ∃ frame : DataFrame, frame.fCtrl = fCtrl ∧ frame.bytes = bytes := by
  have fixed : loramacFramePayloadMinSize = 12 := rfl
  rw [fixed] at whole no_lone_port
  match bytes with
  | byte0 :: byte1 :: byte2 :: byte3 :: byte4 :: byte5 :: byte6 :: byte7 :: tail =>
      obtain rfl : byte5 = fCtrl := by simpa using control
      simp only [List.length_cons] at whole no_lone_port
      -- The tail is the options, the port with the payload, and the MIC.
      let count := fOptsLenOf byte5
      let middle := (tail.drop count).take (tail.length - count - 4)
      let last := (tail.drop count).drop (tail.length - count - 4)
      have tail_eq : tail = tail.take count ++ (middle ++ last) := by
        rw [List.take_append_drop, List.take_append_drop]
      have options_length : (tail.take count).length = count :=
        List.length_take_of_le (by omega)
      have last_length : last.length = 4 := by
        simp only [last, List.length_drop]
        omega
      have middle_length : middle.length = tail.length - count - 4 := by
        simp only [middle, List.length_take, List.length_drop]
        omega
      have devAddr_bytes : leBytes 4 (UInt32.ofNat (leNat [byte1, byte2, byte3, byte4])).toNat =
          [byte1, byte2, byte3, byte4] := leBytes_toNat_ofNat32 rfl
      have fCnt_bytes : leBytes 2 (UInt16.ofNat (leNat [byte6, byte7])).toNat = [byte6, byte7] :=
        leBytes_toNat_ofNat16 rfl
      have mic_bytes : leBytes 4 (UInt32.ofNat (leNat last)).toNat = last :=
        leBytes_toNat_ofNat32 last_length
      cases middle_eq : middle with
      | nil =>
          refine ⟨⟨byte0, UInt32.ofNat (leNat [byte1, byte2, byte3, byte4]), byte5,
            UInt16.ofNat (leNat [byte6, byte7]), tail.take count, none,
            UInt32.ofNat (leNat last), options_length, nofun⟩, rfl, ?_⟩
          simp only [DataFrame.bytes, DataFrame.body, DataFrame.portBytes, DataFrame.payload,
            devAddr_bytes, fCnt_bytes, mic_bytes]
          rw [middle_eq] at tail_eq
          conv_rhs => rw [tail_eq]
          simp
      | cons port payload =>
          have payload_ne : payload ≠ [] := by
            rintro rfl
            rw [middle_eq, List.length_singleton] at middle_length
            omega
          refine ⟨⟨byte0, UInt32.ofNat (leNat [byte1, byte2, byte3, byte4]), byte5,
            UInt16.ofNat (leNat [byte6, byte7]), tail.take count, some (port, payload),
            UInt32.ofNat (leNat last), options_length, ?_⟩, rfl, ?_⟩
          · rintro _ _ ⟨⟩
            exact payload_ne
          · simp only [DataFrame.bytes, DataFrame.body, DataFrame.portBytes, DataFrame.payload,
              devAddr_bytes, fCnt_bytes, mic_bytes]
            rw [middle_eq] at tail_eq
            conv_rhs => rw [tail_eq]
            simp
  | [] | [_] | [_, _] | [_, _, _] | [_, _, _, _] | [_, _, _, _, _] | [_, _, _, _, _, _]
  | [_, _, _, _, _, _, _] =>
      simp at whole
      try omega

/-! ## Serialising -/

/-- The port is written with a payload. -/
theorem LoRaMacMessageData.Holds.portBytes_eq {macMsg : LoRaMacMessageData} {frame : DataFrame}
    (holds : macMsg.Holds frame) :
    (if 0 < macMsg.frmPayloadSize then [macMsg.fPort] else []) = frame.portBytes := by
  cases content : frame.content with
  | none =>
      have no_payload : frame.payload = [] := by
        simp only [DataFrame.payload, content]
      simp [holds.frmPayloadSize, no_payload, DataFrame.portBytes, content]
  | some pair =>
      have payload_eq := frame.payload_of_content content
      have length_pos : 0 < frame.payload.length := by
        rw [payload_eq]
        exact List.length_pos_of_ne_nil (frame.payload_ne _ _ content)
      rw [holds.frmPayloadSize, if_pos length_pos, holds.fPort _ _ content,
        frame.portBytes_of_content content]

theorem LoRaMacMessageData.Holds.computedBufSize_eq {macMsg : LoRaMacMessageData}
    {frame : DataFrame} (holds : macMsg.Holds frame) :
    macMsg.computedBufSize = frame.bytes.length := by
  have port : (if 0 < macMsg.frmPayloadSize then loramacFPortFieldSize else 0) =
      frame.portBytes.length := by
    rw [← holds.portBytes_eq]
    split <;> rfl
  have options : macMsg.fhdr.fOptsLen = frame.fOpts.length := by
    rw [frame.fOpts_length, LoRaMacFrameHeader.fOptsLen, holds.fCtrl]
  rw [computedBufSize, port, options, holds.frmPayloadSize, frame.length_bytes,
    loramacMhdrFieldSize, loramacFhdrDevAddrFieldSize, loramacFhdrFCtrlFieldSize,
    loramacFhdrFCntFieldSize, loramacMicFieldSize]
  omega

/-- A message that describes a frame is serialised to its bytes. -/
theorem loRaMacSerializerData_eq {macMsg : LoRaMacMessageData} {frame : DataFrame}
    (holds : macMsg.Holds frame) (room : frame.bytes.length ≤ macMsg.bufSize)
    (inside : macMsg.bufSize ≤ macMsg.buffer.length) :
    loRaMacSerializerData macMsg =
      some (.success, { macMsg with
        buffer := frame.bytes ++ macMsg.buffer.drop frame.bytes.length
        bufSize := frame.bytes.length }) := by
  have options : macMsg.fhdr.fOptsLen = frame.fOpts.length := by
    rw [frame.fOpts_length, LoRaMacFrameHeader.fOptsLen, holds.fCtrl]
  have bytes_eq : macMsg.mhdr :: (leBytes 4 macMsg.fhdr.devAddr.toNat ++
      (macMsg.fhdr.fCtrl :: (leBytes 2 macMsg.fhdr.fCnt.toNat ++ (frame.fOpts ++
        ((if 0 < macMsg.frmPayloadSize then [macMsg.fPort] else []) ++ (frame.payload ++
          leBytes 4 macMsg.mic.toNat)))))) = frame.bytes := by
    rw [holds.portBytes_eq, holds.mhdr, holds.devAddr, holds.fCtrl, holds.fCnt, holds.mic]
    simp [DataFrame.bytes, DataFrame.body, List.append_assoc]
  rw [loRaMacSerializerData, holds.computedBufSize_eq, if_neg (by omega), options,
    holds.fOpts, holds.frmPayloadSize, holds.payload, ← holds.frmPayloadSize]
  simp only [Option.bind_eq_bind, Option.bind_some, bytes_eq]
  rw [overwrite_zero (by omega)]
  rfl

/-! ## Parsing -/

/-- Where the fields of a frame lie in a buffer that starts with it. -/
structure DataFrame.LiesIn (frame : DataFrame) (buffer : List UInt8) : Prop where
  mhdr : buffer[0]? = some frame.mhdr
  devAddr : slice buffer 1 4 = some (leBytes 4 frame.devAddr.toNat)
  fCtrl : buffer[5]? = some frame.fCtrl
  fCnt : slice buffer 6 2 = some (leBytes 2 frame.fCnt.toNat)
  fOpts : slice buffer 8 frame.fOpts.length = some frame.fOpts
  fPort : ∀ port payload, frame.content = some (port, payload) →
    buffer[8 + frame.fOpts.length]? = some port
  payload : slice buffer (8 + frame.fOpts.length + frame.portBytes.length) frame.payload.length =
    some frame.payload
  mic : slice buffer (8 + frame.fOpts.length + frame.portBytes.length + frame.payload.length) 4 =
    some (leBytes 4 frame.mic.toNat)

theorem DataFrame.liesIn (frame : DataFrame) (stale : List UInt8) :
    frame.LiesIn (frame.bytes ++ stale) := by
  constructor
  · rfl
  · exact slice_of_eq [frame.mhdr] (List.append_assoc _ _ _) rfl (by simp)
  · exact getElem?_of_eq ([frame.mhdr] ++ leBytes 4 frame.devAddr.toNat)
      (by simp [bytes, body]; rfl) (by simp)
  · exact slice_of_eq ([frame.mhdr] ++ leBytes 4 frame.devAddr.toNat ++ [frame.fCtrl])
      (by simp [bytes, body]; rfl) (by simp) (by simp)
  · exact slice_of_eq ([frame.mhdr] ++ leBytes 4 frame.devAddr.toNat ++ [frame.fCtrl] ++
      leBytes 2 frame.fCnt.toNat) (by simp [bytes, body]; rfl) (by simp) (by simp)
  · intro port payload content
    exact getElem?_of_eq ([frame.mhdr] ++ leBytes 4 frame.devAddr.toNat ++ [frame.fCtrl] ++
      leBytes 2 frame.fCnt.toNat ++ frame.fOpts)
      (by simp [bytes, body, frame.portBytes_of_content content]; rfl) (by simp; omega)
  · exact slice_of_eq ([frame.mhdr] ++ leBytes 4 frame.devAddr.toNat ++ [frame.fCtrl] ++
      leBytes 2 frame.fCnt.toNat ++ frame.fOpts ++ frame.portBytes)
      (by simp [bytes, body]; rfl) (by simp; omega) (by simp)
  · exact slice_of_eq frame.body (List.append_assoc _ _ _) (by rw [length_body]) (by simp)

/-- A buffer that starts with the bytes of a frame is parsed to a message that
describes it. -/
theorem loRaMacParserData_eq {macMsg : LoRaMacMessageData} {frame : DataFrame}
    (stale : List UInt8) (received : macMsg.buffer = frame.bytes ++ stale)
    (size : macMsg.bufSize = frame.bytes.length)
    (fOpts_room : loramacFhdrFOptsMaxFieldSize ≤ macMsg.fhdr.fOpts.length)
    (payload_room : frame.payload.length ≤ macMsg.frmPayload.length) :
    ∃ parsed, loRaMacParserData macMsg = some (.success, parsed) ∧ parsed.Holds frame ∧
      parsed.buffer = macMsg.buffer ∧ parsed.bufSize = macMsg.bufSize ∧
      (frame.content = none → parsed.fPort = 0) := by
  have lies : frame.LiesIn macMsg.buffer := by
    rw [received]
    exact frame.liesIn stale
  have options_le : frame.fOpts.length ≤ 15 := by
    rw [frame.fOpts_length]
    exact fOptsLenOf_le frame.fCtrl
  have options_room : frame.fOpts.length ≤ macMsg.fhdr.fOpts.length :=
    options_le.trans fOpts_room
  simp only [loRaMacParserData, LoRaMacFrameHeader.fOptsLen, lies.mhdr, lies.devAddr, lies.fCtrl,
    lies.fCnt, ← frame.fOpts_length, lies.fOpts, Option.bind_eq_bind, Option.bind_some, options_le,
    ↓reduceIte, overwrite_zero options_room, ofNat_leNat_leBytes32, ofNat_leNat_leBytes16, size,
    frame.length_bytes, loramacMicFieldSize]
  have fOpts_read : slice (frame.fOpts ++ List.drop frame.fOpts.length macMsg.fhdr.fOpts) 0
      frame.fOpts.length = some frame.fOpts := slice_of_eq [] rfl rfl rfl
  have mic_read := lies.mic
  cases content : frame.content with
  | none =>
      have no_port : frame.portBytes = [] := by simp only [DataFrame.portBytes, content]
      have no_payload : frame.payload = [] := by simp only [DataFrame.payload, content]
      simp only [no_port, no_payload, List.length_nil, add_zero] at mic_read ⊢
      rw [if_neg (by omega)]
      simp only [Option.pure_def, Option.bind_some, show ¬ 12 + frame.fOpts.length < 4 by omega,
        ↓reduceIte, show 12 + frame.fOpts.length - 4 = 8 + frame.fOpts.length by omega, mic_read,
        ofNat_leNat_leBytes32]
      exact ⟨_, rfl, ⟨rfl, rfl, rfl, rfl, fOpts_read, by simp [no_payload, slice],
        by simp [no_payload], by simp [content], rfl⟩, rfl, rfl, fun _ => rfl⟩
  | some pair =>
      obtain ⟨port, payload⟩ := pair
      have port_length : frame.portBytes.length = 1 := by
        rw [frame.portBytes_of_content content]
        rfl
      have payload_pos : 0 < frame.payload.length := by
        rw [frame.payload_of_content content]
        exact List.length_pos_of_ne_nil (frame.payload_ne _ _ content)
      have payload_read := lies.payload
      simp only [port_length] at mic_read payload_read ⊢
      rw [if_pos (by omega)]
      simp only [lies.fPort _ _ content, Option.bind_some, Option.pure_def,
        show 12 + frame.fOpts.length + 1 + frame.payload.length - (8 + frame.fOpts.length + 1) - 4 =
          frame.payload.length by omega, payload_read, overwrite_zero payload_room,
        show ¬ 12 + frame.fOpts.length + 1 + frame.payload.length < 4 by omega, ↓reduceIte,
        show 12 + frame.fOpts.length + 1 + frame.payload.length - 4 =
          8 + frame.fOpts.length + 1 + frame.payload.length by omega, mic_read,
        ofNat_leNat_leBytes32]
      refine ⟨_, rfl, ⟨rfl, rfl, rfl, rfl, fOpts_read, slice_of_eq [] rfl rfl rfl, rfl, ?_, rfl⟩,
        rfl, rfl, fun other => by cases other⟩
      intro other bytes also
      rw [content] at also
      cases also
      rfl

/-! ## Round trips -/

/-- A serialised message is parsed to a message that describes the same frame,
whatever lies behind it in the buffer and whatever the parser wrote before. -/
theorem loRaMacParserData_serializerData {macMsg sent received : LoRaMacMessageData}
    {stale : List UInt8} (fOpts_inside : macMsg.fhdr.fOptsLen ≤ macMsg.fhdr.fOpts.length)
    (payload_inside : macMsg.frmPayloadSize ≤ macMsg.frmPayload.length)
    (inside : macMsg.bufSize ≤ macMsg.buffer.length)
    (serialised : loRaMacSerializerData macMsg = some (.success, sent))
    (received_eq : received.buffer = sent.buffer.take sent.bufSize ++ stale)
    (size_eq : received.bufSize = sent.bufSize)
    (fOpts_room : loramacFhdrFOptsMaxFieldSize ≤ received.fhdr.fOpts.length)
    (payload_room : macMsg.frmPayloadSize ≤ received.frmPayload.length) :
    ∃ frame parsed, loRaMacParserData received = some (.success, parsed) ∧
      macMsg.Holds frame ∧ parsed.Holds frame := by
  obtain ⟨frame, holds⟩ := macMsg.exists_holds fOpts_inside payload_inside
  have room : frame.bytes.length ≤ macMsg.bufSize := by
    by_contra short
    rw [loRaMacSerializerData, holds.computedBufSize_eq, if_pos (by omega)] at serialised
    cases serialised
  rw [loRaMacSerializerData_eq holds room inside] at serialised
  cases serialised
  simp only [List.take_left'] at received_eq
  obtain ⟨parsed, parsed_eq, parsed_holds, -⟩ := loRaMacParserData_eq stale received_eq size_eq fOpts_room
    (holds.frmPayloadSize ▸ payload_room)
  exact ⟨frame, parsed, parsed_eq, holds, parsed_holds⟩

/-- An uplink with two options and a payload, its memory areas of a few bytes. -/
def sampleMessage : LoRaMacMessageData where
  buffer := List.replicate 20 0
  bufSize := 20
  mhdr := 0x40
  fhdr := ⟨0x26011BDA, 0x82, 7, 2 :: 3 :: List.replicate 13 0⟩
  fPort := 2
  frmPayload := [1, 2, 3, 4]
  frmPayloadSize := 3
  mic := 0xCAFEBABE

/-- The buffer after `sampleMessage` is serialised. -/
def sampleSent : LoRaMacMessageData :=
  { sampleMessage with
    buffer := [0x40, 0xDA, 0x1B, 0x01, 0x26, 0x82, 7, 0, 2, 3, 2, 1, 2, 3, 0xBE, 0xBA, 0xFE, 0xCA,
      0, 0]
    bufSize := 18 }

/-- A receiver that knows nothing but the bytes. -/
def sampleReceived : LoRaMacMessageData where
  buffer := sampleSent.buffer.take 18 ++ [0xFF, 0xFF, 0xFF]
  bufSize := 18
  mhdr := 0
  fhdr := ⟨0, 0, 0, List.replicate 15 0⟩
  fPort := 0
  frmPayload := List.replicate 20 0
  frmPayloadSize := 20
  mic := 0

theorem loRaMacParserData_sample :
    ∃ frame parsed, loRaMacParserData sampleReceived = some (.success, parsed) ∧
      sampleMessage.Holds frame ∧ parsed.Holds frame :=
  loRaMacParserData_serializerData (by decide) (by decide) (by decide)
    (by decide : loRaMacSerializerData sampleMessage = some (.success, sampleSent))
    (rfl : sampleReceived.buffer = sampleSent.buffer.take 18 ++ [0xFF, 0xFF, 0xFF]) rfl
    (by decide) (by decide)

/-- A received frame that is parsed and serialised again has the same bytes, if
its options do not reach into the MIC and no port stands without a payload. -/
theorem loRaMacSerializerData_parserData {received : LoRaMacMessageData} {fCtrl : UInt8}
    {memory : List UInt8} (control : received.buffer[5]? = some fCtrl)
    (inside : received.bufSize ≤ received.buffer.length)
    (whole : loramacFramePayloadMinSize + fOptsLenOf fCtrl ≤ received.bufSize)
    (no_lone_port : received.bufSize ≠ loramacFramePayloadMinSize + fOptsLenOf fCtrl + 1)
    (fOpts_room : loramacFhdrFOptsMaxFieldSize ≤ received.fhdr.fOpts.length)
    (payload_room : received.bufSize ≤ received.frmPayload.length)
    (memory_room : received.bufSize ≤ memory.length) :
    ∃ parsed sent, loRaMacParserData received = some (.success, parsed) ∧
      loRaMacSerializerData { parsed with buffer := memory, bufSize := memory.length } =
        some (.success, sent) ∧
      sent.bufSize = received.bufSize ∧
      sent.buffer = received.buffer.take received.bufSize ++ memory.drop received.bufSize := by
  have length_eq : (received.buffer.take received.bufSize).length = received.bufSize :=
    List.length_take_of_le inside
  have fixed : loramacFramePayloadMinSize = 12 := rfl
  obtain ⟨frame, -, bytes_eq⟩ := DataFrame.exists_bytes (received.buffer.take received.bufSize)
    (by rw [List.getElem?_take_of_lt (by omega)]; exact control)
    (by rw [length_eq]; exact whole) (by rw [length_eq]; exact no_lone_port)
  have size_eq : received.bufSize = frame.bytes.length := by rw [bytes_eq, length_eq]
  have payload_le : frame.payload.length ≤ received.bufSize := by
    rw [size_eq, frame.length_bytes]
    omega
  obtain ⟨parsed, parsed_eq, holds, -⟩ := loRaMacParserData_eq
    (received.buffer.drop received.bufSize) (by rw [bytes_eq, List.take_append_drop]) size_eq fOpts_room (by omega)
  have same : ({ parsed with buffer := memory, bufSize := memory.length } :
      LoRaMacMessageData).Holds frame :=
    ⟨holds.mhdr, holds.devAddr, holds.fCtrl, holds.fCnt, holds.fOpts, holds.payload,
      holds.frmPayloadSize, holds.fPort, holds.mic⟩
  refine ⟨parsed, _, parsed_eq, loRaMacSerializerData_eq same (by simp only; omega) (by simp), ?_, ?_⟩
  · exact size_eq.symm
  · simp only [bytes_eq, length_eq]

theorem loRaMacSerializerData_sample :
    ∃ parsed sent, loRaMacParserData sampleReceived = some (.success, parsed) ∧
      loRaMacSerializerData { parsed with
        buffer := List.replicate 20 0, bufSize := (List.replicate 20 (0 : UInt8)).length } =
          some (.success, sent) ∧
      sent.bufSize = sampleReceived.bufSize ∧
      sent.buffer = sampleReceived.buffer.take sampleReceived.bufSize ++
        (List.replicate 20 (0 : UInt8)).drop sampleReceived.bufSize :=
  loRaMacSerializerData_parserData (by decide : sampleReceived.buffer[5]? = some 0x82)
    (by decide) (by decide) (by decide) (by decide) (by decide) (by decide)

end GenericNode.LoRaMac
