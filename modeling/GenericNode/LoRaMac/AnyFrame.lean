import GenericNode.LoRaMac.Receive

/-!
# Frames from anyone

The parser takes any bytes of the right size.  Parsing twice is parsing once,
and what is parsed lies inside its buffers.
-/

namespace GenericNode.LoRaMac

open GenericNode.Library
open GenericNode.SecureElement

namespace LoRaMacMessageData

/-- The areas of a message have room for any frame of its size. -/
structure ParseRoom (macMsg : LoRaMacMessageData) : Prop where
  least : loramacFramePayloadMinSize ≤ macMsg.bufSize
  small : macMsg.bufSize ≤ loramacPhyMaxpayload
  inside : macMsg.bufSize ≤ macMsg.buffer.length
  head : 23 ≤ macMsg.buffer.length
  fOpts : loramacFhdrFOptsMaxFieldSize ≤ macMsg.fhdr.fOpts.length
  payload : macMsg.bufSize ≤ macMsg.frmPayload.length

/-- The length of the options in the bytes of a message. -/
def optionsLength (macMsg : LoRaMacMessageData) : ℕ :=
  fOptsLenOf (macMsg.buffer.getD 5 0)

/-- The length of the payload in the bytes of a message. -/
def payloadLength (macMsg : LoRaMacMessageData) : ℕ :=
  macMsg.bufSize - (13 + macMsg.optionsLength)

/-- The header in the bytes of a message. -/
def parsedHeader (macMsg : LoRaMacMessageData) : LoRaMacFrameHeader where
  devAddr := UInt32.ofNat (leNat ((macMsg.buffer.drop 1).take 4))
  fCtrl := macMsg.buffer.getD 5 0
  fCnt := UInt16.ofNat (leNat ((macMsg.buffer.drop 6).take 2))
  fOpts := (macMsg.buffer.drop 8).take macMsg.optionsLength ++
    macMsg.fhdr.fOpts.drop macMsg.optionsLength

/-- What the parser makes of a message. -/
def parsed (macMsg : LoRaMacMessageData) : LoRaMacMessageData :=
  { macMsg with
    mhdr := macMsg.buffer.getD 0 0
    fhdr := macMsg.parsedHeader
    fPort := if 12 + macMsg.optionsLength < macMsg.bufSize then
      macMsg.buffer.getD (8 + macMsg.optionsLength) 0 else 0
    frmPayload := (macMsg.buffer.drop (9 + macMsg.optionsLength)).take macMsg.payloadLength ++
      macMsg.frmPayload.drop macMsg.payloadLength
    frmPayloadSize := macMsg.payloadLength
    mic := UInt32.ofNat (leNat ((macMsg.buffer.drop (macMsg.bufSize - 4)).take 4)) }

variable {macMsg : LoRaMacMessageData}

theorem optionsLength_le (macMsg : LoRaMacMessageData) : macMsg.optionsLength ≤ 15 :=
  fOptsLenOf_le _

theorem getElem?_eq_getD {bytes : List UInt8} {index : ℕ} (inside : index < bytes.length) :
    bytes[index]? = some (bytes.getD index 0) := by
  rw [List.getD_eq_getElem?_getD, List.getElem?_eq_getElem inside, Option.getD_some]

theorem loRaMacParserData_eq_parsed (room : macMsg.ParseRoom) :
    loRaMacParserData macMsg = some (.success, macMsg.parsed) := by
  have options_le := macMsg.optionsLength_le
  have head := room.head
  have least := room.least
  have inside := room.inside
  have payload := room.payload
  have fOpts := room.fOpts
  rw [show loramacFramePayloadMinSize = 12 from rfl] at least
  rw [loramacFhdrFOptsMaxFieldSize] at fOpts
  have mhdr : macMsg.buffer[0]? = some (macMsg.buffer.getD 0 0) := getElem?_eq_getD (by omega)
  have fCtrl : macMsg.buffer[5]? = some (macMsg.buffer.getD 5 0) := getElem?_eq_getD (by omega)
  have devAddr : slice macMsg.buffer 1 4 = some ((macMsg.buffer.drop 1).take 4) :=
    slice_eq_some (by omega)
  have fCnt : slice macMsg.buffer 6 2 = some ((macMsg.buffer.drop 6).take 2) :=
    slice_eq_some (by omega)
  have options_eq : fOptsLenOf (macMsg.buffer.getD 5 0) = macMsg.optionsLength := rfl
  have options : slice macMsg.buffer 8 macMsg.optionsLength =
      some ((macMsg.buffer.drop 8).take macMsg.optionsLength) := slice_eq_some (by omega)
  have options_length : ((macMsg.buffer.drop 8).take macMsg.optionsLength).length =
      macMsg.optionsLength := length_of_slice options
  have options_write : overwrite macMsg.fhdr.fOpts 0
      ((macMsg.buffer.drop 8).take macMsg.optionsLength) =
        some ((macMsg.buffer.drop 8).take macMsg.optionsLength ++
          macMsg.fhdr.fOpts.drop macMsg.optionsLength) := by
    rw [overwrite_zero (by omega), options_length]
  have mic : slice macMsg.buffer (macMsg.bufSize - 4) 4 =
      some ((macMsg.buffer.drop (macMsg.bufSize - 4)).take 4) := slice_eq_some (by omega)
  have long : ¬ macMsg.bufSize < 4 := by omega
  simp only [loRaMacParserData, mhdr, devAddr, fCtrl, fCnt, LoRaMacFrameHeader.fOptsLen, options_eq,
    options, options_write, options_le, ↓reduceIte, Option.bind_eq_bind, Option.bind_some,
    loramacMicFieldSize]
  by_cases port : 8 + macMsg.optionsLength + 4 < macMsg.bufSize
  · have fPort : macMsg.buffer[8 + macMsg.optionsLength]? =
        some (macMsg.buffer.getD (8 + macMsg.optionsLength) 0) := getElem?_eq_getD (by omega)
    have size_eq : macMsg.bufSize - (8 + macMsg.optionsLength + 1) - 4 =
        macMsg.payloadLength := by
      rw [payloadLength]
      omega
    have size_le : macMsg.payloadLength + (9 + macMsg.optionsLength) ≤ macMsg.bufSize := by
      rw [payloadLength]
      omega
    have bytes : slice macMsg.buffer (8 + macMsg.optionsLength + 1) macMsg.payloadLength =
        some ((macMsg.buffer.drop (9 + macMsg.optionsLength)).take macMsg.payloadLength) := by
      rw [show 8 + macMsg.optionsLength + 1 = 9 + macMsg.optionsLength by omega]
      exact slice_eq_some (by omega)
    have write : overwrite macMsg.frmPayload 0
        ((macMsg.buffer.drop (9 + macMsg.optionsLength)).take macMsg.payloadLength) =
          some ((macMsg.buffer.drop (9 + macMsg.optionsLength)).take macMsg.payloadLength ++
            macMsg.frmPayload.drop macMsg.payloadLength) := by
      rw [overwrite_zero (by rw [length_of_slice bytes]; omega), length_of_slice bytes]
    have port' : 12 + macMsg.optionsLength < macMsg.bufSize := by omega
    simp only [port, long, ↓reduceIte, fPort, size_eq, bytes, write, mic, Option.bind_some,
      Option.pure_def]
    simp only [parsed, port', ↓reduceIte]
    rfl
  · have port' : ¬ 12 + macMsg.optionsLength < macMsg.bufSize := by omega
    have size_eq : macMsg.payloadLength = 0 := by
      rw [payloadLength]
      omega
    simp only [port, long, ↓reduceIte, mic, Option.bind_some, Option.pure_def]
    simp only [parsed, port', ↓reduceIte, size_eq, List.take_zero, List.drop_zero, List.nil_append]
    rfl

theorem length_parsed_fOpts (room : macMsg.ParseRoom) :
    macMsg.parsed.fhdr.fOpts.length = macMsg.fhdr.fOpts.length := by
  have options_le := macMsg.optionsLength_le
  have head := room.head
  have fOpts := room.fOpts
  rw [loramacFhdrFOptsMaxFieldSize] at fOpts
  simp only [parsed, parsedHeader, List.length_append, List.length_take, List.length_drop]
  omega

theorem length_parsed_frmPayload (room : macMsg.ParseRoom) :
    macMsg.parsed.frmPayload.length = macMsg.frmPayload.length := by
  have inside := room.inside
  have payload := room.payload
  simp only [parsed, List.length_append, List.length_take, List.length_drop, payloadLength]
  omega

theorem ParseRoom.parsed (room : macMsg.ParseRoom) : macMsg.parsed.ParseRoom where
  least := room.least
  small := room.small
  inside := room.inside
  head := room.head
  fOpts := by
    rw [length_parsed_fOpts room]
    exact room.fOpts
  payload := by
    rw [length_parsed_frmPayload room]
    exact room.payload

/-- Bytes put in front of an area a second time change nothing. -/
theorem append_drop_append {bytes area : List UInt8} {count : ℕ} (length_eq : bytes.length = count) :
    bytes ++ (bytes ++ area.drop count).drop count = bytes ++ area.drop count := by
  rw [List.drop_left' length_eq]

theorem parsed_parsed (room : macMsg.ParseRoom) : macMsg.parsed.parsed = macMsg.parsed := by
  have options_le := macMsg.optionsLength_le
  have head := room.head
  have inside := room.inside
  have options_length : ((macMsg.buffer.drop 8).take macMsg.optionsLength).length =
      macMsg.optionsLength := by
    rw [List.length_take, List.length_drop]
    omega
  have payload_length : ((macMsg.buffer.drop (9 + macMsg.optionsLength)).take
      macMsg.payloadLength).length = macMsg.payloadLength := by
    rw [List.length_take, List.length_drop, payloadLength]
    omega
  have options_eq : macMsg.parsed.optionsLength = macMsg.optionsLength := rfl
  have payload_eq : macMsg.parsed.payloadLength = macMsg.payloadLength := rfl
  conv_lhs => rw [parsed, parsedHeader]
  simp only [options_eq, payload_eq]
  simp only [parsed, parsedHeader, append_drop_append options_length,
    append_drop_append payload_length]
  rfl

/-- What is parsed lies inside its buffers. -/
theorem ParseRoom.parsed_inside (room : macMsg.ParseRoom) : macMsg.parsed.Inside where
  least := le_trans (by decide) room.least
  small := room.small
  buffer := room.inside
  payload := by
    have payload := room.payload
    rw [length_parsed_frmPayload room]
    simp only [LoRaMacMessageData.parsed, payloadLength]
    omega
  payload_small := by
    have small := room.small
    simp only [LoRaMacMessageData.parsed, payloadLength]
    omega

/-- The bytes of a frame are parsed to a message that describes it. -/
theorem ParseRoom.parsed_holds (room : macMsg.ParseRoom) {frame : DataFrame}
    (bytes : macMsg.buffer.take macMsg.bufSize = frame.bytes) :
    macMsg.parsed.Holds frame ∧ (frame.content = none → macMsg.parsed.fPort = 0) := by
  have size : macMsg.bufSize = frame.bytes.length := by
    rw [← bytes, List.length_take_of_le room.inside]
  have received : macMsg.buffer = frame.bytes ++ macMsg.buffer.drop macMsg.bufSize := by
    rw [← bytes, List.take_append_drop]
  have payload_room : frame.payload.length ≤ macMsg.frmPayload.length := by
    have length_eq := frame.length_bytes
    have payload := room.payload
    omega
  obtain ⟨other, other_eq, holds, -, -, no_port⟩ :=
    loRaMacParserData_eq _ received size room.fOpts payload_room
  rw [loRaMacParserData_eq_parsed room] at other_eq
  cases other_eq
  exact ⟨holds, no_port⟩

end LoRaMacMessageData

/-- The message that a reception starts with has room. -/
theorem receivedMessage_room {payload rxPayload : List UInt8} {size : ℕ}
    (least : loramacFramePayloadMinSize ≤ size) (small : size ≤ loramacPhyMaxpayload)
    (inside : loramacPhyMaxpayload ≤ payload.length)
    (room : rxPayload.length = loramacPhyMaxpayload) :
    (receivedMessage payload size rxPayload).ParseRoom where
  least := least
  small := small
  inside := small.trans inside
  head := le_trans (by decide) inside
  fOpts := by simp [receivedMessage]
  payload := by
    rw [receivedMessage, room]
    exact small

end GenericNode.LoRaMac
