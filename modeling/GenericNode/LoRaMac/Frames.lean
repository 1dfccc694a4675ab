import GenericNode.Library.Wire
import GenericNode.SecureElement.Calls

/-!
# Data messages and their frames

`LoRaMacMessageData_t` with `LoRaMacSerializer.c` and `LoRaMacParser.c`.  A
`DataFrame` is what a frame carries: its options are as long as its control
field says, and a port comes with a payload that is not empty.
-/

namespace GenericNode.LoRaMac

open GenericNode.Library
open GenericNode.SecureElement

/-! ## Messages -/

/-- `LORAMAC_FHDR_DEV_ADDR_FIELD_SIZE`. -/
def loramacFhdrDevAddrFieldSize : ℕ :=
  4

/-- `LORAMAC_FHDR_F_CTRL_FIELD_SIZE`. -/
def loramacFhdrFCtrlFieldSize : ℕ :=
  1

/-- `LORAMAC_FHDR_F_CNT_FIELD_SIZE`. -/
def loramacFhdrFCntFieldSize : ℕ :=
  2

/-- `LORAMAC_FHDR_F_OPTS_MAX_FIELD_SIZE`. -/
def loramacFhdrFOptsMaxFieldSize : ℕ :=
  15

/-- `LORAMAC_F_PORT_FIELD_SIZE`. -/
def loramacFPortFieldSize : ℕ :=
  1

/-- `LORAMAC_FRAME_PAYLOAD_MIN_SIZE`. -/
def loramacFramePayloadMinSize : ℕ :=
  loramacMhdrFieldSize +
    (loramacFhdrDevAddrFieldSize + loramacFhdrFCtrlFieldSize + loramacFhdrFCntFieldSize) +
    loramacMicFieldSize

/-- `LORAMAC_FRAME_PAYLOAD_OVERHEAD_SIZE`. -/
def loramacFramePayloadOverheadSize : ℕ :=
  loramacFramePayloadMinSize + loramacFPortFieldSize

/-- `LORAMAC_PHY_MAXPAYLOAD`. -/
def loramacPhyMaxpayload : ℕ :=
  255

/-- `FCtrl.Bits.FOptsLen`. -/
def fOptsLenOf (fCtrl : UInt8) : ℕ :=
  fCtrl.toNat % 16

theorem fOptsLenOf_le (fCtrl : UInt8) : fOptsLenOf fCtrl ≤ 15 := by
  rw [fOptsLenOf]
  omega

/-- `LoRaMacFrameHeader_t`. -/
structure LoRaMacFrameHeader where
  devAddr : UInt32
  fCtrl : UInt8
  fCnt : UInt16
  fOpts : List UInt8
deriving DecidableEq, Repr

/-- `FOptsLen` of a header. -/
def LoRaMacFrameHeader.fOptsLen (fhdr : LoRaMacFrameHeader) : ℕ :=
  fOptsLenOf fhdr.fCtrl

/-- `LoRaMacMessageData_t`.  `buffer` and `frmPayload` are the memory areas
that the pointers show. -/
structure LoRaMacMessageData where
  buffer : List UInt8
  bufSize : ℕ
  mhdr : UInt8
  fhdr : LoRaMacFrameHeader
  fPort : UInt8
  frmPayload : List UInt8
  frmPayloadSize : ℕ
  mic : UInt32
deriving DecidableEq, Repr

/-- `LoRaMacSerializerStatus_t`. -/
inductive LoRaMacSerializerStatus where
  | success
  | errorBufSize
deriving DecidableEq, Repr

/-- `LoRaMacParserStatus_t`. -/
inductive LoRaMacParserStatus where
  | success
  | fail
deriving DecidableEq, Repr

/-- `computedBufSize` of `LoRaMacSerializerData`. -/
def LoRaMacMessageData.computedBufSize (macMsg : LoRaMacMessageData) : ℕ :=
  loramacMhdrFieldSize + loramacFhdrDevAddrFieldSize + loramacFhdrFCtrlFieldSize +
    loramacFhdrFCntFieldSize + macMsg.fhdr.fOptsLen +
    (if 0 < macMsg.frmPayloadSize then loramacFPortFieldSize else 0) +
    macMsg.frmPayloadSize + loramacMicFieldSize

/-- `LoRaMacSerializerData`.  An access outside a memory area is undefined. -/
def loRaMacSerializerData (macMsg : LoRaMacMessageData) :
    Option (LoRaMacSerializerStatus × LoRaMacMessageData) :=
  if macMsg.bufSize < macMsg.computedBufSize then
    some (.errorBufSize, macMsg)
  else do
    let fOpts ← slice macMsg.fhdr.fOpts 0 macMsg.fhdr.fOptsLen
    let frmPayload ← slice macMsg.frmPayload 0 macMsg.frmPayloadSize
    let bytes := macMsg.mhdr :: (leBytes 4 macMsg.fhdr.devAddr.toNat ++
      (macMsg.fhdr.fCtrl :: (leBytes 2 macMsg.fhdr.fCnt.toNat ++ (fOpts ++
        ((if 0 < macMsg.frmPayloadSize then [macMsg.fPort] else []) ++ (frmPayload ++
          leBytes 4 macMsg.mic.toNat))))))
    let buffer ← overwrite macMsg.buffer 0 bytes
    pure (.success, { macMsg with buffer := buffer, bufSize := bytes.length })

/-- `LoRaMacParserData`. -/
def loRaMacParserData (macMsg : LoRaMacMessageData) :
    Option (LoRaMacParserStatus × LoRaMacMessageData) := do
  let mhdr ← macMsg.buffer[0]?
  let devAddr ← slice macMsg.buffer 1 4
  let fCtrl ← macMsg.buffer[5]?
  let fCnt ← slice macMsg.buffer 6 2
  let fhdr : LoRaMacFrameHeader :=
    { devAddr := UInt32.ofNat (leNat devAddr), fCtrl := fCtrl,
      fCnt := UInt16.ofNat (leNat fCnt), fOpts := macMsg.fhdr.fOpts }
  let macMsg := { macMsg with mhdr := mhdr, fhdr := fhdr }
  if fhdr.fOptsLen ≤ 15 then
    let fOpts ← slice macMsg.buffer 8 fhdr.fOptsLen
    let fOpts ← overwrite fhdr.fOpts 0 fOpts
    let macMsg := { macMsg with fhdr := { fhdr with fOpts := fOpts } }
    let bufItr := 8 + fhdr.fOptsLen
    let macMsg ←
      if bufItr + loramacMicFieldSize < macMsg.bufSize then do
        let fPort ← macMsg.buffer[bufItr]?
        let frmPayloadSize := macMsg.bufSize - (bufItr + 1) - loramacMicFieldSize
        let bytes ← slice macMsg.buffer (bufItr + 1) frmPayloadSize
        let frmPayload ← overwrite macMsg.frmPayload 0 bytes
        pure { macMsg with
          fPort := fPort
          frmPayload := frmPayload
          frmPayloadSize := frmPayloadSize }
      else
        pure { macMsg with fPort := 0, frmPayloadSize := 0 }
    if macMsg.bufSize < loramacMicFieldSize then
      none
    else do
      let mic ← slice macMsg.buffer (macMsg.bufSize - loramacMicFieldSize) 4
      pure (.success, { macMsg with mic := UInt32.ofNat (leNat mic) })
  else
    pure (.fail, macMsg)

/-! ## Frames -/

/-- What a frame carries. -/
structure DataFrame where
  mhdr : UInt8
  devAddr : UInt32
  fCtrl : UInt8
  fCnt : UInt16
  fOpts : List UInt8
  content : Option (UInt8 × List UInt8)
  mic : UInt32
  fOpts_length : fOpts.length = fOptsLenOf fCtrl
  payload_ne : ∀ port payload, content = some (port, payload) → payload ≠ []

namespace DataFrame

variable (frame : DataFrame)

/-- The payload of a frame, empty when there is no port. -/
def payload : List UInt8 :=
  match frame.content with
  | some (_, payload) => payload
  | none => []

/-- The bytes of the port, if there is one. -/
def portBytes : List UInt8 :=
  match frame.content with
  | some (port, _) => [port]
  | none => []

/-- The bytes before the MIC. -/
def body : List UInt8 :=
  [frame.mhdr] ++ (leBytes 4 frame.devAddr.toNat ++ ([frame.fCtrl] ++
    (leBytes 2 frame.fCnt.toNat ++ (frame.fOpts ++ (frame.portBytes ++ frame.payload)))))

/-- The bytes of a frame. -/
def bytes : List UInt8 :=
  frame.body ++ leBytes 4 frame.mic.toNat

theorem length_body :
    frame.body.length =
      8 + frame.fOpts.length + frame.portBytes.length + frame.payload.length := by
  simp only [body, List.length_append, List.length_cons, List.length_nil, length_leBytes]
  omega

theorem length_bytes :
    frame.bytes.length =
      12 + frame.fOpts.length + frame.portBytes.length + frame.payload.length := by
  rw [bytes, List.length_append, length_body, length_leBytes]
  omega

theorem portBytes_of_content {port : UInt8} {payload : List UInt8}
    (content : frame.content = some (port, payload)) : frame.portBytes = [port] := by
  simp only [portBytes, content]

theorem payload_of_content {port : UInt8} {payload : List UInt8}
    (content : frame.content = some (port, payload)) : frame.payload = payload := by
  simp only [DataFrame.payload, content]

end DataFrame

/-- A message describes a frame. -/
structure LoRaMacMessageData.Holds (macMsg : LoRaMacMessageData) (frame : DataFrame) : Prop where
  mhdr : macMsg.mhdr = frame.mhdr
  devAddr : macMsg.fhdr.devAddr = frame.devAddr
  fCtrl : macMsg.fhdr.fCtrl = frame.fCtrl
  fCnt : macMsg.fhdr.fCnt = frame.fCnt
  fOpts : slice macMsg.fhdr.fOpts 0 frame.fOpts.length = some frame.fOpts
  payload : slice macMsg.frmPayload 0 frame.payload.length = some frame.payload
  frmPayloadSize : macMsg.frmPayloadSize = frame.payload.length
  fPort : ∀ port payload, frame.content = some (port, payload) → macMsg.fPort = port
  mic : macMsg.mic = frame.mic

end GenericNode.LoRaMac
