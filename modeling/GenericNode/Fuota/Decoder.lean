import GenericNode.Fuota.Storage

/-!
# The fragmentation decoder

`FragDecoder.c`.  A bit array is the list of its bits, the highest bit of its
first byte first; an access outside an array is undefined.
-/

namespace GenericNode.Fuota

open GenericNode.Library
open GenericNode.Library.Prog

/-- `FragDecoderStatus_t`. -/
structure FragDecoderStatus where
  fragNbRx : ℕ
  fragNbLost : ℕ
  fragNbLastRx : ℕ
  matrixError : Bool
deriving DecidableEq, Repr

/-- `FragDecoder_t`, its callbacks aside. -/
structure FragDecoder where
  fragNb : ℕ
  fragSize : ℕ
  m2bLine : ℕ
  matrixM2B : List Bool
  fragNbMissingIndex : List ℕ
  s : List Bool
  status : FragDecoderStatus
deriving DecidableEq, Repr

/-- `FRAG_SESSION_FINISHED`. -/
def fragSessionFinished : ℤ := 0

/-- `FRAG_SESSION_ONGOING`. -/
def fragSessionOngoing : ℤ := -1

/-- `FRAG_SESSION_NOT_STARTED`. -/
def fragSessionNotStarted : ℤ := -2

/-- The bits of `dataTempVector` and of `S`. -/
def redundancyBits : ℕ :=
  8 * (fragMaxRedundancy >>> 3 + 1)

/-- The bits of `matrixRow`. -/
def rowBits : ℕ :=
  8 * (fragMaxNb >>> 3 + 1)

/-! ## Bit arrays -/

/-- `GetParity`: a bit of a row. -/
def getParity (index : ℕ) (matrixRow : List Bool) : Option Bool :=
  matrixRow[index]?

/-- `SetParity`: a row with another bit. -/
def setParity (index : ℕ) (matrixRow : List Bool) (parity : Bool) : Option (List Bool) :=
  if index < matrixRow.length then some (matrixRow.set index parity) else none

/-- `XorParityLine` of the first bits. -/
def xorParityLine (line1 line2 : List Bool) : ℕ → Option (List Bool)
  | 0 => some line1
  | size + 1 => do
      let line1 ← xorParityLine line1 line2 size
      let bit1 ← getParity size line1
      let bit2 ← getParity size line2
      setParity size line1 (bit1 ^^ bit2)

/-- The first of some indices that passes a test. -/
def firstIndex (test : ℕ → Option Bool) : ℕ → ℕ → Option (Option ℕ)
  | 0, _ => some none
  | size + 1, index => do
      let found ← test index
      if found then return some index else firstIndex test size (index + 1)

/-- `BitArrayFindFirstOne`, which is 0 when there is none. -/
def bitArrayFindFirstOne (bitArray : List Bool) (size : ℕ) : Option ℕ := do
  let first ← firstIndex (fun index => getParity index bitArray) size 0
  return first.getD 0

/-- `BitArrayIsAllZeros`. -/
def bitArrayIsAllZeros (bitArray : List Bool) (size : ℕ) : Option Bool := do
  let first ← firstIndex (fun index => getParity index bitArray) size 0
  return first.isNone

/-! ## The parity matrix -/

/-- `IsPowerOfTwo`, of 32 bits. -/
def isPowerOfTwo (x : ℕ) : Bool :=
  (List.range 32).countP x.testBit == 1

/-- `FragPrbs23`: the next state of the generator. -/
def fragPrbs23 (value : ℕ) : ℕ :=
  value >>> 1 + ((value &&& 0x01) ^^^ ((value &&& 0x20) >>> 5)) <<< 22

/-- The next pseudo random numbers, until one is below `m`: it, and the state of
the generator. -/
def prbsBelow (m mTemp : ℕ) : ℕ → ℕ → Option (ℕ × ℕ)
  | 0, _ => none
  | turns + 1, x =>
      let x := fragPrbs23 x
      let r := x % (m + mTemp)
      if r < m then some (r, x) else prbsBelow m mTemp turns x

/-- The turns that a random number may take. -/
def prbsTurns : ℕ := 32

/-- The coefficients of a row of the parity matrix. -/
def parityCoeffs (m mTemp : ℕ) : ℕ → ℕ → List Bool → Option (List Bool)
  | 0, _, matrixRow => some matrixRow
  | nbCoeff + 1, x, matrixRow => do
      let (r, x) ← prbsBelow m mTemp prbsTurns x
      let matrixRow ← setParity r matrixRow true
      parityCoeffs m mTemp nbCoeff x matrixRow

/-- `FragGetParityMatrixRow` into a row of zeros. -/
def fragGetParityMatrixRow (n m : ℕ) : Option (List Bool) :=
  if 8 * (m >>> 3 + 1) ≤ rowBits then
    parityCoeffs m (if isPowerOfTwo m then 1 else 0) (m >>> 1) (1 + 1001 * n)
      (List.replicate rowBits false)
  else none

/-! ## The triangular matrix -/

/-- Where a row of the triangular matrix begins. -/
def rowStart (rowIndex bitsInRow : ℕ) : ℕ :=
  rowIndex * bitsInRow - (rowIndex * (rowIndex - 1)) >>> 1

/-- `FragExtractLineFromBinaryMatrix` into a line of zeros: its first bits. -/
def extractBits (matrix : List Bool) (rowIndex start : ℕ) : ℕ → Option (List Bool)
  | 0 => some (List.replicate redundancyBits false)
  | i + 1 => do
      let bitArray ← extractBits matrix rowIndex start i
      let bit ← if i < rowIndex then some false else getParity (start + (i - rowIndex)) matrix
      setParity i bitArray bit

/-- `FragExtractLineFromBinaryMatrix`. -/
def fragExtractLineFromBinaryMatrix (matrix : List Bool) (rowIndex bitsInRow : ℕ) :
    Option (List Bool) :=
  extractBits matrix rowIndex (rowStart rowIndex bitsInRow) (max rowIndex bitsInRow)

/-- `FragPushLineToBinaryMatrix` of the first bits from the diagonal on. -/
def pushBits (bitArray matrix : List Bool) (rowIndex start : ℕ) : ℕ → Option (List Bool)
  | 0 => some matrix
  | i + 1 => do
      let matrix ← pushBits bitArray matrix rowIndex start i
      let bit ← getParity (rowIndex + i) bitArray
      if bit then some matrix else setParity (start + i) matrix false

/-- `FragPushLineToBinaryMatrix`. -/
def fragPushLineToBinaryMatrix (bitArray matrix : List Bool) (rowIndex bitsInRow : ℕ) :
    Option (List Bool) :=
  pushBits bitArray matrix rowIndex (rowStart rowIndex bitsInRow) (bitsInRow - rowIndex)

namespace FragDecoder

/-! ## Missing fragments -/

/-- The x-th missing fragment. -/
def fragFindMissingIndex (decoder : FragDecoder) (x : ℕ) : Option ℕ := do
  let first ← firstIndex (fun i => decoder.fragNbMissingIndex[i]?.map (· == x + 1)) decoder.fragNb 0
  return first.getD 0

/-- A store to `FragNbMissingIndex`. -/
def setMissingIndex (decoder : FragDecoder) (i value : ℕ) : Option FragDecoder :=
  if i < decoder.fragNbMissingIndex.length then
    some { decoder with fragNbMissingIndex := decoder.fragNbMissingIndex.set i value }
  else none

/-- One turn of the search for missing fragments. -/
def markMissing (decoder : FragDecoder) (i : ℕ) : Option FragDecoder :=
  if i < decoder.fragNb then
    let lost := decoder.status.fragNbLost + 1
    { decoder with status := { decoder.status with fragNbLost := lost } }.setMissingIndex i lost
  else some decoder

/-- The turns of the search for missing fragments. -/
def markAll (decoder : FragDecoder) : ℕ → ℕ → Option FragDecoder
  | 0, _ => some decoder
  | count + 1, i => do
      let decoder ← decoder.markMissing i
      decoder.markAll count (i + 1)

/-- `FragFindMissingFrags`. -/
def fragFindMissingFrags (decoder : FragDecoder) (counter : ℕ) : Option FragDecoder := do
  let low := decoder.status.fragNbLastRx
  let marked ← decoder.markAll (counter - 1 - low) low
  let lastRx := if max low (counter - 1) < marked.fragNb then counter else marked.fragNb + 1
  return { marked with status := { marked.status with fragNbLastRx := lastRx } }

end FragDecoder

/-! ## Decoding -/

/-- The decoder and the storage of the application. -/
structure Decoding where
  decoder : FragDecoder
  storage : Storage

/-- Run a callback on the storage. -/
def onStorage {α : Type} (call : Prog Storage α) : Prog Decoding α :=
  zoom Decoding.storage (fun storage state => { state with storage := storage }) call

/-- Load the decoder. -/
def getDecoder : Prog Decoding FragDecoder :=
  gets Decoding.decoder

/-- Store the decoder. -/
def setDecoder (decoder : FragDecoder) : Prog Decoding Unit :=
  modify fun state => { state with decoder := decoder }

/-- A change of the decoder that may be undefined. -/
def changeDecoder (change : FragDecoder → Option FragDecoder) : Prog Decoding Unit := do
  let decoder ← getDecoder
  let decoder ← lift (change decoder)
  setDecoder decoder

/-- `SetRow`, through the write callback. -/
def setRow (src : Row) (row size : ℕ) : Prog Decoding Unit := do
  let _ ← onStorage (callback (.write (row * size) src size))

/-- `GetRow`, through the read callback. -/
def getRow (dst : Row) (row size : ℕ) : Prog Decoding Row :=
  onStorage (callback (.read (row * size) dst size))

/-- `GetRow` into `matrixDataTemp`. -/
def getTempRow (row size : ℕ) : Prog Decoding Row :=
  if size ≤ fragMaxSize then getRow (fun _ => 0) row size else undefined

/-- `XorDataLine`. -/
def xorDataLine (line1 line2 : Row) (size : ℕ) : Row :=
  fun i => if i < size then line1 i ^^^ line2 i else line1 i

/-- An encoded fragment and what it says about the missing ones: `rawData`,
`dataTempVector` and `first`. -/
structure ParityLine where
  rawData : Row
  vector : List Bool
  first : Bool

/-- One bit of the parity row: a fragment that was received is taken out. -/
def fragReduceBit (matrixRow : List Bool) (i : ℕ) (line : ParityLine) :
    Prog Decoding ParityLine := do
  let bit ← lift (getParity i matrixRow)
  if bit then
    let decoder ← getDecoder
    let missing ← lift decoder.fragNbMissingIndex[i]?
    if missing = 0 then
      let temp ← getTempRow i decoder.fragSize
      return { line with rawData := xorDataLine line.rawData temp decoder.fragSize }
    else
      let vector ← lift (setParity (missing - 1) line.vector true)
      return { line with vector := vector, first := true }
  else
    return line

/-- A line that is diagonalized, its first bit, and whether it says nothing new. -/
structure Elimination where
  rawData : Row
  vector : List Bool
  firstOneInRow : ℕ
  noInfo : Bool

/-- One turn of the loop that takes out the rows of the matrix. -/
def fragEliminateBody (line : Elimination) : Prog Decoding (Elimination ⊕ Elimination) := do
  let decoder ← getDecoder
  let diagonal ← lift (getParity line.firstOneInRow decoder.s)
  if diagonal then
    let row ← lift (fragExtractLineFromBinaryMatrix decoder.matrixM2B line.firstOneInRow
      decoder.status.fragNbLost)
    let vector ← lift (xorParityLine line.vector row decoder.status.fragNbLost)
    let li ← lift (decoder.fragFindMissingIndex line.firstOneInRow)
    let temp ← getTempRow li decoder.fragSize
    let rawData := xorDataLine line.rawData temp decoder.fragSize
    let zeros ← lift (bitArrayIsAllZeros vector decoder.status.fragNbLost)
    if zeros then
      return .inr { line with rawData := rawData, vector := vector, noInfo := true }
    else
      let firstOneInRow ← lift (bitArrayFindFirstOne vector decoder.status.fragNbLost)
      return .inl { line with rawData := rawData, vector := vector, firstOneInRow := firstOneInRow }
  else
    return .inr line

/-- A line that says something new is pushed to the matrix. -/
def fragPushLine (line : Elimination) : Prog Decoding Unit := do
  let decoder ← getDecoder
  let matrix ← lift (fragPushLineToBinaryMatrix line.vector decoder.matrixM2B line.firstOneInRow
    decoder.status.fragNbLost)
  setDecoder { decoder with matrixM2B := matrix }
  let li ← lift (decoder.fragFindMissingIndex line.firstOneInRow)
  setRow line.rawData li decoder.fragSize
  let s ← lift (setParity line.firstOneInRow decoder.s true)
  setDecoder { decoder with matrixM2B := matrix, s := s, m2bLine := decoder.m2bLine + 1 }

/-- One turn of the inner loop of the last step. -/
def fragSolveBit (i j : ℕ) (temp : Row) : Prog Decoding Row := do
  let decoder ← getDecoder
  let lost := decoder.status.fragNbLost
  let row ← lift (fragExtractLineFromBinaryMatrix decoder.matrixM2B i lost)
  let other ← lift (fragExtractLineFromBinaryMatrix decoder.matrixM2B j lost)
  let bit ← lift (getParity j row)
  if bit then
    let _ ← lift (xorParityLine row other lost)
    let lj ← lift (decoder.fragFindMissingIndex j)
    let rawData ← getRow (fun _ => 0) lj decoder.fragSize
    return xorDataLine temp rawData decoder.fragSize
  else
    return temp

/-- One turn of the outer loop of the last step. -/
def fragSolveRow (i : ℕ) : Prog Decoding Unit := do
  let decoder ← getDecoder
  let li ← lift (decoder.fragFindMissingIndex i)
  let temp ← getTempRow li decoder.fragSize
  let temp ← forRangeDown (i + 1) decoder.status.fragNbLost temp (fragSolveBit i)
  setRow temp li decoder.fragSize

/-- The last step, when the matrix is complete. -/
def fragSolve : Prog Decoding ℤ := do
  let decoder ← getDecoder
  if decoder.m2bLine = decoder.status.fragNbLost then
    forRangeDown 0 (decoder.status.fragNbLost - 1) () fun i _ => fragSolveRow i
    return decoder.status.fragNbLost
  else
    return fragSessionOngoing

/-- An encoded fragment, while fragments are missing. -/
def fragDecodeParity (fragCounter : ℕ) (rawData : Row) : Prog Decoding ℤ := do
  let decoder ← getDecoder
  let matrixRow ← lift (fragGetParityMatrixRow (fragCounter - decoder.fragNb) decoder.fragNb)
  let line ← forRange 0 decoder.fragNb ⟨rawData, List.replicate redundancyBits false, false⟩
    (fragReduceBit matrixRow)
  let firstOneInRow ← lift (bitArrayFindFirstOne line.vector decoder.status.fragNbLost)
  if line.first then
    let line ← loop fragEliminateBody (decoder.status.fragNbLost + 1)
      ⟨line.rawData, line.vector, firstOneInRow, false⟩
    if line.noInfo = false then
      fragPushLine line
    fragSolve
  else
    return fragSessionOngoing

/-- A fragment that is not encoded. -/
def fragStore (fragCounter : ℕ) (rawData : Row) : Prog Decoding Unit := do
  let decoder ← getDecoder
  setRow rawData ((fragCounter + 2 ^ 16 - 1) % 2 ^ 16) decoder.fragSize
  changeDecoder fun decoder =>
    if fragCounter = 0 then none else decoder.setMissingIndex (fragCounter - 1) 0
  changeDecoder fun decoder => decoder.fragFindMissingFrags fragCounter

/-- `FragDecoderProcess`. -/
def fragDecoderProcess (fragCounter : ℕ) (rawData : Row) : Prog Decoding ℤ := do
  let decoder ← getDecoder
  setDecoder { decoder with status := { decoder.status with fragNbRx := fragCounter } }
  if fragCounter < decoder.status.fragNbLastRx then
    return fragSessionOngoing
  else if fragCounter < decoder.fragNb + 1 then
    fragStore fragCounter rawData
    return fragSessionOngoing
  else if decoder.status.fragNbLost > fragMaxRedundancy then
    changeDecoder fun decoder =>
      some { decoder with status := { decoder.status with matrixError := true } }
    return fragSessionFinished
  else
    changeDecoder fun decoder => decoder.fragFindMissingFrags fragCounter
    let decoder ← getDecoder
    if decoder.status.fragNbLost = 0 then
      return decoder.status.fragNbLost
    else
      fragDecodeParity fragCounter rawData

/-- `FragDecoderInit`. -/
def fragDecoderInit (fragNb fragSize : ℕ) : Prog Decoding Unit := do
  let decoder ← getDecoder
  setDecoder
    { fragNb := fragNb
      fragSize := fragSize
      m2bLine := 0
      matrixM2B := List.replicate (redundancyBits * fragMaxRedundancy) true
      fragNbMissingIndex := List.replicate fragMaxNb 1
      s := List.replicate redundancyBits false
      status := { decoder.status with fragNbLost := 0, fragNbLastRx := 0 } }
  let _ ← onStorage (callback (.erase 0 (fragNb * fragSize)))

/-- `FragDecoderGetMaxFileSize`. -/
def fragDecoderGetMaxFileSize : ℕ :=
  fragMaxNb * fragMaxSize

end GenericNode.Fuota
