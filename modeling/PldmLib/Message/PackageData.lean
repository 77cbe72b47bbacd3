/-
# Package data and metadata

Answers that carry one portion of a larger piece of data. Two of them borrow the
portion from the buffer and share their layout; the package data response keeps it in
an array of its own, together with its length, and is rebuilt by its constructor when
it is decoded.
-/

import PldmLib.Protocol.Codec
import PldmLib.Message.Update

namespace PldmLib.Message

open PldmLib.Machine PldmLib.Protocol

/-! ## Answers that borrow their portion -/

/-- A completion code, a transfer handle, a transfer flag and a portion of data. -/
structure PortionResponse where
  hdr : PldmMsgHeader
  completionCode : UInt8
  nextDataTransferHandle : UInt32
  transferFlag : UInt8
  portion : List UInt8
  deriving DecidableEq, Repr

namespace PortionResponse

variable {response : PortionResponse}

def minSize : ℕ := 9

def fixedBytes (response : PortionResponse) : List UInt8 :=
  response.hdr.toBytes ++ [response.completionCode] ++
    u32Bytes response.nextDataTransferHandle ++ [response.transferFlag]

def toBytes (response : PortionResponse) : List UInt8 := response.fixedBytes ++ response.portion

def encode (response : PortionResponse) : Encoder := do
  let buffer ← Call.get
  if buffer.length < minSize + response.portion.length then
    Call.fail .bufferTooShort
  else do
    writeAt 0 response.fixedBytes
    writeAt minSize response.portion
    pure (minSize + response.portion.length)

def scanner : FieldScanner PortionResponse := do
  Scanner.require .bufferTooShort minSize
  let hdr ← Look.slice.header
  let completionCode ← Look.slice.u8
  let nextDataTransferHandle ← Look.slice.u32
  let transferFlag ← Look.slice.u8
  let portion ← Scanner.rest
  pure ⟨hdr, completionCode, nextDataTransferHandle, transferFlag, portion⟩

def decode (buffer : List UInt8) : Outcome PldmCodecError PortionResponse :=
  scanner.decode buffer

theorem length_fixedBytes (response : PortionResponse) :
    response.fixedBytes.length = minSize := by
  simp [fixedBytes, minSize]

theorem encode_eq (response : PortionResponse) :
    response.encode = writeToPrefix response.toBytes := by
  have hfixed := response.length_fixedBytes
  have hsize : response.toBytes.length = minSize + response.portion.length := by
    rw [toBytes, List.length_append, hfixed]
  apply encodes_of_fills (by rw [hsize]; rfl)
  apply Fills.congr
  · apply Fills.bind
    · exact Fills.writeAt rfl
    apply Fills.bind
    · exact Fills.writeAt (by rw [List.nil_append, hfixed])
    exact Fills.pure _
  · simp [toBytes]
  · rw [hsize]

theorem spells : Scanner.Spells decode toBytes fun _ => True := by
  apply Scanner.spells_of_holds
  intro buffer
  apply Scanner.holds_bind
  apply Scanner.holds_require
  intro enough
  apply Scanner.holds_bind
  apply Look.holds_header (by intro _; simp [minSize] at enough; omega)
  rintro hdr _ rfl
  apply Scanner.holds_bind
  apply Look.holds_u8 (by intro _; simp [minSize] at enough; omega)
  rintro completionCode _ rfl
  apply Scanner.holds_bind
  apply Look.holds_u32 (by intro _; simp [minSize] at enough; omega)
  rintro nextDataTransferHandle _ rfl
  apply Scanner.holds_bind
  apply Look.holds_u8 (by intro _; simp [minSize] at enough; omega)
  rintro transferFlag _ rfl
  apply Scanner.holds_bind
  apply Scanner.holds_rest
  apply Scanner.holds_pure
  exact ⟨by simp [toBytes, fixedBytes], trivial⟩

theorem reads (response : PortionResponse) : decode response.toBytes = .ok response := by
  apply Scanner.decode_of_runAt
  rw [scanner, Scanner.runAt_require (by simp [toBytes, fixedBytes, minSize]; omega)]
  simp only [toBytes, fixedBytes, List.append_assoc, List.cons_append, List.nil_append,
    Look.runAt_header, Look.runAt_u8, Look.runAt_u32, Scanner.runAt_rest_bind]
  rfl

theorem toBytes_injective : Function.Injective toBytes := by
  intro first second same
  have hfirst := first.reads
  rw [same, second.reads] at hfirst
  exact (Outcome.ok.inj hfirst).symm

end PortionResponse

/-! ## Package data -/

abbrev GetPackageDataCode := PldmCompletionCode
  [.commandNotExpected, .noPackageData, .invalidTransferHandle, .invalidTransferOperationFlag]

def maxPortionDataSize : ℕ := 0xFF

structure GetPackageDataResponse where
  hdr : PldmMsgHeader
  completionCode : UInt8
  nextDataTransferHandle : UInt32
  transferFlag : UInt8
  portionOfPackageData : FixedBytes maxPortionDataSize
  portionOfPackageDataLen : ℕ
  deriving DecidableEq

namespace GetPackageDataResponse

variable {response : GetPackageDataResponse}

def minLen : ℕ := 9

/-- The portion is copied into the array, which panics if it is too long. -/
def new (instanceId : UInt8) (completionCode : GetPackageDataCode)
    (nextDataTransferHandle : UInt32) (transferFlag : TransferOperationFlag)
    (portionOfPackageData : List UInt8) : Outcome PldmCodecError GetPackageDataResponse := do
  let pdata ← FixedBytes.copyFrom maxPortionDataSize portionOfPackageData
  pure ⟨responseHeader instanceId .getPackageData, completionCode.toU8, nextDataTransferHandle,
    transferFlag.toU8, pdata, portionOfPackageData.length⟩

def fixedBytes (response : GetPackageDataResponse) : List UInt8 :=
  response.hdr.toBytes ++ [response.completionCode] ++
    u32Bytes response.nextDataTransferHandle ++ [response.transferFlag]

def encode (response : GetPackageDataResponse) : Encoder := do
  let buffer ← Call.get
  if buffer.length < minLen + response.portionOfPackageDataLen then
    Call.fail .bufferTooShort
  else do
    writeAt 0 response.fixedBytes
    writeAt minLen (← slicePrefix response.portionOfPackageData.toList
      response.portionOfPackageDataLen)
    pure (minLen + response.portionOfPackageDataLen)

def scanner : FieldScanner GetPackageDataResponse := do
  Scanner.require .bufferTooShort minLen
  let hdr ← Look.slice.header
  let completionCode ← Look.slice.u8
  let completionCode ← Scanner.ofOutcome
    ((Outcome.ofExcept (PldmCompletionCode.tryFrom completionCode)).mapErr fun _ =>
      .unsupported)
  let nextDataTransferHandle ← Look.slice.u32
  let transferFlag ← Look.slice.u8
  let transferFlag ← Scanner.ofOutcome
    ((Outcome.ofExcept (TransferOperationFlag.tryFrom transferFlag)).mapErr fun _ =>
      .unsupported)
  let portionData ← Scanner.rest
  if portionData.length > maxPortionDataSize then
    Scanner.fail .bufferTooShort
  else
    Scanner.ofOutcome
      (new hdr.instanceId completionCode nextDataTransferHandle transferFlag portionData)

def decode (buffer : List UInt8) : Outcome PldmCodecError GetPackageDataResponse :=
  scanner.decode buffer

/-- What the decoder makes of an answer with this layout. -/
def ofPortion (sent : PortionResponse) : GetPackageDataResponse where
  hdr := responseHeader sent.hdr.instanceId .getPackageData
  completionCode := sent.completionCode
  nextDataTransferHandle := sent.nextDataTransferHandle
  transferFlag := sent.transferFlag
  portionOfPackageData := FixedBytes.padTo maxPortionDataSize sent.portion
  portionOfPackageDataLen := sent.portion.length

/-- What the decoder asks of an answer. The flag has to be one of a request. -/
structure Legible (sent : PortionResponse) : Prop where
  completionCode : ∃ code : GetPackageDataCode, code.toU8 = sent.completionCode
  transferFlag : ∃ flag : TransferOperationFlag, flag.toU8 = sent.transferFlag
  portion : sent.portion.length ≤ maxPortionDataSize

theorem ensures_convert {α : Type} {converted : Except PldmError α} {post : α → Prop}
    (known : ∀ value, converted = .ok value → post value) :
    ((Outcome.ofExcept converted).mapErr fun _ => PldmCodecError.unsupported).Ensures post := by
  cases converted with
  | ok value => exact known value rfl
  | error error => trivial

theorem decode_spec (buffer : List UInt8) :
    (decode buffer).Ensures fun response => ∃ sent : PortionResponse,
      buffer = sent.toBytes ∧ Legible sent ∧ response = ofPortion sent := by
  have hscan : scanner.Holds (fun response before after => after = [] ∧
      ∃ sent : PortionResponse, before = sent.toBytes ∧ Legible sent ∧
        response = ofPortion sent) [] buffer := by
    apply Scanner.holds_bind
    apply Scanner.holds_require
    intro enough
    apply Scanner.holds_bind
    apply Look.holds_header (by intro _; simp [minLen] at enough; omega)
    rintro hdr _ rfl
    apply Scanner.holds_bind
    apply Look.holds_u8 (by intro _; simp [minLen] at enough; omega)
    rintro code _ rfl
    apply Scanner.holds_bind
    apply Scanner.holds_ofOutcome
    apply ensures_convert
    intro completionCode hcode
    obtain rfl := PldmCompletionCode.toU8_of_tryFrom hcode
    apply Scanner.holds_bind
    apply Look.holds_u32 (by intro _; simp [minLen] at enough; omega)
    rintro nextDataTransferHandle _ rfl
    apply Scanner.holds_bind
    apply Look.holds_u8 (by intro _; simp [minLen] at enough; omega)
    rintro flag portion rfl
    apply Scanner.holds_bind
    apply Scanner.holds_ofOutcome
    apply ensures_convert
    intro transferFlag hflag
    obtain rfl := TransferOperationFlag.toU8_of_tryFrom hflag
    apply Scanner.holds_bind
    apply Scanner.holds_rest
    split
    · exact Scanner.holds_fail
    · next fits =>
        rw [not_lt] at fits
        apply Scanner.holds_ofOutcome
        rw [new, FixedBytes.copyFrom, if_pos fits]
        let sent : PortionResponse := ⟨hdr, completionCode.toU8, nextDataTransferHandle,
          transferFlag.toU8, portion⟩
        have hspelled : sent.toBytes = hdr.toBytes ++ [completionCode.toU8] ++
            u32Bytes nextDataTransferHandle ++ [transferFlag.toU8] ++ portion := rfl
        exact ⟨rfl, sent, by simp [hspelled], ⟨⟨_, rfl⟩, ⟨_, rfl⟩, fits⟩, rfl⟩
  apply (Scanner.ensures_of_holds hscan).mono
  rintro response ⟨before, after, rfl, rfl, sent, rfl, legible, hresponse⟩
  exact ⟨sent, List.append_nil _, legible, hresponse⟩

/-- The decoder does not panic, and its portion is within the array. -/
theorem decode_ensures (buffer : List UInt8) :
    (decode buffer).Ensures fun response =>
      response.portionOfPackageDataLen ≤ maxPortionDataSize := by
  apply (decode_spec buffer).mono
  rintro response ⟨sent, -, legible, rfl⟩
  exact legible.portion

end GetPackageDataResponse

end PldmLib.Message
