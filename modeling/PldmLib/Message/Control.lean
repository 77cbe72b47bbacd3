/-
# Control and discovery messages

The requests of the base type as the responder decodes them and the responses it
encodes. All of them are packed structures that are copied as a whole. The
supported types and commands are reported as bitmaps, one bit for each code.
-/

import PldmLib.Machine.Bitmap
import PldmLib.Message.Update

namespace PldmLib.Message

open PldmLib.Machine PldmLib.Protocol

def pldmCmdsBitmapLen : ℕ := 32
def pldmTypesBitmapLen : ℕ := 8

/-! ## Requests -/

def GetTidRequest.decode := HeaderRequest.decode
def GetPldmTypeRequest.decode := HeaderRequest.decode

structure SetTidRequest where
  hdr : PldmMsgHeader
  tid : UInt8
  deriving DecidableEq, Repr

def SetTidRequest.decode (buffer : List UInt8) : Except PldmCodecError SetTidRequest :=
  Reader.decode (do
    let hdr ← PldmMsgHeader.reader
    let tid ← Decoder.u8
    pure ⟨hdr, tid⟩) buffer

theorem SetTidRequest.extends_decode : Reader.DecodeExtends decode .bufferTooShort := by
  apply Reader.Extends.decode
  refine PldmMsgHeader.extends_reader.bind fun _ => ?_
  exact Decoder.extends_u8.bind fun _ => Reader.extends_pure _

structure GetPldmCommandsRequest where
  hdr : PldmMsgHeader
  pldmType : UInt8
  protocolVersion : UInt32
  deriving DecidableEq, Repr

def GetPldmCommandsRequest.decode (buffer : List UInt8) :
    Except PldmCodecError GetPldmCommandsRequest :=
  Reader.decode (do
    let hdr ← PldmMsgHeader.reader
    let pldmType ← Decoder.u8
    let protocolVersion ← Decoder.u32
    pure ⟨hdr, pldmType, protocolVersion⟩) buffer

theorem GetPldmCommandsRequest.extends_decode : Reader.DecodeExtends decode .bufferTooShort := by
  apply Reader.Extends.decode
  refine PldmMsgHeader.extends_reader.bind fun _ => Decoder.extends_u8.bind fun _ => ?_
  exact Decoder.extends_u32.bind fun _ => Reader.extends_pure _

structure GetPldmVersionRequest where
  hdr : PldmMsgHeader
  dataTransferHandle : UInt32
  transferOpFlag : UInt8
  pldmType : UInt8
  deriving DecidableEq, Repr

def GetPldmVersionRequest.decode (buffer : List UInt8) :
    Except PldmCodecError GetPldmVersionRequest :=
  Reader.decode (do
    let hdr ← PldmMsgHeader.reader
    let dataTransferHandle ← Decoder.u32
    let transferOpFlag ← Decoder.u8
    let pldmType ← Decoder.u8
    pure ⟨hdr, dataTransferHandle, transferOpFlag, pldmType⟩) buffer

theorem GetPldmVersionRequest.extends_decode : Reader.DecodeExtends decode .bufferTooShort := by
  apply Reader.Extends.decode
  refine PldmMsgHeader.extends_reader.bind fun _ => Decoder.extends_u32.bind fun _ => ?_
  exact Decoder.extends_u8.bind fun _ => Decoder.extends_u8.bind fun _ => Reader.extends_pure _

/-! ## Bitmaps -/

/-- `bitmap[item / 8] |= 1 << (item % 8)`, which panics past the end. -/
def setBit {size : ℕ} (bitmap : FixedBytes size) (item : UInt8) :
    Outcome PldmCodecError (FixedBytes size) :=
  if inside : (item / 8).toNat < size then
    .ok (bitmap.set ⟨_, inside⟩ (bitmap.get ⟨_, inside⟩ ||| 1 <<< (item % 8)))
  else .panic

/-- One bit for each of the first `8 * size` items. -/
def constructBitmap (size : ℕ) (items : List UInt8) :
    Outcome PldmCodecError (FixedBytes size) :=
  (items.take (size * 8)).foldlM setBit (FixedBytes.padTo size [])

/-- Look an item up, in a byte that may lie past the end. -/
def isBitSet (bitmap : List UInt8) (item : UInt8) : Outcome PldmCodecError Bool :=
  match bitmap[(item / 8).toNat]? with
  | some byte => .ok (byte &&& 1 <<< (item % 8) != 0)
  | none => .panic

section Items

variable {size : ℕ} {bitmap built : FixedBytes size} {item : UInt8}

theorem isBitSet_of_inside (inside : (item / 8).toNat < size) :
    isBitSet bitmap.toList item = .ok (bitmap.get ⟨_, inside⟩ &&& Bitmap.mask item != 0) := by
  have hbyte : bitmap.toList[(item / 8).toNat]? = some (bitmap.get ⟨_, inside⟩) := by
    rw [List.getElem?_eq_getElem (by rwa [List.Vector.toList_length])]
    rfl
  rw [isBitSet, hbyte]
  rfl

theorem isBitSet_of_outside (outside : size ≤ (item / 8).toNat) :
    isBitSet bitmap.toList item = .panic := by
  have hbyte : bitmap.toList[(item / 8).toNat]? = none := by
    rwa [List.getElem?_eq_none_iff, List.Vector.toList_length]
  rw [isBitSet, hbyte]

/-- The bits that are read as set are the items of a bitmap. -/
theorem isBitSet_eq_ok_true_iff :
    isBitSet bitmap.toList item = .ok true ↔ item ∈ Bitmap.items bitmap := by
  by_cases inside : (item / 8).toNat < size
  · rw [isBitSet_of_inside inside, Outcome.ok.injEq, bne_iff_ne]
    exact ⟨fun set => ⟨inside, set⟩, fun ⟨_, set⟩ => set⟩
  · rw [isBitSet_of_outside (not_lt.mp inside)]
    exact iff_of_false (by simp) fun ⟨found, _⟩ => inside found

theorem items_setBit (ran : setBit bitmap item = .ok built) :
    Bitmap.items built = insert item (Bitmap.items bitmap) := by
  unfold setBit at ran
  split at ran
  · next inside =>
      obtain rfl := Outcome.ok.inj ran
      exact Bitmap.items_set bitmap item inside
  · cases ran

theorem items_foldlM_setBit {few : List UInt8} (ran : few.foldlM setBit bitmap = .ok built) :
    Bitmap.items built = { item | item ∈ few } ∪ Bitmap.items bitmap := by
  induction few generalizing bitmap with
  | nil =>
      obtain rfl := Outcome.ok.inj ran
      simp
  | cons item rest ih =>
      rw [List.foldlM_cons] at ran
      cases hset : setBit bitmap item with
      | err error =>
          rw [hset] at ran
          cases ran
      | panic =>
          rw [hset] at ran
          cases ran
      | ok added =>
          rw [hset, Outcome.ok_bind] at ran
          rw [ih ran, items_setBit hset]
          ext other
          simp only [Set.mem_union, Set.mem_insert_iff, Set.mem_ofPred_eq, List.mem_cons]
          tauto

/-- A bitmap that was constructed holds the items that the cut-off left in. -/
theorem items_constructBitmap {all : List UInt8} (ran : constructBitmap size all = .ok built) :
    Bitmap.items built = { item | item ∈ all.take (size * 8) } := by
  have hempty : FixedBytes.padTo size [] = List.Vector.replicate size 0 := by
    apply Subtype.ext
    exact List.take_of_length_le (by simp)
  rw [items_foldlM_setBit ran, hempty, Bitmap.items_replicate_zero, Set.union_empty]

end Items

/-- A bitmap for every code that can occur is built. -/
theorem constructBitmap_of_inside {size : ℕ} {items : List UInt8}
    (inside : ∀ item ∈ items, (item / 8).toNat < size) :
    ∃ bitmap, constructBitmap size items = .ok bitmap := by
  have hset : ∀ (few : List UInt8) (bitmap : FixedBytes size),
      (∀ item ∈ few, (item / 8).toNat < size) → ∃ built,
        few.foldlM setBit bitmap = (.ok built : Outcome PldmCodecError _) := by
    intro few
    induction few with
    | nil => exact fun bitmap _ => ⟨bitmap, rfl⟩
    | cons item rest ih =>
        intro bitmap hinside
        rw [List.foldlM_cons, setBit, dif_pos (hinside item List.mem_cons_self), Outcome.ok_bind]
        exact ih _ fun other member => hinside other (List.mem_cons_of_mem _ member)
  exact hset _ _ fun item member => inside item (List.mem_of_mem_take member)

/-! ## Responses -/

/-- The header of a control response: the request's instance ID and the command. -/
def controlHeader (instanceId : UInt8) (command : PldmControlCmd) : PldmMsgHeader :=
  .new instanceId .response .base command.toU8

structure GetTidResponse where
  hdr : PldmMsgHeader
  completionCode : UInt8
  tid : UInt8
  deriving DecidableEq, Repr

namespace GetTidResponse

def new (instanceId tid completionCode : UInt8) : GetTidResponse :=
  ⟨controlHeader instanceId .getTid, completionCode, tid⟩

def toBytes (response : GetTidResponse) : List UInt8 :=
  response.hdr.toBytes ++ [response.completionCode, response.tid]

def encode (response : GetTidResponse) : Encoder := writeToPrefix response.toBytes

end GetTidResponse

def SetTidResponse.new (instanceId completionCode : UInt8) : CompletionResponse :=
  ⟨controlHeader instanceId .setTid, completionCode⟩

/-- A completion code and a bitmap: the layout shared by the responses to
`GetPLDMTypes` and `GetPLDMCommands`. -/
structure BitmapResponse (size : ℕ) where
  hdr : PldmMsgHeader
  completionCode : UInt8
  bitmap : FixedBytes size
  deriving DecidableEq

namespace BitmapResponse

variable {size : ℕ}

def toBytes (response : BitmapResponse size) : List UInt8 :=
  response.hdr.toBytes ++ [response.completionCode] ++ response.bitmap.toList

def encode (response : BitmapResponse size) : Encoder := writeToPrefix response.toBytes

theorem length_toBytes (response : BitmapResponse size) :
    response.toBytes.length = pldmFailureRespLen + size := by
  simp only [toBytes, PldmMsgHeader.toBytes, List.length_append, List.length_cons,
    List.length_nil, List.Vector.toList_length, pldmFailureRespLen]

end BitmapResponse

def GetPldmTypeResponse.new (instanceId completionCode : UInt8) (supportedTypes : List UInt8) :
    Outcome PldmCodecError (BitmapResponse pldmTypesBitmapLen) := do
  let pldmTypes ← constructBitmap pldmTypesBitmapLen supportedTypes
  pure ⟨controlHeader instanceId .getPldmTypes, completionCode, pldmTypes⟩

def GetPldmCommandsResponse.new (instanceId completionCode : UInt8)
    (supportedCmds : List UInt8) :
    Outcome PldmCodecError (BitmapResponse pldmCmdsBitmapLen) := do
  let supportedCmds ← constructBitmap pldmCmdsBitmapLen supportedCmds
  pure ⟨controlHeader instanceId .getPldmCommands, completionCode, supportedCmds⟩

structure GetPldmVersionResponse where
  hdr : PldmMsgHeader
  completionCode : UInt8
  nextTransferHandle : UInt32
  transferRspFlag : UInt8
  versionData : UInt32
  deriving DecidableEq, Repr

namespace GetPldmVersionResponse

def toBytes (response : GetPldmVersionResponse) : List UInt8 :=
  response.hdr.toBytes ++ [response.completionCode] ++ u32Bytes response.nextTransferHandle ++
    [response.transferRspFlag] ++ u32Bytes response.versionData

def encode (response : GetPldmVersionResponse) : Encoder := writeToPrefix response.toBytes

end GetPldmVersionResponse

end PldmLib.Message
