/-
# Responses that end in an optional field

Two responses end in a transfer size that is not always there. In memory the field is an
option. On the wire its presence is announced by another field, the command that the device
will send or the option flags. The size of the message, the encoder and the decoder each go
by one of the two, and the constructors take both from their caller.
-/

import PldmLib.Message.Response

namespace PldmLib.Message

open PldmLib.Machine PldmLib.Protocol

namespace RequestUpdateResponse

variable {response : RequestUpdateResponse}

/-- The size is no more than that of a response with its optional field. -/
theorem codecSizeInBytes_le : response.codecSizeInBytes ≤ 11 := by
  unfold codecSizeInBytes
  split <;> omega

/-- Behind the fixed part the encoder writes the option, whatever is announced. -/
theorem fills_fields : Fills (do
    writeAt 0 response.fixedBytes
    match response.getPkgDataMaxTransferSize with
    | some size => do
        writeAt 7 (u32Bytes size)
        pure 11
    | none => pure 7) [] response.toBytes
      (7 + (optionBytes response.getPkgDataMaxTransferSize).length) := by
  apply Fills.bind
  · exact Fills.writeAt rfl
  exact fills_optionBytes (by rw [List.nil_append, response.length_fixedBytes])

theorem encode_of_room {buffer : List UInt8} (room : 11 ≤ buffer.length) :
    response.encode buffer =
      (.ok (7 + (optionBytes response.getPkgDataMaxTransferSize).length),
        response.toBytes ++ buffer.drop response.toBytes.length) := by
  have hbytes : response.toBytes.length ≤ 11 := by
    rw [toBytes, List.length_append, response.length_fixedBytes]
    cases response.getPkgDataMaxTransferSize <;> simp [optionBytes]
  have hroom : ¬ buffer.length < response.codecSizeInBytes :=
    not_lt.mpr (codecSizeInBytes_le.trans room)
  have hruns : response.encode buffer =
      (if buffer.length < response.codecSizeInBytes then Call.fail .bufferTooShort else do
        writeAt 0 response.fixedBytes
        match response.getPkgDataMaxTransferSize with
        | some size => do
            writeAt 7 (u32Bytes size)
            pure 11
        | none => pure 7) buffer := rfl
  rw [hruns, if_neg hroom]
  exact fills_fields buffer (hbytes.trans room)

theorem consistent_iff_canonical :
    Consistent response.encode response.codecSizeInBytes scanner.decode response ↔
      response.Canonical := by
  constructor
  · intro consistent
    have hroom : 11 ≤ (List.replicate 11 (0 : UInt8)).length := by simp
    have haccepted := consistent.accepted _ _ _ (encode_of_room hroom)
    exact ((spells _).of_ok haccepted).1
  · intro canonical
    have hreads := reads canonical []
    rw [List.append_nil] at hreads
    rw [encode_eq canonical, ← length_toBytes canonical]
    exact consistent_writeToPrefix hreads

end RequestUpdateResponse

namespace UpdateComponentResponse

variable {response : UpdateComponentResponse}

theorem consistent_iff_canonical :
    Consistent response.encode response.codecSizeInBytes scanner.decode response ↔
      response.Canonical := by
  rw [encode_toBytes, ← length_toBytes]
  constructor
  · intro consistent
    have haccepted := accepted_writeToPrefix.mp consistent.accepted
    exact ((spells_canonical _).of_ok haccepted).1
  · intro canonical
    have hreads := reads canonical []
    rw [List.append_nil] at hreads
    exact consistent_writeToPrefix hreads

end UpdateComponentResponse

/-- Both responses are consistent exactly when the option that the constructor is given is
there if and only if the other field announces it. -/
theorem responses_consistent_iff (instanceId completionCode : UInt8) :
    (∀ fdMetaDataLen fdWillSendPkgDataCmd getPkgDataMaxTransferSize,
      Consistent
          (RequestUpdateResponse.new instanceId completionCode fdMetaDataLen
            fdWillSendPkgDataCmd getPkgDataMaxTransferSize).encode
          (RequestUpdateResponse.new instanceId completionCode fdMetaDataLen
            fdWillSendPkgDataCmd getPkgDataMaxTransferSize).codecSizeInBytes
          RequestUpdateResponse.scanner.decode
          (RequestUpdateResponse.new instanceId completionCode fdMetaDataLen
            fdWillSendPkgDataCmd getPkgDataMaxTransferSize) ↔
        getPkgDataMaxTransferSize.isSome = (fdWillSendPkgDataCmd == 0x02)) ∧
    (∀ compCompatibilityResp compCompatibilityRespCode updateOptionFlagsEnabled
        timeBeforeReqFwData getCompOpaqueDataMaxTransferSize,
      Consistent
          (UpdateComponentResponse.new instanceId completionCode compCompatibilityResp
            compCompatibilityRespCode updateOptionFlagsEnabled timeBeforeReqFwData
            getCompOpaqueDataMaxTransferSize).encode
          (UpdateComponentResponse.new instanceId completionCode compCompatibilityResp
            compCompatibilityRespCode updateOptionFlagsEnabled timeBeforeReqFwData
            getCompOpaqueDataMaxTransferSize).codecSizeInBytes
          UpdateComponentResponse.scanner.decode
          (UpdateComponentResponse.new instanceId completionCode compCompatibilityResp
            compCompatibilityRespCode updateOptionFlagsEnabled timeBeforeReqFwData
            getCompOpaqueDataMaxTransferSize) ↔
        getCompOpaqueDataMaxTransferSize.isSome =
          updateOptionFlagsEnabled.componentOpaqueData) := by
  constructor
  · intro fdMetaDataLen fdWillSendPkgDataCmd getPkgDataMaxTransferSize
    exact RequestUpdateResponse.consistent_iff_canonical
  · intro compCompatibilityResp compCompatibilityRespCode updateOptionFlagsEnabled
      timeBeforeReqFwData getCompOpaqueDataMaxTransferSize
    exact UpdateComponentResponse.consistent_iff_canonical

/-- A transfer size without the command that announces it makes the encoder panic in a buffer
of exactly the computed size; opaque data that are announced without a transfer size are
written and not read back. -/
theorem unannounced_fields_inconsistent :
    ((RequestUpdateResponse.new 0 0 0 0 (some 0)).encode (List.replicate 7 0)).1 = .panic ∧
      ¬ Consistent (RequestUpdateResponse.new 0 0 0 0 (some 0)).encode
        (RequestUpdateResponse.new 0 0 0 0 (some 0)).codecSizeInBytes
        RequestUpdateResponse.scanner.decode (RequestUpdateResponse.new 0 0 0 0 (some 0)) ∧
      ¬ Consistent
        (UpdateComponentResponse.new 0 0 .compCanBeUpdated .noResponseCode ⟨2⟩ 0 none).encode
        (UpdateComponentResponse.new 0 0 .compCanBeUpdated .noResponseCode ⟨2⟩ 0
          none).codecSizeInBytes
        UpdateComponentResponse.scanner.decode
        (UpdateComponentResponse.new 0 0 .compCanBeUpdated .noResponseCode ⟨2⟩ 0 none) := by
  have hpanics : ((RequestUpdateResponse.new 0 0 0 0 (some 0)).encode
      (List.replicate 7 0)).1 = .panic := by decide
  refine ⟨hpanics, fun consistent => consistent.safe _ hpanics, ?_⟩
  rw [UpdateComponentResponse.consistent_iff_canonical, UpdateComponentResponse.Canonical]
  decide

end PldmLib.Message
