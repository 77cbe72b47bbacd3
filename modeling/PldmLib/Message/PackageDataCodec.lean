/-
# The codec of the package data answer

The answer to `GetPackageData` has the layout of the other answers that carry a portion. Its
decoder converts the completion code and the transfer flag, and hands what it has read to the
constructor. The flag is converted as one of a request, which has only the start in common
with those of an answer, and of the header nothing is kept but its instance ID.
-/

import PldmLib.Message.PackageData

namespace PldmLib.Message

open PldmLib.Machine PldmLib.Protocol

/-! ## Headers of responses -/

/-- A header made from the instance ID of such a header is the same header. -/
theorem responseHeader_instanceId (instanceId : UInt8) (command : FwUpdateCmd) :
    responseHeader (responseHeader instanceId command).instanceId command =
      responseHeader instanceId command := by
  have hid : (responseHeader instanceId command).instanceId % 32 = instanceId % 32 := by
    simp only [responseHeader, PldmMsgHeader.new, PldmMsgHeader.instanceId, PldmMsgType.toU8,
      ← UInt8.toNat_inj, UInt8.toNat_add, UInt8.toNat_mod, UInt8.toNat_mul, UInt8.toNat_div,
      UInt8.reduceToNat]
    omega
  rw [responseHeader, PldmMsgHeader.new, hid]
  rfl

namespace PortionResponse

variable {sent : PortionResponse} {hdr : PldmMsgHeader}

theorem header_prefix_iff : hdr.toBytes <+: sent.toBytes ↔ hdr = sent.hdr := by
  have hsplit : sent.toBytes = sent.hdr.toBytes ++ ([sent.completionCode] ++
      u32Bytes sent.nextDataTransferHandle ++ [sent.transferFlag] ++ sent.portion) := by
    simp [toBytes, fixedBytes]
  constructor
  · rintro ⟨behind, spelled⟩
    rw [hsplit] at spelled
    have hbytes := (List.append_inj spelled rfl).1
    simp only [PldmMsgHeader.toBytes, List.cons.injEq, and_true] at hbytes
    obtain ⟨hbyte0, hbyte1, hbyte2⟩ := hbytes
    cases hdr
    obtain rfl := hbyte0
    obtain rfl := hbyte1
    obtain rfl := hbyte2
    rfl
  · rintro rfl
    rw [hsplit]
    exact List.prefix_append _ _

/-- Only the header of an answer is exchanged. -/
theorem toBytes_with_hdr_iff :
    ({ sent with hdr := hdr } : PortionResponse).toBytes = sent.toBytes ↔ hdr = sent.hdr := by
  constructor
  · intro same
    rw [← header_prefix_iff, ← same, header_prefix_iff]
  · rintro rfl
    rfl

end PortionResponse

namespace GetPackageDataResponse

variable {sent : PortionResponse}

/-! ## Reading and writing -/

theorem tryFrom_completionCode (code : GetPackageDataCode) :
    PldmCompletionCode.tryFrom code.toU8 = .ok code :=
  PldmCompletionCode.tryFrom_toU8 (by decide) code

theorem reads (legible : Legible sent) : decode sent.toBytes = .ok (ofPortion sent) := by
  obtain ⟨hdr, _, nextDataTransferHandle, _, portion⟩ := sent
  obtain ⟨⟨completionCode, rfl⟩, ⟨transferFlag, rfl⟩, fits⟩ := legible
  have hfits : ¬ portion.length > maxPortionDataSize := not_lt.mpr fits
  apply Scanner.decode_of_runAt
  simp only [PortionResponse.toBytes, PortionResponse.fixedBytes, scanner, List.append_assoc,
    List.cons_append, List.nil_append]
  rw [Scanner.runAt_require (by simp [minLen]; omega)]
  simp only [Look.runAt_header, Look.runAt_u8, Look.runAt_u32, tryFrom_completionCode,
    TransferOperationFlag.tryFrom_toU8, Outcome.ofExcept, Outcome.mapErr,
    Scanner.runAt_ofOutcome_bind, Scanner.runAt_rest_bind, hfits, ↓reduceIte, new,
    FixedBytes.copyFrom, if_pos fits]
  rfl

/-- The encoder writes the answer with a header of its own. -/
theorem encode_ofPortion (fits : sent.portion.length ≤ maxPortionDataSize) :
    (ofPortion sent).encode = writeToPrefix ({ sent with
      hdr := responseHeader sent.hdr.instanceId .getPackageData } : PortionResponse).toBytes := by
  let answer : PortionResponse :=
    { sent with hdr := responseHeader sent.hdr.instanceId .getPackageData }
  have hfixed : (ofPortion sent).fixedBytes = answer.fixedBytes := rfl
  have hlength := answer.length_fixedBytes
  have hsize : answer.toBytes.length = minLen + sent.portion.length := by
    rw [PortionResponse.toBytes, List.length_append, hlength]
    rfl
  apply encodes_of_fills (by rw [hsize]; rfl)
  apply Fills.congr
  · apply Fills.bind
    · exact Fills.writeAt rfl
    apply Fills.bind
    · exact Fills.slicePrefix (by rwa [List.Vector.toList_length])
    apply Fills.bind
    · apply Fills.writeAt
      rw [List.nil_append, List.append_nil, hfixed, hlength]
      rfl
    exact Fills.pure _
  · have hportion : (ofPortion sent).portionOfPackageData.toList.take
        (ofPortion sent).portionOfPackageDataLen = sent.portion := FixedBytes.take_padTo fits
    rw [hfixed, hportion, List.nil_append, List.append_nil]
    rfl
  · rw [hsize]
    rfl

theorem decode_eq_ok_iff {buffer : List UInt8} {response : GetPackageDataResponse} :
    decode buffer = .ok response ↔ ∃ sent : PortionResponse,
      buffer = sent.toBytes ∧ Legible sent ∧ response = ofPortion sent := by
  constructor
  · exact (decode_spec buffer).of_ok
  · rintro ⟨sent, rfl, legible, rfl⟩
    exact reads legible

/-! ## Faithful decoding -/

/-- The answer on the wire. -/
def wireMessage (instanceId : UInt8) (completionCode : GetPackageDataCode)
    (nextDataTransferHandle : UInt32) (transferFlag : TransferRespFlag)
    (portionOfPackageData : List UInt8) : PortionResponse :=
  ⟨responseHeader instanceId .getPackageData, completionCode.toU8, nextDataTransferHandle,
    transferFlag.toU8, portionOfPackageData⟩

/-- The buffer is accepted, and encoding what has been decoded reproduces it. -/
def Faithful (buffer : List UInt8) : Prop :=
  ∃ response, decode buffer = .ok response ∧ Writes response.encode buffer

/-- What is encoded again has the header that the constructor makes. -/
theorem reencodes_iff {buffer : List UInt8} {response : GetPackageDataResponse}
    (accepted : decode buffer = .ok response) : Writes response.encode buffer ↔
      ∃ instanceId, (responseHeader instanceId .getPackageData).toBytes <+: buffer := by
  obtain ⟨sent, rfl, legible, rfl⟩ := decode_eq_ok_iff.mp accepted
  rw [encode_ofPortion legible.portion, writes_writeToPrefix_iff,
    PortionResponse.toBytes_with_hdr_iff]
  constructor
  · intro kept
    exact ⟨sent.hdr.instanceId, PortionResponse.header_prefix_iff.mpr kept⟩
  · rintro ⟨instanceId, begins⟩
    have hhdr := PortionResponse.header_prefix_iff.mp begins
    rw [← hhdr, responseHeader_instanceId]

/-- The start is the only flag of an answer that is also one of a request. -/
theorem transferFlag_known_iff {transferFlag : TransferRespFlag} :
    (∃ flag : TransferOperationFlag, flag.toU8 = transferFlag.toU8) ↔ transferFlag = .start := by
  constructor
  · rintro ⟨flag, same⟩
    cases flag <;> cases transferFlag <;> first | rfl | exact absurd same (by decide)
  · rintro rfl
    exact ⟨.getFirstPart, rfl⟩

/-- Among the answers those at the start of a transfer are decoded faithfully. -/
theorem faithful_wireMessage_iff {instanceId : UInt8} {completionCode : GetPackageDataCode}
    {nextDataTransferHandle : UInt32} {transferFlag : TransferRespFlag} {portion : List UInt8}
    (fits : portion.length ≤ maxPortionDataSize) :
    Faithful (wireMessage instanceId completionCode nextDataTransferHandle transferFlag
      portion).toBytes ↔ transferFlag = .start := by
  constructor
  · rintro ⟨response, accepted, _⟩
    obtain ⟨sent, same, legible, _⟩ := decode_eq_ok_iff.mp accepted
    obtain rfl := PortionResponse.toBytes_injective same
    exact transferFlag_known_iff.mp legible.transferFlag
  · intro start
    have hlegible : Legible (wireMessage instanceId completionCode nextDataTransferHandle
        transferFlag portion) :=
      ⟨⟨_, rfl⟩, transferFlag_known_iff.mpr start, fits⟩
    exact ⟨_, reads hlegible, (reencodes_iff (reads hlegible)).mpr
      ⟨instanceId, PortionResponse.header_prefix_iff.mpr rfl⟩⟩

/-- An answer is decoded faithfully exactly when its flag is the start, and what is accepted
is encoded again as it was exactly when it begins with a header that the constructor makes. -/
theorem package_data_faithful_iff (instanceId : UInt8) (completionCode : GetPackageDataCode)
    (nextDataTransferHandle : UInt32) (transferFlag : TransferRespFlag) (buffer : List UInt8) :
    (∀ portionOfPackageData, portionOfPackageData.length ≤ maxPortionDataSize →
      (Faithful (wireMessage instanceId completionCode nextDataTransferHandle transferFlag
        portionOfPackageData).toBytes ↔ transferFlag = .start)) ∧
    ∀ response, decode buffer = .ok response →
      (Writes response.encode buffer ↔
        ∃ instanceId, (responseHeader instanceId .getPackageData).toBytes <+: buffer) := by
  constructor
  · intro portion fits
    exact faithful_wireMessage_iff fits
  · intro response accepted
    exact reencodes_iff accepted

theorem package_data_start_faithful :
    Faithful (wireMessage 1 (.baseCodes .success) 0 .start [22]).toBytes :=
  ((package_data_faithful_iff 1 (.baseCodes .success) 0 .start []).1 [22] (by decide)).mpr rfl

/-- An answer with the end of the data is refused, and a request's header is not kept. -/
theorem package_data_unfaithful :
    (¬ ∀ instanceId completionCode nextDataTransferHandle transferFlag portionOfPackageData,
      portionOfPackageData.length ≤ maxPortionDataSize →
        Faithful (wireMessage instanceId completionCode nextDataTransferHandle transferFlag
          portionOfPackageData).toBytes) ∧
    ¬ ∀ buffer response, decode buffer = .ok response → Writes response.encode buffer := by
  constructor
  · intro faithful
    have refused := faithful 1 (.baseCodes .success) 0 .end [22] (by decide)
    rw [faithful_wireMessage_iff (by decide)] at refused
    cases refused
  · intro reencodes
    let sent : PortionResponse := ⟨⟨0x81, 0x05, 0x11⟩, 0, 0, 0, [22]⟩
    have hlegible : Legible sent :=
      ⟨⟨.baseCodes .success, rfl⟩, ⟨.getNextPart, rfl⟩, by decide⟩
    have kept := reencodes _ _ (reads hlegible)
    rw [encode_ofPortion hlegible.portion, writes_writeToPrefix_iff,
      PortionResponse.toBytes_with_hdr_iff] at kept
    exact absurd kept (by decide)

end GetPackageDataResponse

end PldmLib.Message
