/-
# What the responder advertises

The supported types are collected from the table once each, the commands of a type are
those of the first entry with the version that was asked for, and both go out as a bitmap.
The gate in front of the handlers asks the table as well, but a request has no version in
it, and the gate looks at the first entry of the type.
-/

import PldmLib.Interface.Availability

namespace PldmLib.Interface

open PldmLib.Machine PldmLib.Protocol PldmLib.Message PldmLib.FirmwareDevice

/-! ## Entries of the table -/

/-- The first of the entries that satisfy a condition. -/
def FirstAmong (caps : List ProtocolCapability) (condition : ProtocolCapability → Prop)
    (cap : ProtocolCapability) : Prop :=
  condition cap ∧ ∃ earlier later, caps = earlier ++ cap :: later ∧
    ∀ other ∈ earlier, ¬ condition other

/-- An entry for a version of a type. -/
def ProtocolCapability.Describes (pldmType : PldmSupportedType) (protocolVersion : UInt32)
    (cap : ProtocolCapability) : Prop :=
  cap.pldmType = pldmType ∧ cap.protocolVersion = protocolVersion

theorem describes_iff {pldmType : PldmSupportedType} {protocolVersion : UInt32}
    {cap : ProtocolCapability} :
    (cap.pldmType == pldmType && cap.protocolVersion == protocolVersion) = true ↔
      cap.Describes pldmType protocolVersion := by
  rw [Bool.and_eq_true, beq_iff_eq, beq_iff_eq, ProtocolCapability.Describes]

section Entries

variable {caps : List ProtocolCapability} {condition : ProtocolCapability → Prop}
  {cap other : ProtocolCapability}

theorem find?_eq_some_iff_first {test : ProtocolCapability → Bool}
    (same : ∀ cap, test cap = true ↔ condition cap) :
    caps.find? test = some cap ↔ FirstAmong caps condition cap := by
  rw [List.find?_eq_some_iff_append, FirstAmong, same]
  simp only [Bool.not_eq_true', ← Bool.not_eq_true, same]

theorem FirstAmong.mem (first : FirstAmong caps condition cap) : cap ∈ caps := by
  obtain ⟨_, earlier, later, rfl, _⟩ := first
  exact List.mem_append_right _ List.mem_cons_self

/-- The first entry of a type is also the first one of its version. -/
theorem FirstAmong.version {pldmType : PldmSupportedType}
    (first : FirstAmong caps (·.pldmType = pldmType) cap) :
    FirstAmong caps (ProtocolCapability.Describes pldmType cap.protocolVersion) cap := by
  obtain ⟨named, earlier, later, hcaps, hearlier⟩ := first
  exact ⟨⟨named, rfl⟩, earlier, later, hcaps, fun other member both =>
    hearlier other member both.1⟩

theorem exists_first (listed : ∃ cap ∈ caps, condition cap) :
    ∃ cap, FirstAmong caps condition cap := by
  classical
  have hsame : ∀ entry, decide (condition entry) = true ↔ condition entry := fun _ =>
    decide_eq_true_iff
  have hsome : (caps.find? fun entry => decide (condition entry)).isSome = true := by
    simpa only [List.find?_isSome, hsame] using listed
  obtain ⟨found, hfound⟩ := Option.isSome_iff_exists.mp hsome
  exact ⟨found, (find?_eq_some_iff_first hsame).mp hfound⟩

end Entries

namespace ControlContext

variable {context : ControlContext} {pldmType : PldmSupportedType} {cap : ProtocolCapability}

theorem getSupportedCommands_of_first {protocolVersion : UInt32}
    (first : FirstAmong context.capabilities
      (ProtocolCapability.Describes pldmType protocolVersion) cap) :
    context.getSupportedCommands pldmType protocolVersion = some cap.supportedCommands := by
  have hfound := (find?_eq_some_iff_first fun _ => describes_iff).mpr first
  rw [getSupportedCommands, hfound, Option.map_some]

theorem isSupportedVersion_iff {protocolVersion : UInt32} :
    context.isSupportedVersion pldmType protocolVersion = true ↔
      ∃ cap ∈ context.capabilities, cap.Describes pldmType protocolVersion := by
  simp only [isSupportedVersion, List.any_eq_true, describes_iff]

/-- The gate asks the first entry of a type. -/
theorem isSupportedCommand_of_first {cmd : UInt8}
    (first : FirstAmong context.capabilities (·.pldmType = pldmType) cap) :
    context.isSupportedCommand pldmType cmd = true ↔ cmd ∈ cap.supportedCommands := by
  have hfound : (context.capabilities.find? fun cap => cap.pldmType == pldmType) = some cap :=
    (find?_eq_some_iff_first fun _ => beq_iff_eq).mpr first
  rw [isSupportedCommand, hfound]
  exact List.contains_iff_mem

/-- The numbers that a type can have. -/
def typeNumbers : List UInt8 := [0x00, 0x02, 0x03, 0x04, 0x05, 0x3F]

theorem toU8_mem_typeNumbers (pldmType : PldmSupportedType) : pldmType.toU8 ∈ typeNumbers := by
  cases pldmType <;> decide

/-- With room for all numbers every type of the table is collected, once. -/
theorem mem_collectTypes_iff {room : ℕ} {caps : List ProtocolCapability} {types : List UInt8}
    {value : UInt8} (enough : typeNumbers.length ≤ room) (distinct : types.Nodup)
    (known : types ⊆ typeNumbers) :
    value ∈ collectTypes room caps types ↔
      value ∈ types ∨ ∃ cap ∈ caps, cap.pldmType.toU8 = value := by
  induction caps generalizing types with
  | nil => simp [collectTypes]
  | cons cap rest ih =>
      rw [List.exists_mem_cons_iff]
      by_cases hmember : cap.pldmType.toU8 ∈ types
      · rw [collectTypes, if_pos hmember, ih distinct known]
        constructor
        · rintro (earlier | later)
          · exact .inl earlier
          · exact .inr (.inr later)
        · rintro (earlier | rfl | later)
          · exact .inl earlier
          · exact .inl hmember
          · exact .inr later
      · have hdistinct : (types ++ [cap.pldmType.toU8]).Nodup := by
          rw [List.nodup_append]
          refine ⟨distinct, List.nodup_singleton _, ?_⟩
          rintro earlier collected added new rfl
          exact hmember (List.mem_singleton.mp new ▸ collected)
        have hknown : types ++ [cap.pldmType.toU8] ⊆ typeNumbers :=
          List.append_subset.mpr ⟨known, by simp [toU8_mem_typeNumbers]⟩
        have hroom : types.length < room := by
          have hlength := (List.subperm_of_subset hdistinct hknown).length_le
          rw [List.length_append, List.length_singleton] at hlength
          omega
        rw [collectTypes, if_neg hmember, if_pos hroom, ih hdistinct hknown, List.mem_append,
          List.mem_singleton, or_assoc, eq_comm]

theorem length_collectTypes_le {room : ℕ} {caps : List ProtocolCapability} {types : List UInt8}
    (fits : types.length ≤ room) : (collectTypes room caps types).length ≤ room := by
  induction caps generalizing types with
  | nil => exact fits
  | cons cap rest ih =>
      unfold collectTypes
      split
      · exact ih fits
      · split
        · next free =>
            apply ih
            rw [List.length_append, List.length_singleton]
            omega
        · exact fits

theorem mem_getSupportedTypes {value : UInt8} :
    value ∈ context.getSupportedTypes 6 ↔
      ∃ cap ∈ context.capabilities, cap.pldmType.toU8 = value := by
  have hiff := @mem_collectTypes_iff 6 context.capabilities [] value (le_refl _)
    List.nodup_nil (List.nil_subset _)
  rw [getSupportedTypes, hiff]
  exact or_iff_right List.not_mem_nil

end ControlContext

/-! ## The answers -/

/-- A handler answers its request with a bitmap. -/
structure Answers {size : ℕ} (handler : CtrlCall ℕ) (state : CtrlState)
    (response : BitmapResponse size) : Prop where
  returned : handler state = (.ok (pldmFailureRespLen + size),
    ⟨state.context, response.toBytes ++ state.payload.drop (pldmFailureRespLen + size)⟩)
  success : response.completionCode = PldmBaseCompletionCode.success.toU8

section Answers

variable {size : ℕ} {response again : BitmapResponse size} {handler : CtrlCall ℕ}
  {context : ControlContext} {payload : List UInt8}

/-- What is in the buffer tells the bitmap. -/
theorem Answers.bitmap_unique {state : CtrlState} (answers : Answers handler state response)
    (same : Answers handler state again) : response.bitmap = again.bitmap := by
  have hpayload := congrArg (fun result => result.2.payload)
    (answers.returned.symm.trans same.returned)
  have hbytes := (List.append_inj hpayload (by simp only [BitmapResponse.length_toBytes])).1
  have hhead (response : BitmapResponse size) :
      (response.hdr.toBytes ++ [response.completionCode]).length = pldmFailureRespLen := rfl
  unfold BitmapResponse.toBytes at hbytes
  exact Subtype.ext (List.append_inj hbytes ((hhead response).trans (hhead again).symm)).2

theorem encode_answers (success : response.completionCode = PldmBaseCompletionCode.success.toU8)
    (room : pldmFailureRespLen + size ≤ payload.length) :
    Answers (CtrlCall.encode response.encode) ⟨context, payload⟩ response where
  returned := by
    have hlength := response.length_toBytes
    have hwritten := @writeToPrefix_of_le response.toBytes payload (hlength ▸ room)
    rw [hlength] at hwritten
    simp only [CtrlCall.encode, CtrlCall.onPayload, Call.on, PayloadCall.encode, Call.mapErr,
      BitmapResponse.encode, hwritten, Outcome.mapErr]
  success := success

theorem respond_answers (success : response.completionCode = PldmBaseCompletionCode.success.toU8)
    (room : pldmFailureRespLen + size ≤ payload.length) :
    Answers (CtrlCall.respond response.encode) ⟨context, payload⟩ response where
  returned := by
    have hlength := response.length_toBytes
    have hwritten := @writeToPrefix_of_le response.toBytes payload (hlength ▸ room)
    rw [hlength] at hwritten
    simp only [CtrlCall.respond, Call.attemptOn, bind, Call.bind, BitmapResponse.encode, hwritten]
    rfl
  success := success

theorem Answers.withRequest {β : Type} {decode : List UInt8 → Except PldmCodecError β}
    {handle : β → CtrlCall ℕ} {request : β} (decoded : decode payload = .ok request)
    (answers : Answers (handle request) ⟨context, payload⟩ response) :
    Answers (CtrlCall.withRequest decode handle) ⟨context, payload⟩ response where
  returned := by
    rw [← answers.returned]
    simp only [CtrlCall.withRequest, bind, Call.bind, Call.get, decoded]
  success := answers.success

theorem Answers.ofContext {next : ControlContext → CtrlCall ℕ}
    (answers : Answers (next context) ⟨context, payload⟩ response) :
    Answers (CtrlCall.context >>= next) ⟨context, payload⟩ response :=
  ⟨answers.returned, answers.success⟩

theorem Answers.withSupportedType {pldmType : PldmSupportedType} {value : UInt8}
    {handle : PldmSupportedType → CtrlCall ℕ} (known : value = pldmType.toU8)
    (supported : context.isSupportedType pldmType = true)
    (answers : Answers (handle pldmType) ⟨context, payload⟩ response) :
    Answers (CtrlCall.withSupportedType value handle) ⟨context, payload⟩ response where
  returned := by
    rw [← answers.returned, known, CtrlCall.withSupportedType,
      PldmSupportedType.tryFrom_toU8]
    simp only [CtrlCall.context, bind, Call.bind, Call.get, pure, supported, Bool.not_true,
      Bool.false_eq_true, if_false]
  success := answers.success

theorem Answers.built {header : PldmMsgHeader} {code : UInt8} {all : List UInt8}
    {bitmap : FixedBytes size} {handle : BitmapResponse size → CtrlCall ℕ}
    (constructed : constructBitmap size all = .ok bitmap)
    (answers : Answers (handle ⟨header, code, bitmap⟩) ⟨context, payload⟩ response) :
    Answers (CtrlCall.built (do
        let bitmap ← constructBitmap size all
        pure ⟨header, code, bitmap⟩) >>= handle) ⟨context, payload⟩ response where
  returned := by
    rw [← answers.returned, constructed]
    rfl
  success := answers.success

/-- The types are answered as the bitmap of the types of the table. -/
theorem getPldmTypesRsp_answers {request : HeaderRequest}
    (decoded : GetPldmTypeRequest.decode payload = .ok request)
    (room : pldmFailureRespLen + pldmTypesBitmapLen ≤ payload.length) :
    ∃ response : BitmapResponse pldmTypesBitmapLen,
      Answers ControlContext.getPldmTypesRsp ⟨context, payload⟩ response ∧
      Bitmap.items response.bitmap =
        { value | ∃ cap ∈ context.capabilities, cap.pldmType.toU8 = value } := by
  obtain ⟨bitmap, hbitmap⟩ := constructBitmap_of_inside (typeBit_inside context)
  refine ⟨⟨controlHeader request.hdr.instanceId .getPldmTypes,
    PldmBaseCompletionCode.success.toU8, bitmap⟩, ?_, ?_⟩
  · apply Answers.withRequest decoded
    apply Answers.ofContext
    exact Answers.built hbitmap (encode_answers rfl room)
  · have hcount : (context.getSupportedTypes 6).length ≤ 6 :=
      ControlContext.length_collectTypes_le (Nat.zero_le _)
    rw [items_constructBitmap hbitmap, List.take_of_length_le (hcount.trans (by decide))]
    ext value
    exact ControlContext.mem_getSupportedTypes

/-- The commands are answered as the bitmap of the entry's commands that the cut-off leaves. -/
theorem getPldmCommandsRsp_answers {request : GetPldmCommandsRequest}
    {pldmType : PldmSupportedType} {cap : ProtocolCapability}
    (decoded : GetPldmCommandsRequest.decode payload = .ok request)
    (typed : request.pldmType = pldmType.toU8)
    (first : FirstAmong context.capabilities
      (ProtocolCapability.Describes pldmType request.protocolVersion) cap)
    (room : pldmFailureRespLen + pldmCmdsBitmapLen ≤ payload.length) :
    ∃ response : BitmapResponse pldmCmdsBitmapLen,
      Answers ControlContext.getPldmCommandsRsp ⟨context, payload⟩ response ∧
      Bitmap.items response.bitmap =
        { cmd | cmd ∈ cap.supportedCommands.take (pldmCmdsBitmapLen * 8) } := by
  obtain ⟨bitmap, hbitmap⟩ := constructBitmap_of_inside (commandBit_inside cap.supportedCommands)
  have hmember := first.mem
  have hversion : context.isSupportedVersion pldmType request.protocolVersion = true :=
    ControlContext.isSupportedVersion_iff.mpr ⟨cap, hmember, first.1⟩
  have htype : context.isSupportedType pldmType = true :=
    List.any_eq_true.mpr ⟨cap, hmember, beq_iff_eq.mpr first.1.1⟩
  refine ⟨⟨controlHeader request.hdr.instanceId .getPldmCommands,
    PldmBaseCompletionCode.success.toU8, bitmap⟩, ?_, items_constructBitmap hbitmap⟩
  apply Answers.withRequest decoded
  apply Answers.withSupportedType typed htype
  apply Answers.ofContext
  rw [hversion, Bool.not_true, if_neg Bool.false_ne_true]
  apply Answers.ofContext
  rw [ControlContext.getSupportedCommands_of_first first]
  exact Answers.built hbitmap (respond_answers rfl room)

end Answers

/-- A request for the commands of a version, with room for the answer behind it. -/
def commandsRequest (pldmType : PldmSupportedType) (protocolVersion : UInt32) : List UInt8 :=
  (PldmMsgHeader.new 0 .request .base PldmControlCmd.getPldmCommands.toU8).toBytes ++
    pldmType.toU8 :: u32Bytes protocolVersion ++ List.replicate 28 0

theorem decode_commandsRequest (pldmType : PldmSupportedType) (protocolVersion : UInt32) :
    GetPldmCommandsRequest.decode (commandsRequest pldmType protocolVersion) =
      .ok ⟨.new 0 .request .base PldmControlCmd.getPldmCommands.toU8, pldmType.toU8,
        protocolVersion⟩ := by
  have hword : (u32Bytes protocolVersion).length = 4 := length_leBytes _ _
  have htake (rest : List UInt8) : (u32Bytes protocolVersion ++ rest).take 4 =
      u32Bytes protocolVersion := List.take_left' hword
  simp [GetPldmCommandsRequest.decode, commandsRequest, Reader.decode, PldmMsgHeader.reader,
    PldmMsgHeader.toBytes, Decoder.u8, Decoder.u32, Reader.number, Reader.bytes, leValue,
    Reader.bind_apply, Reader.map_apply, Except.bind, Except.map, htake, hword]

def typesRequest : List UInt8 :=
  (PldmMsgHeader.new 0 .request .base PldmControlCmd.getPldmTypes.toU8).toBytes ++
    List.replicate 9 0

/-! ## Exactness -/

/-- A list of different codes is not cut off. -/
theorem take_of_nodup {commands : List UInt8} (distinct : commands.Nodup) :
    commands.take (pldmCmdsBitmapLen * 8) = commands := by
  have hall : commands ⊆ (List.range 256).map UInt8.ofNat := by
    intro cmd _
    exact List.mem_map.mpr ⟨cmd.toNat, List.mem_range.mpr cmd.toNat_lt, UInt8.ofNat_toNat⟩
  have hcount := (List.subperm_of_subset distinct hall).length_le
  rw [List.length_map, List.length_range] at hcount
  exact List.take_of_length_le hcount

/-- Of every table with no command twice in an entry, a type has its bit in the answer
exactly when it has an entry, and a command exactly when it is in the first entry of its
type and version. No table leads past the end of a bitmap. -/
theorem bitmaps_exact {context : ControlContext}
    (distinct : ∀ cap ∈ context.capabilities, cap.supportedCommands.Nodup) :
    (∀ payload request, GetPldmTypeRequest.decode payload = .ok request →
      pldmFailureRespLen + pldmTypesBitmapLen ≤ payload.length →
      ∃ response : BitmapResponse pldmTypesBitmapLen,
        Answers ControlContext.getPldmTypesRsp ⟨context, payload⟩ response ∧
        ∀ value, isBitSet response.bitmap.toList value = .ok true ↔
          ∃ cap ∈ context.capabilities, cap.pldmType.toU8 = value) ∧
    (∀ payload request pldmType cap, GetPldmCommandsRequest.decode payload = .ok request →
      request.pldmType = PldmSupportedType.toU8 pldmType →
      FirstAmong context.capabilities
        (ProtocolCapability.Describes pldmType request.protocolVersion) cap →
      pldmFailureRespLen + pldmCmdsBitmapLen ≤ payload.length →
      ∃ response : BitmapResponse pldmCmdsBitmapLen,
        Answers ControlContext.getPldmCommandsRsp ⟨context, payload⟩ response ∧
        ∀ cmd, isBitSet response.bitmap.toList cmd = .ok true ↔ cmd ∈ cap.supportedCommands) ∧
    constructBitmap pldmTypesBitmapLen (context.getSupportedTypes 6) ≠ .panic ∧
    ∀ cap ∈ context.capabilities,
      constructBitmap pldmCmdsBitmapLen cap.supportedCommands ≠ .panic := by
  refine ⟨?_, ?_, ?_, ?_⟩
  · intro payload request decoded room
    obtain ⟨response, answers, hitems⟩ := @getPldmTypesRsp_answers context _ _ decoded room
    refine ⟨response, answers, fun value => ?_⟩
    rw [isBitSet_eq_ok_true_iff, hitems, Set.mem_ofPred_eq]
  · intro payload request pldmType cap decoded typed first room
    obtain ⟨response, answers, hitems⟩ := getPldmCommandsRsp_answers decoded typed first room
    refine ⟨response, answers, fun cmd => ?_⟩
    rw [isBitSet_eq_ok_true_iff, hitems, Set.mem_ofPred_eq, take_of_nodup (distinct cap first.mem)]
  · obtain ⟨bitmap, hbitmap⟩ := constructBitmap_of_inside (typeBit_inside context)
    rw [hbitmap]
    rintro ⟨⟩
  · intro cap _
    obtain ⟨bitmap, hbitmap⟩ := constructBitmap_of_inside (commandBit_inside cap.supportedCommands)
    rw [hbitmap]
    rintro ⟨⟩

/-- Two versions of a type, of which the later entry lists a command more. -/
def twoVersions : List ProtocolCapability :=
  [⟨.fwUpdate, 0xF1F3F000, [FwUpdateCmd.requestUpdate.toU8]⟩,
    ⟨.fwUpdate, 0xF1F2F000, [FwUpdateCmd.requestUpdate.toU8, FwUpdateCmd.getStatus.toU8]⟩]

theorem first_twoVersions : FirstAmong twoVersions
    (ProtocolCapability.Describes .fwUpdate 0xF1F2F000)
    ⟨.fwUpdate, 0xF1F2F000, [FwUpdateCmd.requestUpdate.toU8, FwUpdateCmd.getStatus.toU8]⟩ := by
  refine ⟨⟨rfl, rfl⟩, [⟨.fwUpdate, 0xF1F3F000, [FwUpdateCmd.requestUpdate.toU8]⟩], [], rfl, ?_⟩
  intro other member both
  obtain rfl := List.mem_singleton.mp member
  exact absurd both.2 (by decide)

/-- The types of the two-version table are answered without a second bit for the repeated
type, and the commands of its later version from its later entry. -/
theorem bitmaps_exact_twoVersions :
    (∃ response : BitmapResponse pldmTypesBitmapLen,
      Answers ControlContext.getPldmTypesRsp ⟨.new twoVersions, typesRequest⟩ response ∧
      isBitSet response.bitmap.toList PldmSupportedType.fwUpdate.toU8 = .ok true ∧
      isBitSet response.bitmap.toList PldmSupportedType.base.toU8 ≠ .ok true) ∧
    ∃ response : BitmapResponse pldmCmdsBitmapLen,
      Answers ControlContext.getPldmCommandsRsp
        ⟨.new twoVersions, commandsRequest .fwUpdate 0xF1F2F000⟩ response ∧
      isBitSet response.bitmap.toList FwUpdateCmd.getStatus.toU8 = .ok true := by
  have hdistinct : ∀ cap ∈ (ControlContext.new twoVersions).capabilities,
      cap.supportedCommands.Nodup := by decide
  refine ⟨?_, ?_⟩
  · obtain ⟨response, answers, hbits⟩ := (bitmaps_exact hdistinct).1
      typesRequest _ rfl (by decide)
    exact ⟨response, answers, (hbits _).mpr (by decide), (hbits _).not.mpr (by decide)⟩
  · obtain ⟨response, answers, hbits⟩ := (bitmaps_exact hdistinct).2.1 _ _ .fwUpdate _
      (decode_commandsRequest .fwUpdate _) rfl first_twoVersions (by decide)
    exact ⟨response, answers, (hbits _).mpr (by decide)⟩

/-! ## What is advertised and what is let through -/

/-- The commands of a version of a type that a request for them finds in the answer. -/
def Advertised (context : ControlContext) (pldmType : PldmSupportedType)
    (protocolVersion : UInt32) (cmd : UInt8) : Prop :=
  ∃ payload request, ∃ response : BitmapResponse pldmCmdsBitmapLen,
    GetPldmCommandsRequest.decode payload = .ok request ∧
    request.pldmType = pldmType.toU8 ∧ request.protocolVersion = protocolVersion ∧
    pldmFailureRespLen + pldmCmdsBitmapLen ≤ payload.length ∧
    Answers ControlContext.getPldmCommandsRsp ⟨context, payload⟩ response ∧
    isBitSet response.bitmap.toList cmd = .ok true

/-- A well-formed request for a command of a type. -/
def RequestFor (pldmType : PldmSupportedType) (cmd : UInt8) (payload : List UInt8) : Prop :=
  ∃ request, PldmMsgHeader.decode payload = .ok request ∧ request.isRequest = true ∧
    request.isHdrVerValid = true ∧ request.pldmType = pldmType.toU8 ∧ request.cmdCode = cmd

/-- Commands that are advertised for a listed version are let through, and those that are
let through are advertised for some version. -/
structure Agrees (context : ControlContext) (pldmType : PldmSupportedType) : Prop where
  accepted : ∀ protocolVersion, context.isSupportedVersion pldmType protocolVersion = true →
    ∀ cmd, Advertised context pldmType protocolVersion cmd →
      ∀ payload, RequestFor pldmType cmd payload →
        CmdInterface.preprocessRequest context payload = .ok (pldmType, cmd)
  advertised : ∀ payload cmd,
    CmdInterface.preprocessRequest context payload = .ok (pldmType, cmd) →
      ∃ protocolVersion, context.isSupportedVersion pldmType protocolVersion = true ∧
        Advertised context pldmType protocolVersion cmd

/-- The commands of an entry that fit a bitmap, which are all of them if none is listed
twice. -/
def ProtocolCapability.fittingCommands (cap : ProtocolCapability) : List UInt8 :=
  cap.supportedCommands.take (pldmCmdsBitmapLen * 8)

/-- The first entry of a type lists what the first entry of any version fits into a bitmap,
and lists nothing that does not fit for some version. -/
structure Uniform (caps : List ProtocolCapability) (pldmType : PldmSupportedType) : Prop where
  covers : ∀ first cap protocolVersion, FirstAmong caps (·.pldmType = pldmType) first →
    FirstAmong caps (ProtocolCapability.Describes pldmType protocolVersion) cap →
    cap.fittingCommands ⊆ first.supportedCommands
  covered : ∀ first, FirstAmong caps (·.pldmType = pldmType) first →
    ∀ cmd ∈ first.supportedCommands, ∃ protocolVersion cap,
      FirstAmong caps (ProtocolCapability.Describes pldmType protocolVersion) cap ∧
      cmd ∈ cap.fittingCommands

section Agreement

variable {context : ControlContext} {pldmType : PldmSupportedType} {protocolVersion : UInt32}
  {cmd : UInt8}

theorem exists_requestFor (pldmType : PldmSupportedType) (cmd : UInt8) :
    ∃ payload, RequestFor pldmType cmd payload := by
  have hrequest : (PldmMsgHeader.new 0 .request pldmType 0).isRequest = true := by
    cases pldmType <;> decide
  have hversion : (PldmMsgHeader.new 0 .request pldmType 0).isHdrVerValid = true := by
    cases pldmType <;> decide
  have htype : (PldmMsgHeader.new 0 .request pldmType 0).pldmType = pldmType.toU8 := by
    cases pldmType <;> decide
  exact ⟨(PldmMsgHeader.new 0 .request pldmType cmd).toBytes, _,
    PldmMsgHeader.decode_cons _ _ _ _, hrequest, hversion, htype, rfl⟩

/-- The answer advertises what the first entry of the version fits into the bitmap. -/
theorem advertised_iff {cap : ProtocolCapability}
    (first : FirstAmong context.capabilities
      (ProtocolCapability.Describes pldmType protocolVersion) cap) :
    Advertised context pldmType protocolVersion cmd ↔ cmd ∈ cap.fittingCommands := by
  constructor
  · rintro ⟨payload, request, response, decoded, typed, rfl, room, answers, set⟩
    obtain ⟨other, same, hitems⟩ := getPldmCommandsRsp_answers decoded typed first room
    rw [isBitSet_eq_ok_true_iff, answers.bitmap_unique same, hitems] at set
    exact set
  · intro fits
    have hlength : (commandsRequest pldmType protocolVersion).length =
        pldmFailureRespLen + pldmCmdsBitmapLen := by
      simp [commandsRequest, PldmMsgHeader.toBytes, u32Bytes, pldmFailureRespLen,
        pldmCmdsBitmapLen]
    obtain ⟨response, answers, hitems⟩ :=
      getPldmCommandsRsp_answers
        (decode_commandsRequest pldmType protocolVersion) rfl first hlength.ge
    refine ⟨_, _, response, decode_commandsRequest _ _, rfl, rfl, hlength.ge, answers, ?_⟩
    rw [isBitSet_eq_ok_true_iff, hitems]
    exact fits

theorem preprocessRequest_requestFor {payload : List UInt8}
    (asked : RequestFor pldmType cmd payload) :
    CmdInterface.preprocessRequest context payload = .ok (pldmType, cmd) ↔
      context.isSupportedCommand pldmType cmd = true :=
  preprocessRequest_eq_ok_iff.trans ⟨fun passes => passes.listed, fun listed => ⟨asked, listed⟩⟩

/-- What is advertised and what is let through agree exactly for the uniform tables. -/
theorem agrees_iff_uniform (context : ControlContext) (pldmType : PldmSupportedType) :
    Agrees context pldmType ↔ Uniform context.capabilities pldmType := by
  constructor
  · intro agrees
    refine ⟨?_, ?_⟩
    · intro first cap protocolVersion hfirst hversion cmd fits
      obtain ⟨payload, asked⟩ := exists_requestFor pldmType cmd
      have hlisted := ControlContext.isSupportedVersion_iff.mpr ⟨cap, hversion.mem, hversion.1⟩
      have hpassed := agrees.accepted protocolVersion hlisted cmd
        ((advertised_iff hversion).mpr fits) payload asked
      exact (ControlContext.isSupportedCommand_of_first hfirst).mp
        ((preprocessRequest_requestFor asked).mp hpassed)
    · intro first hfirst cmd member
      obtain ⟨payload, asked⟩ := exists_requestFor pldmType cmd
      have hpassed := (preprocessRequest_requestFor asked).mpr
        ((ControlContext.isSupportedCommand_of_first hfirst).mpr member)
      obtain ⟨protocolVersion, hlisted, advertised⟩ := agrees.advertised payload cmd hpassed
      obtain ⟨cap, hversion⟩ := exists_first (ControlContext.isSupportedVersion_iff.mp hlisted)
      exact ⟨protocolVersion, cap, hversion, (advertised_iff hversion).mp advertised⟩
  · intro uniform
    refine ⟨?_, ?_⟩
    · intro protocolVersion listed cmd advertised payload asked
      obtain ⟨cap, hversion⟩ := exists_first (ControlContext.isSupportedVersion_iff.mp listed)
      obtain ⟨first, hfirst⟩ : ∃ first, FirstAmong context.capabilities
          (·.pldmType = pldmType) first := exists_first ⟨cap, hversion.mem, hversion.1.1⟩
      have hmember := uniform.covers first cap protocolVersion hfirst hversion
        ((advertised_iff hversion).mp advertised)
      exact (preprocessRequest_requestFor asked).mpr
        ((ControlContext.isSupportedCommand_of_first hfirst).mpr hmember)
    · intro payload cmd passed
      have hlisted := (preprocessRequest_eq_ok_iff.mp passed).listed
      obtain ⟨other, member, named⟩ :=
        List.any_eq_true.mp (ControlContext.isSupportedType_of_command hlisted)
      obtain ⟨first, hfirst⟩ : ∃ first, FirstAmong context.capabilities
          (·.pldmType = pldmType) first := exists_first ⟨other, member, beq_iff_eq.mp named⟩
      obtain ⟨protocolVersion, cap, hversion, fits⟩ := uniform.covered first hfirst cmd
        ((ControlContext.isSupportedCommand_of_first hfirst).mp hlisted)
      exact ⟨protocolVersion,
        ControlContext.isSupportedVersion_iff.mpr ⟨cap, hversion.mem, hversion.1⟩,
        (advertised_iff hversion).mpr fits⟩

end Agreement

/-- One entry that lists a command behind 256 others. -/
def overfull : List ProtocolCapability :=
  [⟨.base, 0xF1F1F000, List.replicate 256 PldmControlCmd.getTid.toU8 ++
    [PldmControlCmd.getPldmTypes.toU8]⟩]

theorem advertised_not_accepted :
    Advertised (.new twoVersions) .fwUpdate 0xF1F2F000 FwUpdateCmd.getStatus.toU8 ∧
    CmdInterface.preprocessRequest (.new twoVersions)
      (PldmMsgHeader.new 0 .request .fwUpdate FwUpdateCmd.getStatus.toU8).toBytes =
        .error PldmBaseCompletionCode.unsupportedPldmCmd.toU8 ∧
    ¬ Agrees (.new twoVersions) .fwUpdate ∧ ¬ Agrees (.new overfull) .base := by
  have hadvertised : Advertised (.new twoVersions) .fwUpdate 0xF1F2F000
      FwUpdateCmd.getStatus.toU8 := (advertised_iff first_twoVersions).mpr (by decide)
  refine ⟨hadvertised, by decide, ?_, ?_⟩
  · intro agrees
    obtain ⟨payload, asked⟩ := exists_requestFor .fwUpdate FwUpdateCmd.getStatus.toU8
    have hpassed := agrees.accepted 0xF1F2F000 (by decide) _ hadvertised payload asked
    have hlisted := (preprocessRequest_requestFor asked).mp hpassed
    exact absurd hlisted (by decide)
  · intro agrees
    obtain ⟨payload, asked⟩ := exists_requestFor .base PldmControlCmd.getPldmTypes.toU8
    have hpassed := (@preprocessRequest_requestFor (.new overfull) _ _ _ asked).mpr
      (by decide +kernel)
    obtain ⟨protocolVersion, listed, advertised⟩ := agrees.advertised payload _ hpassed
    obtain ⟨cap, hfirst⟩ := exists_first (ControlContext.isSupportedVersion_iff.mp listed)
    have hfits := (advertised_iff hfirst).mp advertised
    obtain rfl := List.mem_singleton.mp hfirst.mem
    exact absurd hfits (by decide +kernel)

end PldmLib.Interface
