/-
# The range of a download

The platform decides which range of the image to ask for, and the device checks
it against the size that the agent announced. The check is made in 32 bits, on
values that were cut down to 32 bits: it is the check one would make over the
natural numbers as long as nothing is lost on the way. A range that passed is
remembered, and what the agent sends for it goes to the offset remembered.
-/

import PldmLib.FirmwareDevice.UpdateOrder

namespace PldmLib.FirmwareDevice

open PldmLib.Machine PldmLib.Protocol PldmLib.Message

/-! ## The check -/

/-- The size of the image of the active component, as the agent announced it. -/
def FdInternal.imageSize (internal : FdInternal) : ℕ :=
  (internal.updateComp.compImageSize.getD 0).toNat

/-- A range inside the padded image. -/
def InsideImage (size offset length : ℕ) : Prop :=
  offset ≤ size ∧ offset + length ≤ size + pldmFwupMaxPaddingSize

instance (size offset length : ℕ) : Decidable (InsideImage size offset length) :=
  inferInstanceAs (Decidable (_ ∧ _))

/-- The additions of the check stay below `2 ^ 32`. They are made for an offset
inside the image only. -/
def ChecksWithoutOverflow (size offset length : ℕ) : Prop :=
  offset ≤ size →
    offset + length < UInt32.size ∧ size + pldmFwupMaxPaddingSize < UInt32.size

section Check

variable {internal : FdInternal} {offset length : UInt32}

theorem toNat_add_of_lt {first second : UInt32}
    (fits : first.toNat + second.toNat < UInt32.size) :
    (first + second).toNat = first.toNat + second.toNat := by
  rw [UInt32.toNat_add]
  exact Nat.mod_eq_of_lt fits

theorem Profile.addU32_of_lt {ε : Type*} (profile : Profile) {first second : UInt32}
    (fits : first.toNat + second.toNat < UInt32.size) :
    (profile.addU32 first second : Outcome ε UInt32) = .ok (first + second) := by
  cases profile with
  | debug => simp only [addU32, fits, ↓reduceIte]
  | release => rfl

/-- Without an overflow the check is exact. -/
theorem getFdDownloadChunk_of_fits (ε : Type*) (profile : Profile)
    (state : internal.state = .download)
    (fits : ChecksWithoutOverflow internal.imageSize offset.toNat length.toNat) :
    (internal.getFdDownloadChunk profile offset length : Outcome ε _) =
      .ok (if InsideImage internal.imageSize offset.toNat length.toNat then
        some (offset, min length internal.maxXferSize) else none) := by
  simp only [FdInternal.getFdDownloadChunk, state, ne_eq, not_true_eq_false, ↓reduceIte]
  by_cases beyond : offset > internal.updateComp.compImageSize.getD 0
  · have houtside : ¬ offset.toNat ≤ internal.imageSize :=
      Nat.not_le.mpr (UInt32.lt_iff_toNat_lt.mp beyond)
    simp only [beyond, ↓reduceIte, InsideImage, houtside, false_and]
  · have hoffset : offset.toNat ≤ internal.imageSize :=
      Nat.not_lt.mp fun lt => beyond (UInt32.lt_iff_toNat_lt.mpr lt)
    obtain ⟨hend, hlimit⟩ := fits hoffset
    have hpadding : (UInt32.ofNat pldmFwupMaxPaddingSize).toNat = pldmFwupMaxPaddingSize := rfl
    have hlimit' : (internal.updateComp.compImageSize.getD 0).toNat +
        (UInt32.ofNat pldmFwupMaxPaddingSize).toNat < UInt32.size := hlimit
    rw [if_neg beyond, profile.addU32_of_lt hend, profile.addU32_of_lt hlimit']
    simp only [Outcome.ok_bind, Outcome.pure_eq]
    have hcompare : (offset + length >
        internal.updateComp.compImageSize.getD 0 + UInt32.ofNat pldmFwupMaxPaddingSize) ↔
        ¬ offset.toNat + length.toNat ≤ internal.imageSize + pldmFwupMaxPaddingSize := by
      rw [gt_iff_lt, UInt32.lt_iff_toNat_lt, toNat_add_of_lt hend, toNat_add_of_lt hlimit',
        hpadding, Nat.not_le]
      rfl
    by_cases inside : offset.toNat + length.toNat ≤ internal.imageSize + pldmFwupMaxPaddingSize
    · simp only [hcompare, inside, not_true_eq_false, ↓reduceIte, InsideImage, hoffset, and_self]
    · simp only [hcompare, inside, not_false_eq_true, ↓reduceIte, InsideImage, and_false]

/-- A debug build notices an overflow of the check. -/
theorem getFdDownloadChunk_debug_ne_panic (state : internal.state = .download)
    (offset length : UInt32) :
    (internal.getFdDownloadChunk .debug offset length : Outcome MsgHandlerError _) ≠ .panic ↔
      ChecksWithoutOverflow internal.imageSize offset.toNat length.toNat := by
  constructor
  · intro live inside
    have hbeyond : ¬ offset > internal.updateComp.compImageSize.getD 0 :=
      fun beyond => absurd (UInt32.lt_iff_toNat_lt.mp beyond) (Nat.not_lt.mpr inside)
    simp only [FdInternal.getFdDownloadChunk, state, ne_eq, not_true_eq_false, ↓reduceIte,
      hbeyond, Profile.addU32] at live
    by_cases hend : offset.toNat + length.toNat < UInt32.size
    · by_cases hlimit : internal.imageSize + pldmFwupMaxPaddingSize < UInt32.size
      · exact ⟨hend, hlimit⟩
      · have hlimit' : ¬ (internal.updateComp.compImageSize.getD 0).toNat +
            (UInt32.ofNat pldmFwupMaxPaddingSize).toNat < UInt32.size := hlimit
        simp only [hend, hlimit', ↓reduceIte, Outcome.ok_bind, Outcome.panic_bind,
          not_true_eq_false] at live
    · simp only [hend, ↓reduceIte, Outcome.panic_bind, not_true_eq_false] at live
  · intro fits
    rw [getFdDownloadChunk_of_fits _ .debug state fits]
    simp

/-- A release build wraps around, and goes on. -/
theorem getFdDownloadChunk_release_ne_panic (state : internal.state = .download)
    (offset length : UInt32) :
    (internal.getFdDownloadChunk .release offset length : Outcome MsgHandlerError _) ≠ .panic := by
  simp only [FdInternal.getFdDownloadChunk, state, ne_eq, not_true_eq_false, ↓reduceIte,
    Profile.addU32, Outcome.ok_bind]
  split
  · rintro ⟨⟩
  · split <;> rintro ⟨⟩

end Check

theorem FdInternal.imageSize_lt (internal : FdInternal) : internal.imageSize < UInt32.size :=
  (internal.updateComp.compImageSize.getD 0).toNat_lt_size

/-- The check of a range is none the worse for being made in 32 bits: its sums fit,
and a range that had to be cut down is refused anyway. -/
structure SurvivesNarrowing (size offset length : ℕ) : Prop where
  fits : ChecksWithoutOverflow size (offset % UInt32.size) (length % UInt32.size)
  cut : offset < UInt32.size ∧ length < UInt32.size ∨
    ¬ InsideImage size (offset % UInt32.size) (length % UInt32.size)

/-- That is what it takes for the check in 32 bits to have the right answer. -/
theorem survivesNarrowing_iff {size offset length : ℕ} (small : size < UInt32.size) :
    SurvivesNarrowing size offset length ↔
      ChecksWithoutOverflow size (offset % UInt32.size) (length % UInt32.size) ∧
        (InsideImage size (offset % UInt32.size) (length % UInt32.size) ↔
          InsideImage size offset length) := by
  constructor
  · rintro ⟨fits, ⟨hoffset, hlength⟩ | outside⟩
    · refine ⟨fits, ?_⟩
      rw [Nat.mod_eq_of_lt hoffset, Nat.mod_eq_of_lt hlength]
    · refine ⟨fits, iff_of_false outside ?_⟩
      rintro ⟨hoffset, hend⟩
      have hsame : offset % UInt32.size = offset := Nat.mod_eq_of_lt (by omega)
      rw [hsame] at fits outside
      obtain ⟨_, hlimit⟩ := fits hoffset
      rw [Nat.mod_eq_of_lt (show length < UInt32.size by omega)] at outside
      exact outside ⟨hoffset, hend⟩
  · rintro ⟨fits, exactly⟩
    refine ⟨fits, ?_⟩
    by_cases inside : InsideImage size (offset % UInt32.size) (length % UInt32.size)
    · left
      obtain ⟨hoffset, hend⟩ := exactly.mp inside
      obtain ⟨_, hlimit⟩ := fits inside.1
      omega
    · exact .inr inside

/-! ## Asking for data -/

section Steps

variable {profile : Profile} {pre : FdInternal} {input : FdInput} {output : FdOutput}
  {sent : Option FdRequest}

/-- What a poll does about the range that the platform asks for. -/
inductive AskStep (profile : Profile) (pre : FdInternal) (payload : List UInt8)
    (range : ℕ × ℕ) : Outcome MsgHandlerError Returned → FdInternal → Option FdRequest → Prop
  | refused {post : FdInternal}
      (outside : pre.getFdDownloadChunk profile (UInt32.ofNat range.1) (UInt32.ofNat range.2) =
        (.ok none : Outcome MsgHandlerError _)) :
      AskStep profile pre payload range (.err .fdInitiatorModeError) post none
  | overflowed {post : FdInternal}
      (overflow : pre.getFdDownloadChunk profile (UInt32.ofNat range.1)
        (UInt32.ofNat range.2) = (.panic : Outcome MsgHandlerError _)) :
      AskStep profile pre payload range .panic post none
  | unsent {post : FdInternal} {offset length : UInt32}
      (inside : pre.getFdDownloadChunk profile (UInt32.ofNat range.1) (UInt32.ofNat range.2) =
        (.ok (some (offset, length)) : Outcome MsgHandlerError _))
      (short : payload.length < 11) :
      AskStep profile pre payload range (.err (.codec .bufferTooShort)) post none
  | served {post : FdInternal} {offset length : UInt32}
      (inside : pre.getFdDownloadChunk profile (UInt32.ofNat range.1) (UInt32.ofNat range.2) =
        (.ok (some (offset, length)) : Outcome MsgHandlerError _))
      (room : 11 ≤ payload.length)
      (stored : post.initiatorModeState = .download offset length) :
      AskStep profile pre payload range (.ok (.length 11)) post
        (some (.requestFirmwareData (pre.nextInstanceId % 32) offset.toNat length.toNat))

/-- Where the platform is asked for a range. -/
theorem FdStep.of_query (coherent : Coherent pre) (step : FdStep profile pre input output sent)
    {component : FirmwareComponent} {range : ℕ × ℕ}
    (member : .queryDownloadOffsetAndLength component (.ok range) ∈ works output.log) :
    ∃ payload, input.operation = .fdProgress payload ∧ pre.state = .download ∧
      Kept pre output.internal ∧
      AskStep profile pre payload range output.outcome output.internal sent := by
  cases step with
  | request step =>
      rcases step.works_eq with hnone | ⟨_, _, _, _, hcancel⟩
      · simp [hnone] at member
      · simp [hcancel] at member
  | @poll payload final ops outcome post log sent step =>
      have hkept := step.kept
      have hkind (kind : OperationKind)
          (worked : works log = [kind.callback ops pre.updateComp]) : False := by
        dsimp only at member
        rw [worked] at member
        cases kind <;> simp [OperationKind.callback] at member
      cases step with
      | rangeRefused state passed complete asked outside =>
          simp [works_cons, Callback.isWork] at member
          obtain ⟨rfl, rfl⟩ := member
          exact ⟨payload, rfl, state, hkept, .refused outside⟩
      | rangeOverflowed state passed complete asked overflowed =>
          simp [works_cons, Callback.isWork] at member
          obtain ⟨rfl, rfl⟩ := member
          exact ⟨payload, rfl, state, hkept, .overflowed overflowed⟩
      | dataUnsent state passed complete asked inside short =>
          simp [works_cons, Callback.isWork] at member
          obtain ⟨rfl, rfl⟩ := member
          exact ⟨payload, rfl, state, hkept, .unsent inside short⟩
      | dataRequested state passed complete asked inside room =>
          simp [works_cons, Callback.isWork] at member
          obtain ⟨rfl, rfl⟩ := member
          obtain ⟨oldOffset, oldLength, hmode⟩ := coherent.downloads state
          exact ⟨payload, rfl, state, hkept, .served inside room (by
            simp [FdInternal.setFdDownloadState, hmode])⟩
      | @operationFailed kind => exact (hkind kind (by simp [works_cons])).elim
      | @operationPending kind => exact (hkind kind (by simp [works_cons])).elim
      | @operationUnsent kind => exact (hkind kind (by simp [works_cons])).elim
      | @operationReported kind => exact (hkind kind (by simp [works_cons])).elim
      | _ => simp [works_cons, Callback.isWork] at member
  | response step =>
      rcases step.works_eq _ member with ⟨_, _, _, hother⟩ | ⟨_, hother⟩ <;> cases hother
  | touch => simp [works_cons] at member
  | query reads => simp at member

/-- A request for data follows the question for its range. -/
theorem FdStep.queries_of_sent (step : FdStep profile pre input output sent) {id : UInt8}
    {offset length : ℕ} (sends : sent = some (.requestFirmwareData id offset length)) :
    ∃ range, .queryDownloadOffsetAndLength pre.updateComp (.ok range) ∈ works output.log := by
  cases step with
  | poll step =>
      cases step with
      | @dataRequested range => exact ⟨range, by simp [works_cons, Callback.isWork]⟩
      | _ => cases sends
  | _ => cases sends

/-- Where data is handed to the platform. -/
theorem FdStep.of_downloadFwData (step : FdStep profile pre input output sent) {offset : ℕ}
    {data : List UInt8} {component : FirmwareComponent} {result : Except FdOpsError TransferResult}
    (member : .downloadFwData offset data component result ∈ works output.log) :
    ∃ payload start, input.operation = .handleResponse payload ∧
      accepts pre.req payload = true ∧ Delivery payload pre start data ∧
      offset = start.toNat ∧ component = pre.updateComp := by
  cases step with
  | request step =>
      rcases step.works_eq with hnone | ⟨_, _, _, _, hcancel⟩
      · simp [hnone] at member
      · simp [hcancel] at member
  | poll step =>
      rcases step.works_eq with hnone | ⟨_, _, _, _, _, hcancel⟩ | ⟨_, _, _, _, _, hquery⟩ |
        ⟨kind, _, _, _, hcallback⟩
      · simp [hnone] at member
      · simp [hcancel] at member
      · simp [hquery] at member
      · cases kind <;> simp [hcallback, OperationKind.callback] at member
  | @response payload _ _ _ _ _ step =>
      cases step with
      | dataRefused accepted delivery =>
          simp [works_cons, Callback.isWork] at member
          obtain ⟨rfl, rfl, rfl, _⟩ := member
          exact ⟨payload, _, rfl, accepted, delivery, rfl, rfl⟩
      | dataRejected accepted delivery =>
          simp [works_cons, Callback.isWork] at member
          obtain ⟨rfl, rfl, rfl, _⟩ := member
          exact ⟨payload, _, rfl, accepted, delivery, rfl, rfl⟩
      | dataStored accepted delivery =>
          simp [works_cons, Callback.isWork] at member
          obtain ⟨rfl, rfl, rfl, _⟩ := member
          exact ⟨payload, _, rfl, accepted, delivery, rfl, rfl⟩
      | dataCompleted accepted delivery =>
          simp [works_cons, Callback.isWork] at member
          obtain ⟨rfl, rfl, rfl, _⟩ := member
          exact ⟨payload, _, rfl, accepted, delivery, rfl, rfl⟩
      | _ => simp [works_cons, Callback.isWork] at member
  | touch => simp [works_cons] at member
  | query reads => simp at member

/-! ## The request that is remembered -/

/-- The request slot waits for data. -/
structure AwaitsData (internal : FdInternal) : Prop where
  state : internal.state = .download
  sent : internal.req.state = .sent
  incomplete : internal.req.complete = false

/-- The call asks the agent for data. -/
def SendsDataRequest (event : FdEvent) : Prop :=
  ∃ id offset length, event.sent = some (.requestFirmwareData id offset length)

/-- `asked` is the last call of a run that asked the agent for data. -/
def LastDataRequest (events : List FdEvent) (asked : FdEvent) : Prop :=
  ∃ earlier since, events = earlier ++ asked :: since ∧ SendsDataRequest asked ∧
    ∀ event ∈ since, ¬ SendsDataRequest event

/-- What a device that waits for data remembers of its request. -/
structure Remembers (events : List FdEvent) (internal : FdInternal) (asked : FdEvent)
    (offset length : UInt32) : Prop where
  last : LastDataRequest events asked
  request : ∃ id, asked.sent = some (.requestFirmwareData id offset.toNat length.toNat)
  stored : internal.initiatorModeState = .download offset length
  updateComp : internal.updateComp = asked.before.updateComp
  maxXferSize : internal.maxXferSize = asked.before.maxXferSize

/-- A call that leaves the slot and the operation alone, where the device waits for
data afterwards. -/
structure StillAwaits (pre post : FdInternal) : Prop where
  awaits : AwaitsData pre
  initiatorModeState : post.initiatorModeState = pre.initiatorModeState
  updateComp : post.updateComp = pre.updateComp
  maxXferSize : post.maxXferSize = pre.maxXferSize

namespace StillAwaits

variable {post : FdInternal}

theorem of_touched {log : List Invocation} (touched : Touched log pre post)
    (awaits : AwaitsData post) : StillAwaits pre post where
  awaits := ⟨touched.state ▸ awaits.state, touched.req ▸ awaits.sent,
    touched.req ▸ awaits.incomplete⟩
  initiatorModeState := touched.initiatorModeState
  updateComp := touched.updateComp
  maxXferSize := touched.maxXferSize

/-- Taking an ID is not sending a request. -/
theorem of_alloc (awaits : AwaitsData pre.allocNextInstanceId) :
    StillAwaits pre pre.allocNextInstanceId where
  awaits := ⟨awaits.state, awaits.sent, awaits.incomplete⟩
  initiatorModeState := rfl
  updateComp := rfl
  maxXferSize := rfl

theorem request {ops : FdOps} {payload : List UInt8} {handler : Handler}
    {outcome : Outcome MsgHandlerError ℕ} {log : List Invocation}
    (step : RequestStep ops payload pre handler outcome post log) (awaits : AwaitsData post) :
    StillAwaits pre post := by
  have hoperates : post.state.isInitiator = true := by
    rw [awaits.state]
    rfl
  rcases step.of_operating hoperates with touched | ⟨_, internal, rfl⟩
  · exact of_touched touched awaits
  · have hsent := awaits.sent
    rw [FdContext.enterDownload_req] at hsent
    cases hsent

theorem poll {profile : Profile} {ops : FdOps} {payload : List UInt8}
    {outcome : Outcome MsgHandlerError ℕ} {log : List Invocation}
    (step : PollStep profile ops payload pre outcome post log sent)
    (silence : ∀ id offset length, sent ≠ some (.requestFirmwareData id offset length))
    (awaits : AwaitsData post) : StillAwaits pre post := by
  have hkept := step.kept
  have hincomplete := awaits.incomplete
  have hstate := awaits.state
  have hkind (kind : OperationKind) (state : pre.state = kind.state)
      (same : post.state = pre.state) : False := by
    rw [same, state] at hstate
    cases kind <;> cases hstate
  cases step with
  | inactive => exact ⟨awaits, rfl, rfl, rfl⟩
  | timedOut => simp at hstate
  | timeoutRefused => exact ⟨awaits, rfl, rfl, rfl⟩
  | undue => exact ⟨awaits, rfl, rfl, rfl⟩
  | transferUnsent _ _ complete => exact absurd (complete.symm.trans hincomplete) nofun
  | transferUnknown _ _ complete => exact absurd (complete.symm.trans hincomplete) nofun
  | transferReported => cases hincomplete
  | rangeUnknown => exact of_alloc awaits
  | rangeRefused => exact of_alloc awaits
  | rangeOverflowed => exact of_alloc awaits
  | dataUnsent => exact of_alloc awaits
  | dataRequested => exact absurd rfl (silence _ _ _)
  | operationFailed state => exact (hkind _ state rfl).elim
  | operationPending state => exact (hkind _ state (by simp)).elim
  | operationUnsent state => exact (hkind _ state (by simp)).elim
  | operationReported => cases hincomplete
  | reportUnsent state => exact (hkind _ state rfl).elim
  | reportRepeated => cases hincomplete

theorem response {ops : FdOps} {payload : List UInt8} {outcome : Outcome MsgHandlerError PUnit}
    {log : List Invocation} (step : ResponseStep ops payload pre outcome post log)
    (awaits : AwaitsData post) : StillAwaits pre post := by
  have hstate := awaits.state
  have hsent := awaits.sent
  cases step with
  | ignored => exact ⟨awaits, rfl, rfl, rfl⟩
  | heard => exact ⟨⟨awaits.state, awaits.sent, awaits.incomplete⟩, rfl, rfl, rfl⟩
  | dataRefused => exact ⟨⟨awaits.state, awaits.sent, awaits.incomplete⟩, rfl, rfl, rfl⟩
  | acknowledged _ active => exact absurd hstate (advance_state_ne_download active)
  | _ => cases hsent

/-- A device that waits for data after a call that asked for none was waiting
before. -/
theorem step (step : FdStep profile pre input output sent)
    (silence : ∀ id offset length, sent ≠ some (.requestFirmwareData id offset length))
    (awaits : AwaitsData output.internal) : StillAwaits pre output.internal := by
  cases step with
  | request step => exact request step awaits
  | poll step => exact poll step silence awaits
  | response step => exact response step awaits
  | touch => exact ⟨⟨awaits.state, awaits.sent, awaits.incomplete⟩, rfl, rfl, rfl⟩
  | query => exact ⟨awaits, rfl, rfl, rfl⟩

end StillAwaits

/-- The step lemma: what is remembered is the request sent last. -/
theorem remembers_step {events : List FdEvent} (coherent : Coherent pre)
    (step : FdStep profile pre input output sent)
    (hands : sent = FdEvent.sent ⟨pre, input, output⟩)
    (remembers : AwaitsData pre → ∃ asked offset length, Remembers events pre asked offset length)
    (awaits : AwaitsData output.internal) :
    ∃ asked offset length, Remembers (events ++ [⟨pre, input, output⟩]) output.internal asked
      offset length := by
  by_cases sends : ∃ id offset length, sent = some (.requestFirmwareData id offset length)
  · obtain ⟨id, requestedOffset, requestedLength, hsent⟩ := sends
    obtain ⟨range, hquery⟩ := step.queries_of_sent hsent
    obtain ⟨payload, _, _, hkept, asks⟩ := step.of_query coherent hquery
    rw [hsent] at asks
    generalize output.outcome = outcome at asks
    cases asks with
    | @served _ offset length inside room stored =>
        refine ⟨⟨pre, input, output⟩, offset, length, ⟨events, [], rfl, ?_, by simp⟩, ?_, stored,
          hkept.updateComp, hkept.maxXferSize⟩
        · exact ⟨_, _, _, hands.symm.trans hsent⟩
        · exact ⟨_, hands.symm.trans hsent⟩
  · have hsilence : ∀ id offset length, sent ≠ some (.requestFirmwareData id offset length) :=
      fun id offset length same => sends ⟨id, offset, length, same⟩
    obtain ⟨hawaited, hmode, hcomp, hmax⟩ := StillAwaits.step step hsilence awaits
    obtain ⟨asked, offset, length, ⟨earlier, since, rfl, hasked, hsince⟩, hrequest, hstored,
      hsame, hcap⟩ := remembers hawaited
    refine ⟨asked, offset, length, ⟨earlier, since ++ [⟨pre, input, output⟩], by simp, hasked, ?_⟩,
      hrequest, hmode.trans hstored, hcomp.trans hsame, hmax.trans hcap⟩
    refine forall_mem_concat.mpr ⟨hsince, ?_⟩
    rintro ⟨id, offset, length, same⟩
    exact hsilence id offset length (hands.trans same)

/-- The run lemma. -/
theorem remembers_of_trace {profile : Profile} {events : List FdEvent} {state : FdInternal}
    (trace : FdTrace profile events state) (awaits : AwaitsData state) :
    ∃ asked offset length, Remembers events state asked offset length := by
  refine (FdRun.induct trace Coherent.init (fun events state => AwaitsData state →
    ∃ asked offset length, Remembers events state asked offset length) ?_ ?_).1 awaits
  · intro awaits
    cases awaits.state
  · intro events pre input output sent coherent remembers step _ hands awaits
    exact remembers_step coherent step hands remembers awaits

end Steps

/-! ## The transfer size -/

/-- The platform does not raise the agent's transfer size. -/
def FdOps.CapsTransferSize (ops : FdOps) : Prop :=
  ∀ offered granted, ops.getXferSize offered = .ok granted → granted ≤ offered

/-- The request that started the current update. -/
def StartedBy (events : List FdEvent) (request : RequestUpdateRequest) : Prop :=
  ∃ earlier start since payload, events = earlier ++ start :: since ∧
    start.input.operation = .request .requestUpdate payload ∧
    RequestUpdateRequest.decode payload = .ok request ∧
    start.before.state = .idle ∧ ∀ event ∈ start :: since, event.after.state ≠ .idle

/-- The transfer size of the device is within the agent's. -/
def WithinTransferSize (events : List FdEvent) (internal : FdInternal) : Prop :=
  internal.state ≠ .idle → ∃ request, StartedBy events request ∧
    internal.maxXferSize.toNat ≤ request.maxTransferSize.toNat

section TransferSize

variable {profile : Profile} {pre : FdInternal} {input : FdInput} {output : FdOutput}
  {sent : Option FdRequest}

/-- Within an update the transfer size stays. -/
theorem FdStep.maxXferSize (step : FdStep profile pre input output sent)
    (updating : pre.state ≠ .idle) : output.internal.maxXferSize = pre.maxXferSize := by
  cases step with
  | request step =>
      cases step with
      | quiet touched => exact touched.maxXferSize
      | sizeRecorded idle => exact absurd idle updating
      | updateStarted idle => exact absurd idle updating
      | tableComplete _ touched =>
          exact (Kept.setFdState _).maxXferSize.trans touched.maxXferSize
      | componentRecorded _ _ touched => exact touched.maxXferSize
      | componentAccepted => exact (Kept.setFdState _).maxXferSize
      | activated =>
          exact (Kept.setFdIdle _).maxXferSize.trans (Kept.setFdState _).maxXferSize
      | cancelRefused _ _ _ touched => exact touched.maxXferSize
      | cancelLost _ _ _ _ touched => exact touched.maxXferSize
      | componentCancelled => exact (Kept.setFdState _).maxXferSize
      | updateCancelled _ _ _ touched =>
          exact (Kept.setFdIdle _).maxXferSize.trans touched.maxXferSize
  | poll step => exact step.kept.maxXferSize
  | response step => exact step.kept.maxXferSize
  | touch => rfl
  | query => rfl

/-- An update starts with the transfer size that the platform grants. -/
theorem FdStep.of_idle (step : FdStep profile pre input output sent) (idle : pre.state = .idle)
    (leaves : output.internal.state ≠ .idle) :
    ∃ payload request granted, input.operation = .request .requestUpdate payload ∧
      RequestUpdateRequest.decode payload = .ok request ∧
      input.ops.getXferSize request.maxTransferSize.toNat = .ok granted ∧
      output.internal.maxXferSize = UInt32.ofNat granted := by
  have hpassive : pre.state.isInitiator = false := by
    rw [idle]
    rfl
  have htouched {log : List Invocation} {post : FdInternal} (touched : Touched log pre post)
      (left : post.state ≠ .idle) : False := left (touched.state.trans idle)
  cases step with
  | request step =>
      cases step with
      | quiet touched => exact (htouched touched leaves).elim
      | sizeRecorded _ touched => exact (htouched touched leaves).elim
      | updateStarted _ decoded sized =>
          exact ⟨_, _, _, rfl, decoded, sized, (Kept.setFdState _).maxXferSize⟩
      | tableComplete state => exact absurd (state.symm.trans idle) nofun
      | componentRecorded state => exact absurd (state.symm.trans idle) nofun
      | componentAccepted state => exact absurd (state.symm.trans idle) nofun
      | activated state => exact absurd (state.symm.trans idle) nofun
      | cancelRefused _ _ _ touched => exact (htouched touched leaves).elim
      | cancelLost _ _ _ _ touched => exact (htouched touched leaves).elim
      | componentCancelled effective => simp [isInitiator_of_shouldCancel effective] at hpassive
      | updateCancelled effective => simp [isInitiator_of_shouldCancel effective] at hpassive
  | poll step =>
      obtain ⟨_, rfl, _, _⟩ := step.of_passive hpassive
      exact absurd idle leaves
  | response step => exact (htouched (step.of_passive hpassive).1 leaves).elim
  | touch => exact absurd idle leaves
  | query => exact absurd idle leaves

/-- The step lemma. -/
theorem withinTransferSize_step {events : List FdEvent}
    (step : FdStep profile pre input output sent) (caps : input.ops.CapsTransferSize)
    (within : WithinTransferSize events pre) :
    WithinTransferSize (events ++ [⟨pre, input, output⟩]) output.internal := by
  intro updating
  by_cases idle : pre.state = .idle
  · obtain ⟨payload, request, granted, hoperation, decoded, sized, hsize⟩ :=
      step.of_idle idle updating
    refine ⟨request, ⟨events, _, [], payload, rfl, hoperation, decoded, idle, ?_⟩, ?_⟩
    · simpa [FdEvent.after] using updating
    · have hgranted : granted ≤ request.maxTransferSize.toNat := caps _ _ sized
      have hsmall : granted < UInt32.size :=
        Nat.lt_of_le_of_lt hgranted request.maxTransferSize.toNat_lt_size
      rw [hsize, UInt32.toNat_ofNat_of_lt' hsmall]
      exact hgranted
  · obtain ⟨request, ⟨earlier, start, since, payload, rfl, hoperation, decoded, hidle, hsince⟩,
      hsize⟩ := within idle
    refine ⟨request, ⟨earlier, start, since ++ [⟨pre, input, output⟩], payload, by simp,
      hoperation, decoded, hidle, ?_⟩, ?_⟩
    · intro event member
      rw [← List.cons_append, List.mem_append, List.mem_singleton] at member
      rcases member with among | rfl
      · exact hsince event among
      · exact updating
    · rw [step.maxXferSize idle]
      exact hsize

/-- The run lemma. -/
theorem withinTransferSize_of_trace {events : List FdEvent} {state : FdInternal}
    (trace : FdTrace profile events state)
    (caps : ∀ event ∈ events, event.input.ops.CapsTransferSize) :
    WithinTransferSize events state := by
  refine (FdRun.induct trace Coherent.init (fun events state =>
    (∀ event ∈ events, event.input.ops.CapsTransferSize) → WithinTransferSize events state)
    ?_ ?_).1 caps
  · intro _ updating
    exact absurd rfl updating
  · intro events pre input output sent _ ih step _ _ caps
    apply withinTransferSize_step step (caps ⟨pre, input, output⟩ (by simp))
    exact ih fun event member => caps event (by simp [member])

end TransferSize

/-! ## Every download stays inside the image -/

/-- The platform asks for a range in this call. -/
def AsksFor (event : FdEvent) (range : ℕ × ℕ) : Prop :=
  ∃ component, .queryDownloadOffsetAndLength component (.ok range) ∈ event.callbacks

/-- The size of the image is the one in the request that started the download. -/
def Announced (events : List FdEvent) (size : ℕ) : Prop :=
  ∃ start since payload request, Session events start since ∧
    start.input.operation = .request .updateComponent payload ∧
    UpdateComponentRequest.decode payload = .ok request ∧ request.compImageSize.toNat = size

/-- A range within all that was agreed on: it was asked for, it lies in the image
that was announced, and is no longer than the transfer size of the agent. -/
structure Agreed (before : List FdEvent) (event asked : FdEvent) (offset length : ℕ) : Prop where
  requested : ∃ range, AsksFor asked range ∧ offset = range.1
  announced : Announced before event.before.imageSize
  inside : InsideImage event.before.imageSize offset length
  capped : ∃ request, StartedBy before request ∧ length ≤ request.maxTransferSize.toNat

/-- The call asks the agent for the range, unless its buffer is too short. -/
def Serves (event : FdEvent) : Prop :=
  SendsDataRequest event ∨ event.output.outcome = .err (.codec .bufferTooShort) ∧
    ∃ payload, event.input.operation = .fdProgress payload ∧ payload.length < 11

/-- The call refuses the range. -/
def Refuses (event : FdEvent) : Prop :=
  event.output.outcome = .err .fdInitiatorModeError ∧ ¬ SendsDataRequest event

/-- The range that the platform asks for is checked without an overflow; it is
requested if it lies inside the image, and refused otherwise. -/
structure CheckedExactly (event : FdEvent) (range : ℕ × ℕ) : Prop where
  noOverflow : (event.before.getFdDownloadChunk .debug (UInt32.ofNat range.1)
    (UInt32.ofNat range.2) : Outcome MsgHandlerError _) ≠ .panic
  served : InsideImage event.before.imageSize range.1 range.2 → Serves event
  refused : ¬ InsideImage event.before.imageSize range.1 range.2 → Refuses event

/-- What the download promises of a call: of the range asked for, of the request
sent, and of the data stored. -/
structure StaysInside (before : List FdEvent) (event : FdEvent) : Prop where
  checked : ∀ range, AsksFor event range → CheckedExactly event range
  sent : ∀ id offset length, event.sent = some (.requestFirmwareData id offset length) →
    Agreed before event event offset length
  stored : ∀ offset data component result,
    .downloadFwData offset data component result ∈ event.callbacks →
      ∃ asked, LastDataRequest before asked ∧ Agreed before event asked offset data.length

/-- The ranges asked for in a call survive being cut down to 32 bits. -/
def RangesSurvive (event : FdEvent) : Prop :=
  ∀ range, AsksFor event range → SurvivesNarrowing event.before.imageSize range.1 range.2

section Download

variable {profile : Profile} {events : List FdEvent} {state : FdInternal}

theorem announced_of_download (trace : FdTrace profile events state)
    (downloading : state.state = .download) : Announced events state.imageSize := by
  obtain ⟨start, since, underWay, _⟩ := inOrder_of_trace trace (by rw [downloading]; rfl)
  obtain ⟨payload, request, hoperation, decoded, hcomponent⟩ := underWay.described
  refine ⟨start, since, payload, request, underWay.session, hoperation, decoded, ?_⟩
  rw [FdInternal.imageSize, hcomponent]
  rfl

theorem not_serves_of_refuses {event : FdEvent} (refuses : Refuses event) : ¬ Serves event := by
  rintro (sends | ⟨short, _⟩)
  · exact refuses.2 sends
  · exact absurd (refuses.1.symm.trans short) nofun

/-- What a poll does about a range is decided by the check. -/
theorem serves_or_refuses (trace : FdTrace profile events state) (input : FdInput)
    {range : ℕ × ℕ} (asks : AsksFor (fdEvent profile state input) range)
    (fits : ChecksWithoutOverflow state.imageSize (UInt32.ofNat range.1).toNat
      (UInt32.ofNat range.2).toNat) :
    if InsideImage state.imageSize (UInt32.ofNat range.1).toNat (UInt32.ofNat range.2).toNat then
      Serves (fdEvent profile state input)
    else Refuses (fdEvent profile state input) := by
  obtain ⟨component, member⟩ := asks
  obtain ⟨payload, hoperation, hstate, _, asks⟩ :=
    (trace.step input).of_query trace.coherent ((mem_works rfl).mp member)
  have hchunk := getFdDownloadChunk_of_fits MsgHandlerError profile hstate fits
  generalize houtcome : (fdEvent profile state input).output.outcome = outcome at asks
  generalize hsent : (fdEvent profile state input).sent = sent at asks
  by_cases inside : InsideImage state.imageSize (UInt32.ofNat range.1).toNat
      (UInt32.ofNat range.2).toNat
  · rw [if_pos inside] at hchunk ⊢
    cases asks with
    | refused outside => exact absurd (hchunk.symm.trans outside) nofun
    | overflowed overflow => exact absurd (hchunk.symm.trans overflow) nofun
    | unsent _ short => exact .inr ⟨houtcome, payload, hoperation, short⟩
    | served => exact .inl ⟨_, _, _, hsent⟩
  · rw [if_neg inside] at hchunk ⊢
    cases asks with
    | refused =>
        refine ⟨houtcome, ?_⟩
        rintro ⟨id, offset, length, sends⟩
        exact absurd (hsent.symm.trans sends) nofun
    | overflowed overflow => exact absurd (hchunk.symm.trans overflow) nofun
    | unsent served => exact absurd (hchunk.symm.trans served) nofun
    | served served => exact absurd (hchunk.symm.trans served) nofun

/-- The check is exact exactly where the range survives. -/
theorem checkedExactly_iff (trace : FdTrace profile events state) (input : FdInput)
    {range : ℕ × ℕ} (asks : AsksFor (fdEvent profile state input) range) :
    CheckedExactly (fdEvent profile state input) range ↔
      SurvivesNarrowing state.imageSize range.1 range.2 := by
  have hstate : state.state = .download := by
    obtain ⟨component, member⟩ := asks
    obtain ⟨_, _, hstate, _⟩ :=
      (trace.step input).of_query trace.coherent ((mem_works rfl).mp member)
    exact hstate
  have hcut (count : ℕ) : (UInt32.ofNat count).toNat = count % UInt32.size := UInt32.toNat_ofNat'
  have hdecided := serves_or_refuses trace input asks
  have hoverflow :=
    getFdDownloadChunk_debug_ne_panic hstate (UInt32.ofNat range.1) (UInt32.ofNat range.2)
  rw [hcut, hcut] at hdecided hoverflow
  rw [survivesNarrowing_iff state.imageSize_lt]
  constructor
  · intro checked
    have hfits := hoverflow.mp checked.noOverflow
    have hanswer := hdecided hfits
    refine ⟨hfits, ?_⟩
    by_cases inside : InsideImage state.imageSize (range.1 % UInt32.size) (range.2 % UInt32.size)
    · rw [if_pos inside] at hanswer
      refine iff_of_true inside ?_
      by_contra outside
      exact not_serves_of_refuses (checked.refused outside) hanswer
    · rw [if_neg inside] at hanswer
      refine iff_of_false inside ?_
      intro within
      exact not_serves_of_refuses hanswer (checked.served within)
  · rintro ⟨fits, exactly⟩
    have hanswer := hdecided fits
    refine ⟨hoverflow.mpr fits, ?_, ?_⟩
    · intro inside
      rwa [if_pos (exactly.mpr inside)] at hanswer
    · intro outside
      rwa [if_neg fun inside => outside (exactly.mp inside)] at hanswer

theorem toNat_min (first second : UInt32) :
    (min first second).toNat = min first.toNat second.toNat := by
  show (if first ≤ second then first else second).toNat = _
  rw [min_def]
  simp only [UInt32.le_iff_toNat_le]
  split <;> rfl

/-- A range that survives and is served is the one asked for, up to the cap. -/
theorem range_of_served {range : ℕ × ℕ} {offset length : UInt32}
    (downloading : state.state = .download)
    (survives : SurvivesNarrowing state.imageSize range.1 range.2)
    (served : state.getFdDownloadChunk profile (UInt32.ofNat range.1) (UInt32.ofNat range.2) =
      (.ok (some (offset, length)) : Outcome MsgHandlerError _)) :
    offset.toNat = range.1 ∧ InsideImage state.imageSize offset.toNat length.toNat ∧
      length.toNat ≤ state.maxXferSize.toNat := by
  have hcut (count : ℕ) : (UInt32.ofNat count).toNat = count % UInt32.size := UInt32.toNat_ofNat'
  obtain ⟨hfits, hexactly⟩ := (survivesNarrowing_iff state.imageSize_lt).mp survives
  rw [← hcut, ← hcut] at hfits hexactly
  rw [getFdDownloadChunk_of_fits MsgHandlerError profile downloading hfits] at served
  split at served
  · next inside =>
      simp only [Outcome.ok.injEq, Option.some.injEq, Prod.mk.injEq] at served
      obtain ⟨rfl, rfl⟩ := served
      obtain ⟨hoffset, _⟩ := hexactly.mp inside
      rw [toNat_min]
      refine ⟨?_, ⟨inside.1, ?_⟩, min_le_right _ _⟩
      · rw [hcut]
        exact Nat.mod_eq_of_lt (Nat.lt_of_le_of_lt hoffset state.imageSize_lt)
      · have hend := inside.2
        omega
  · cases served

/-- Every request for data was asked for and served. -/
theorem served_of_sent (trace : FdTrace profile events state) (input : FdInput) {id : UInt8}
    {offset length : ℕ}
    (sends : (fdEvent profile state input).sent =
      some (.requestFirmwareData id offset length)) :
    ∃ range start count, AsksFor (fdEvent profile state input) range ∧
      state.state = .download ∧ offset = start.toNat ∧ length = count.toNat ∧
      state.getFdDownloadChunk profile (UInt32.ofNat range.1) (UInt32.ofNat range.2) =
        (.ok (some (start, count)) : Outcome MsgHandlerError _) := by
  obtain ⟨range, hquery⟩ := (trace.step input).queries_of_sent sends
  obtain ⟨payload, _, hstate, _, asks⟩ := (trace.step input).of_query trace.coherent hquery
  rw [sends] at asks
  generalize (fdEvent profile state input).output.outcome = outcome at asks
  cases asks with
  | @served _ start count inside =>
      exact ⟨range, start, count, ⟨_, (mem_works rfl).mpr hquery⟩, hstate, rfl, rfl, inside⟩

/-- What is sent was agreed on. -/
theorem agreed_of_sent (trace : FdTrace profile events state)
    (caps : ∀ event ∈ events, event.input.ops.CapsTransferSize) (input : FdInput)
    (survive : RangesSurvive (fdEvent profile state input)) {id : UInt8} {offset length : ℕ}
    (sends : (fdEvent profile state input).sent =
      some (.requestFirmwareData id offset length)) :
    Agreed events (fdEvent profile state input) (fdEvent profile state input) offset length := by
  obtain ⟨range, start, count, hasks, hstate, rfl, rfl, inside⟩ :=
    served_of_sent trace input sends
  obtain ⟨hoffset, hinside, hlength⟩ := range_of_served hstate (survive range hasks) inside
  obtain ⟨request, started, hmax⟩ :=
    withinTransferSize_of_trace trace caps (by rw [hstate]; exact nofun)
  exact ⟨⟨range, hasks, hoffset⟩, announced_of_download trace hstate, hinside, request,
    started, hlength.trans hmax⟩

/-- What is stored was agreed on when it was requested. -/
theorem agreed_of_stored (trace : FdTrace profile events state)
    (caps : ∀ event ∈ events, event.input.ops.CapsTransferSize)
    (survive : ∀ event ∈ events, RangesSurvive event) (input : FdInput) {offset : ℕ}
    {data : List UInt8} {component : FirmwareComponent}
    {result : Except FdOpsError TransferResult}
    (member : .downloadFwData offset data component result ∈
      (fdEvent profile state input).callbacks) :
    ∃ asked, LastDataRequest events asked ∧
      Agreed events (fdEvent profile state input) asked offset data.length := by
  obtain ⟨payload, start, _, _, delivery, rfl, _⟩ :=
    (trace.step input).of_downloadFwData ((mem_works rfl).mp member)
  obtain ⟨asked, offset, length, last, ⟨id, hrequest⟩, hstored, hcomp, hmax⟩ :=
    remembers_of_trace trace ⟨delivery.state, delivery.sent, delivery.complete⟩
  -- The stored range is the one the last request asked for.
  obtain ⟨count, hrange, _, hlength⟩ := delivery.range
  simp only [FdInternal.getFdDownloadState, hstored, Option.some.injEq, Prod.mk.injEq] at hrange
  obtain ⟨rfl, rfl⟩ := hrange
  have hasked := last
  obtain ⟨earlier, since, hsplit, _, _⟩ := hasked
  obtain ⟨prior, hevent, _, _⟩ := FdRun.cut (hsplit ▸ trace)
  have hsurvive : RangesSurvive asked := survive asked (by simp [hsplit])
  rw [hevent] at hrequest hsurvive
  obtain ⟨range, first, size, hasks, hstate, hfirst, hsize, inside⟩ :=
    served_of_sent prior asked.input hrequest
  obtain rfl := UInt32.toNat_inj.mp hfirst
  obtain rfl := UInt32.toNat_inj.mp hsize
  obtain ⟨hoffset, hinside, hcapped⟩ := range_of_served hstate (hsurvive range hasks) inside
  obtain ⟨request, started, hcap⟩ :=
    withinTransferSize_of_trace trace caps (by rw [delivery.state]; exact (by rintro ⟨⟩))
  rw [hmax] at hcap
  rw [hlength]
  refine ⟨asked, last, ⟨range, hevent ▸ hasks, hoffset⟩,
    announced_of_download trace delivery.state, ?_, request, started, hcapped.trans hcap⟩
  have hsame : state.imageSize = asked.before.imageSize := by
    rw [FdInternal.imageSize, hcomp]
    rfl
  show InsideImage state.imageSize _ _
  rw [hsame]
  exact hinside

/-- Downloads stay inside the image throughout a run exactly when every range that
the platform asks for survives being cut down to 32 bits. -/
theorem staysInside_iff_survives (trace : FdTrace profile events state) (input : FdInput)
    (caps : ∀ event ∈ events, event.input.ops.CapsTransferSize) :
    Throughout StaysInside (events ++ [fdEvent profile state input]) ↔
      ∀ event ∈ events ++ [fdEvent profile state input], RangesSurvive event := by
  constructor
  · intro inside event member range asks
    obtain ⟨before, after, hsplit⟩ := List.append_of_mem member
    obtain ⟨prior, hevent⟩ := trace.cut_next hsplit
    have hchecked := (inside before event after hsplit).checked range asks
    rw [hevent] at asks hchecked
    exact (checkedExactly_iff prior event.input asks).mp hchecked
  · intro survive before event after hsplit
    obtain ⟨prior, hevent⟩ := trace.cut_next hsplit
    have hsurvive : RangesSurvive event := survive event (by simp [hsplit])
    have hleading : before <+: events := by
      apply List.prefix_of_prefix_length_le (hsplit ▸ List.prefix_append before _)
        (List.prefix_append events _)
      have hlength := congrArg List.length hsplit
      simp only [List.length_append, List.length_cons, List.length_nil] at hlength
      omega
    have hcaps : ∀ call ∈ before, call.input.ops.CapsTransferSize :=
      fun call member => caps call (hleading.subset member)
    have hbefore : ∀ call ∈ before, RangesSurvive call :=
      fun call member => survive call (by simp [hsplit, member])
    rw [hevent] at hsurvive ⊢
    refine ⟨?_, ?_, ?_⟩
    · intro range asks
      exact (checkedExactly_iff prior event.input asks).mpr (hsurvive range asks)
    · intro id offset length sends
      exact agreed_of_sent prior hcaps event.input hsurvive sends
    · intro offset data component result member
      exact agreed_of_stored prior hcaps hbefore event.input member

/-- The platform asks for almost 4 GiB from the end of the image on. -/
def askBeyond : FdInput :=
  poll { platform 1 with queryDownloadOffsetAndLength := fun _ => .ok (64, 0xfffffff0) }

theorem platform_caps (time : PldmFdTime) : (platform time).CapsTransferSize := by
  intro offered granted sized
  exact (Except.ok.inj sized).ge

theorem opening_caps (imageSize : UInt32) :
    ∀ input ∈ opening imageSize, input.ops.CapsTransferSize := by
  intro input member
  simp only [opening, List.mem_cons, List.not_mem_nil, or_false] at member
  rcases member with rfl | rfl | rfl <;> exact platform_caps 0

/-- The end of that range wraps around to below the end of the image, and the
device asks for 512 bytes behind an image of 64. -/
theorem request_beyond_image : ∃ events state, FdTrace .release events state ∧
    (∀ event ∈ events, event.input.ops.CapsTransferSize) ∧ state.imageSize = 64 ∧
    (fdEvent .release state askBeyond).sent = some (.requestFirmwareData 1 64 512) ∧
    ¬ Throughout StaysInside (events ++ [fdEvent .release state askBeyond]) := by
  obtain ⟨events, state, trace, hcaps, hcheck⟩ := exists_run_of_inputs .release (opening 64)
    (fun input => input.ops.CapsTransferSize) (opening_caps 64)
    (fun _ state => state.imageSize = 64 &&
      (fdEvent .release state askBeyond).sent = some (.requestFirmwareData 1 64 512))
    (by decide +kernel)
  simp only [Bool.and_eq_true, decide_eq_true_eq] at hcheck
  obtain ⟨hsize, hsent⟩ := hcheck
  refine ⟨events, state, trace, hcaps, hsize, hsent, ?_⟩
  intro inside
  obtain ⟨_, hend⟩ := ((inside events _ [] rfl).sent 1 64 512 hsent).inside
  rw [show (fdEvent .release state askBeyond).before = state from rfl, hsize] at hend
  exact absurd hend (by decide)

theorem staysInside_iff_survives_opening : ∃ events state, FdTrace .release events state ∧
    (∀ event ∈ events, event.input.ops.CapsTransferSize) ∧
    (Throughout StaysInside (events ++ [fdEvent .release state askBeyond]) ↔
      ∀ event ∈ events ++ [fdEvent .release state askBeyond], RangesSurvive event) := by
  obtain ⟨events, state, trace, hcaps, _⟩ := exists_run_of_inputs .release (opening 64)
    (fun input => input.ops.CapsTransferSize) (opening_caps 64) (fun _ _ => true)
    (by decide +kernel)
  exact ⟨events, state, trace, hcaps, staysInside_iff_survives trace askBeyond hcaps⟩

end Download

end PldmLib.FirmwareDevice
