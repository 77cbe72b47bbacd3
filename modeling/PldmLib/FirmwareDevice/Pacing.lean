/-
# Pacing

The device has at most one request outstanding, and sends it again when T2 has passed since
it was sent. What keeps it from sending more often is the time in the slot: every request that
a poll returns writes it, and of the calls that leave the device at work only a response that
clears the slot takes it away.
-/

import PldmLib.FirmwareDevice.Retransmission

namespace PldmLib.FirmwareDevice

open PldmLib.Machine PldmLib.Protocol PldmLib.Message

/-! ## Requests over a run -/

/-- The clock as the device reads it does not go back. -/
def Steady (events : List FdEvent) : Prop :=
  (events.flatMap fun event => readings event.log).Pairwise (· ≤ ·)

instance (events : List FdEvent) : Decidable (Steady events) :=
  inferInstanceAs (Decidable (List.Pairwise _ _))

/-- A poll that returns a message. -/
def FdEvent.emits (event : FdEvent) : Bool :=
  match event.input.operation, event.output.outcome with
  | .fdProgress _, .ok (.length count) => decide (0 < count)
  | _, _ => false

/-- The times recorded for the messages of a run. -/
def sendTimes (events : List FdEvent) : List PldmFdTime :=
  events.filterMap fun event => if event.emits then event.after.req.sentTime else none

theorem sendTimes_cons (event : FdEvent) (events : List FdEvent) :
    sendTimes (event :: events) =
      (if event.emits then event.after.req.sentTime else none).toList ++ sendTimes events := by
  cases hsent : if event.emits then event.after.req.sentTime else none with
  | none => simp [sendTimes, hsent]
  | some time => simp [sendTimes, hsent]

/-- An accepted response after which no request is outstanding. -/
structure Clears (event : FdEvent) : Prop where
  accepted : ∃ payload, event.input.operation = .handleResponse payload ∧
    accepts event.before.req payload = true
  cleared : event.after.req.state ≠ .sent

/-- A stretch of a run in one state, in which no response clears the slot. -/
def Uncleared (state : FirmwareDeviceState) (stretch : List FdEvent) : Prop :=
  ∀ event ∈ stretch, event.before.state = state ∧ event.after.state = state ∧ ¬ Clears event

/-- A request is outstanding, and was sent no earlier than this. -/
def SentSince (earliest : PldmFdTime) (internal : FdInternal) : Prop :=
  internal.req.state = .sent ∧ ∃ time, internal.req.sentTime = some time ∧ earliest ≤ time

theorem SentSince.congr {pre post : FdInternal} {earliest : PldmFdTime}
    (since : SentSince earliest pre) (state : post.req.state = pre.req.state)
    (sentTime : post.req.sentTime = pre.req.sentTime) : SentSince earliest post := by
  obtain ⟨hsent, time, htime, hle⟩ := since
  exact ⟨state.trans hsent, time, sentTime.trans htime, hle⟩

theorem FdInternal.due_iff {internal : FdInternal} {reading : PldmFdTime} :
    internal.due reading = true ↔ internal.req.state = .ready ∨ internal.req.state = .sent ∧
      ∃ time, internal.req.sentTime = some time ∧ time + internal.fdT2RetryTime ≤ reading := by
  unfold due
  cases hstate : internal.req.state with
  | sent =>
      cases htime : internal.req.sentTime with
      | none => simp
      | some time =>
          simp only [Bool.and_eq_true, decide_eq_true_eq, reduceCtorEq, false_or, true_and,
            Option.some.injEq, exists_eq_left']
          constructor
          · rintro ⟨later, enough⟩
            exact (Nat.le_sub_iff_add_le' later).mp enough
          · intro late
            have later : time ≤ reading := (Nat.le_add_right _ _).trans late
            exact ⟨later, (Nat.le_sub_iff_add_le' later).mpr late⟩
  | _ => simp

/-- The gate stays shut until T2 has passed. -/
theorem SentSince.not_due {internal : FdInternal} {earliest reading : PldmFdTime}
    (since : SentSince earliest internal) (early : reading < earliest + internal.fdT2RetryTime) :
    internal.due reading = false := by
  obtain ⟨hsent, time, htime, hle⟩ := since
  refine Bool.eq_false_iff.mpr fun due => ?_
  rcases FdInternal.due_iff.mp due with ready | ⟨_, other, htime', late⟩
  · rw [hsent] at ready
    cases ready
  · obtain rfl := Option.some.inj (htime.symm.trans htime')
    exact absurd early (Nat.not_lt.mpr ((Nat.add_le_add_right hle _).trans late))

/-! ## What there is to send -/

/-- What a poll of a device has to find to hand over a message: it is due, there is something
to ask for or to report, and the message fits. -/
inductive Sends (profile : Profile) (ops : FdOps) (payload : List UInt8) (pre : FdInternal) :
    Prop
  | transfer {result : UInt8} {transferResult : TransferResult} (state : pre.state = .download)
      (passed : Open ops pre) (complete : pre.req.complete = true)
      (stored : pre.req.result = some result)
      (known : TransferResult.tryFrom result = .ok transferResult) (room : 4 ≤ payload.length)
  | range {range : ℕ × ℕ} {chunk : UInt32 × UInt32} (state : pre.state = .download)
      (passed : Open ops pre) (complete : pre.req.complete = false)
      (asked : ops.queryDownloadOffsetAndLength pre.updateComp = .ok range)
      (inside : pre.getFdDownloadChunk profile (UInt32.ofNat range.1) (UInt32.ofNat range.2) =
        (.ok (some chunk) : Outcome MsgHandlerError _))
      (room : 11 ≤ payload.length)
  | conclusion {kind : OperationKind} {result : UInt8} {progress : ProgressPercent}
      (state : pre.state = kind.state) (passed : Open ops pre)
      (complete : pre.req.complete = false)
      (ran : kind.answer ops pre.updateComp = .ok (result, progress))
      (finished : pending result progress = false) (room : kind.messageLength ≤ payload.length)
  | repetition {kind : OperationKind} (state : pre.state = kind.state) (passed : Open ops pre)
      (complete : pre.req.complete = true) (room : kind.messageLength ≤ payload.length)

section Polls

variable {profile : Profile} {ops : FdOps} {payload : List UInt8} {pre post : FdInternal}
  {outcome : Outcome MsgHandlerError ℕ} {log : List Invocation} {sent : Option FdRequest}

/-- A poll with a range to ask for asks for it. -/
theorem PollStep.of_range {range : ℕ × ℕ} {chunk : UInt32 × UInt32}
    (step : PollStep profile ops payload pre outcome post log sent) (state : pre.state = .download)
    (passed : Open ops pre) (complete : pre.req.complete = false)
    (asked : ops.queryDownloadOffsetAndLength pre.updateComp = .ok range)
    (inside : pre.getFdDownloadChunk profile (UInt32.ofNat range.1) (UInt32.ofNat range.2) =
      (.ok (some chunk) : Outcome MsgHandlerError _))
    (room : 11 ≤ payload.length) : outcome = .ok 11 := by
  have hactive : pre.state.isInitiator = true := by
    rw [state]
    rfl
  have hoperation {kind : OperationKind} (operating : pre.state = kind.state) : False := by
    rw [state] at operating
    cases kind <;> cases operating
  have hcomplete (already : pre.req.complete = true) : False :=
    absurd (complete.symm.trans already) (by rintro ⟨⟩)
  have hrange {other : ℕ × ℕ}
      (answer : ops.queryDownloadOffsetAndLength pre.updateComp = .ok other) : other = range :=
    Except.ok.inj (answer.symm.trans asked)
  cases step with
  | dataRequested => rfl
  | inactive passive => exact absurd (hactive.symm.trans passive) (by rintro ⟨⟩)
  | timedOut _ silence => exact absurd (silence.symm.trans passed.heard) (by rintro ⟨⟩)
  | timeoutRefused _ silence => exact absurd (silence.symm.trans passed.heard) (by rintro ⟨⟩)
  | undue _ _ early => exact absurd (early.symm.trans passed.due) (by rintro ⟨⟩)
  | transferUnsent _ _ already => exact (hcomplete already).elim
  | transferUnknown _ _ already => exact (hcomplete already).elim
  | transferReported _ _ already => exact (hcomplete already).elim
  | reportUnsent _ _ already => exact (hcomplete already).elim
  | reportRepeated _ _ already => exact (hcomplete already).elim
  | rangeUnknown _ _ _ unknown => exact absurd (unknown.symm.trans asked) (by rintro ⟨⟩)
  | rangeRefused _ _ _ answer outside =>
      obtain rfl := hrange answer
      exact absurd (outside.symm.trans inside) (by rintro ⟨⟩)
  | rangeOverflowed _ _ _ answer overflowed =>
      obtain rfl := hrange answer
      exact absurd (overflowed.symm.trans inside) (by rintro ⟨⟩)
  | dataUnsent _ _ _ _ _ short => exact absurd short (Nat.not_lt.mpr room)
  | operationFailed operating => exact (hoperation operating).elim
  | operationPending operating => exact (hoperation operating).elim
  | operationUnsent operating => exact (hoperation operating).elim
  | operationReported operating => exact (hoperation operating).elim

/-- A poll that finds its operation over reports it. -/
theorem PollStep.of_conclusion {kind : OperationKind} {result : UInt8} {progress : ProgressPercent}
    (step : PollStep profile ops payload pre outcome post log sent) (state : pre.state = kind.state)
    (passed : Open ops pre) (complete : pre.req.complete = false)
    (ran : kind.answer ops pre.updateComp = .ok (result, progress))
    (finished : pending result progress = false) (room : kind.messageLength ≤ payload.length) :
    outcome = .ok kind.messageLength := by
  have hdownload (downloading : pre.state = .download) : False := by
    rw [state] at downloading
    cases kind <;> cases downloading
  have hcomplete (already : pre.req.complete = true) : False :=
    absurd (complete.symm.trans already) (by rintro ⟨⟩)
  have hkind {other : OperationKind} (operating : pre.state = other.state) : other = kind := by
    rw [state] at operating
    cases kind <;> cases other <;> first | rfl | cases operating
  cases step with
  | operationReported operating => rw [hkind operating]
  | inactive passive =>
      rw [state, kind.state_isInitiator] at passive
      cases passive
  | timedOut _ silence => exact absurd (silence.symm.trans passed.heard) (by rintro ⟨⟩)
  | timeoutRefused _ silence => exact absurd (silence.symm.trans passed.heard) (by rintro ⟨⟩)
  | undue _ _ early => exact absurd (early.symm.trans passed.due) (by rintro ⟨⟩)
  | transferUnsent downloading => exact (hdownload downloading).elim
  | transferUnknown downloading => exact (hdownload downloading).elim
  | transferReported downloading => exact (hdownload downloading).elim
  | rangeUnknown downloading => exact (hdownload downloading).elim
  | rangeRefused downloading => exact (hdownload downloading).elim
  | rangeOverflowed downloading => exact (hdownload downloading).elim
  | dataUnsent downloading => exact (hdownload downloading).elim
  | dataRequested downloading => exact (hdownload downloading).elim
  | reportUnsent _ _ already => exact (hcomplete already).elim
  | reportRepeated _ _ already => exact (hcomplete already).elim
  | operationFailed operating _ _ failed =>
      obtain rfl := hkind operating
      exact absurd (failed.symm.trans ran) (by rintro ⟨⟩)
  | operationPending operating _ _ ran' unfinished =>
      obtain rfl := hkind operating
      obtain ⟨rfl, rfl⟩ := Prod.mk.inj (Except.ok.inj (ran.symm.trans ran'))
      exact absurd (unfinished.symm.trans finished) (by rintro ⟨⟩)
  | operationUnsent operating _ _ _ _ short =>
      obtain rfl := hkind operating
      exact absurd short (Nat.not_lt.mpr room)

theorem PollStep.sends_iff (step : PollStep profile ops payload pre outcome post log sent) :
    (∃ count, outcome = .ok count ∧ 0 < count) ↔ Sends profile ops payload pre := by
  constructor
  · rintro ⟨count, rfl, message⟩
    cases step with
    | transferReported state passed complete stored known room =>
        exact .transfer state passed complete stored known room
    | dataRequested state passed complete asked inside room =>
        exact .range state passed complete asked inside room
    | operationPending => cases message
    | operationReported state passed complete ran finished room =>
        exact .conclusion state passed complete ran finished room
    | reportRepeated state passed complete room => exact .repetition state passed complete room
  · intro sends
    cases sends with
    | transfer state passed complete stored known room =>
        cases step.of_complete (by rw [state]; rfl) passed complete with
        | unknown _ stored' unknown =>
            obtain rfl := Option.some.inj (stored.symm.trans stored')
            exact absurd (known.symm.trans unknown) (by rintro ⟨⟩)
        | unsent short =>
            rw [state] at short
            exact absurd short (Nat.not_lt.mpr room)
        | transfer => exact ⟨4, rfl, by decide⟩
        | @repeated kind => exact ⟨_, rfl, by cases kind <;> decide⟩
    | range state passed complete asked inside room =>
        exact ⟨11, step.of_range state passed complete asked inside room, by decide⟩
    | @conclusion kind _ _ state passed complete ran finished room =>
        exact ⟨_, step.of_conclusion state passed complete ran finished room,
          by cases kind <;> decide⟩
    | @repetition kind state passed complete room =>
        cases step.of_complete (by rw [state, kind.state_isInitiator]) passed complete with
        | unknown download =>
            rw [state] at download
            cases kind <;> cases download
        | unsent short =>
            rw [state, kind.reportLength_state] at short
            exact absurd short (Nat.not_lt.mpr room)
        | transfer => exact ⟨4, rfl, by decide⟩
        | @repeated kind => exact ⟨_, rfl, by cases kind <;> decide⟩

/-- A poll that has nothing to send leaves the slot. -/
theorem PollStep.req_of_nothing (step : PollStep profile ops payload pre (.ok 0) post log sent) :
    post.req = pre.req := by
  generalize hnothing : (Outcome.ok 0 : Outcome MsgHandlerError ℕ) = outcome at step
  cases step with
  | operationPending => simp
  | @operationReported kind => cases kind <;> cases hnothing
  | @reportRepeated kind => cases kind <;> cases hnothing
  | _ => cases hnothing

theorem Sends.room (sends : Sends profile ops payload pre) : 4 ≤ payload.length := by
  cases sends with
  | transfer _ _ _ _ _ room => exact room
  | range _ _ _ _ _ room => exact Nat.le_trans (by decide) room
  | @conclusion kind _ _ _ _ _ _ _ room =>
      exact Nat.le_trans (by cases kind <;> decide) room
  | @repetition kind _ _ _ room => exact Nat.le_trans (by cases kind <;> decide) room

end Polls

/-! ## One call -/

/-- What a poll that returns a message has done: it has passed the gates and recorded its
last reading. -/
structure Emission (ops : FdOps) (pre post : FdInternal) (log : List Invocation)
    (time : PldmFdTime) : Prop where
  active : pre.state.isInitiator = true
  passed : Open ops pre
  state : post.state = pre.state
  sent : post.req.state = .sent
  sentTime : post.req.sentTime = some time
  read : ∃ earlier, readings log = earlier ++ [gateTime ops pre, time]

section Steps

variable {profile : Profile} {pre post : FdInternal} {ops : FdOps} {payload : List UInt8}
  {log : List Invocation}

theorem PollStep.emission {count : ℕ} {sent : Option FdRequest}
    (step : PollStep profile ops payload pre (.ok count) post log sent) (message : 0 < count) :
    ∃ time, Emission ops pre post log time := by
  cases step with
  | transferReported state passed =>
      exact ⟨_, by rw [state]; rfl, passed, rfl, rfl, rfl, readings (listened ops pre),
        by simp [gates, readings]⟩
  | dataRequested state passed =>
      exact ⟨_, by rw [state]; rfl, passed, by simp, rfl, rfl, readings (listened ops pre),
        by simp [gates, readings]⟩
  | operationPending => exact absurd message (by decide)
  | @operationReported kind _ _ state passed =>
      exact ⟨_, by rw [state, kind.state_isInitiator], passed, by simp, rfl, rfl,
        readings (listened ops pre),
        by cases kind <;> simp [gates, readings, OperationKind.callback]⟩
  | @reportRepeated kind state passed =>
      exact ⟨_, by rw [state, kind.state_isInitiator], passed, rfl, rfl, rfl,
        readings (listened ops pre), by simp [gates, readings]⟩

/-- An emission of a call whose readings do not decrease is T2 later than what is
outstanding. -/
theorem Emission.since {time earliest : PldmFdTime} (emission : Emission ops pre post log time)
    (since : SentSince earliest pre) :
    earliest + pre.fdT2RetryTime ≤ gateTime ops pre := by
  by_contra early
  have hshut := since.not_due (Nat.lt_of_not_le early)
  exact absurd (emission.passed.due.symm.trans hshut) (by rintro ⟨⟩)

theorem Emission.gate_le {time : PldmFdTime} (emission : Emission ops pre post log time)
    (steady : (readings log).Pairwise (· ≤ ·)) : gateTime ops pre ≤ time := by
  obtain ⟨earlier, hread⟩ := emission.read
  rw [hread, List.pairwise_append] at steady
  exact List.rel_of_pairwise_cons steady.2.1 (List.mem_singleton.mpr rfl)

/-- A poll that returns no message leaves the time in the slot, or ends the update. -/
theorem PollStep.req_of_silent {outcome : Outcome MsgHandlerError ℕ} {sent : Option FdRequest}
    (step : PollStep profile ops payload pre outcome post log sent)
    (silent : ∀ count, outcome = .ok count → count = 0) :
    outcome = .err .t1Timeout ∨
      post.req.state = pre.req.state ∧ post.req.sentTime = pre.req.sentTime := by
  cases step with
  | timedOut => exact .inl rfl
  | transferReported => cases silent _ rfl
  | dataRequested => cases silent _ rfl
  | @operationReported kind => cases kind <;> cases silent _ rfl
  | @reportRepeated kind => cases kind <;> cases silent _ rfl
  | operationPending => exact .inr (by simp)
  | @operationUnsent kind _ progress =>
      have hreq := kind.setProgress_req progress.value pre
      exact .inr ⟨by simp, (congrArg FdReq.sentTime hreq :)⟩
  | _ => exact .inr ⟨rfl, rfl⟩

/-- An accepted response clears the slot, or leaves it. -/
theorem ResponseStep.req_of_uncleared {outcome : Outcome MsgHandlerError PUnit}
    (step : ResponseStep ops payload pre outcome post log)
    (uncleared : accepts pre.req payload = true → post.req.state = .sent) :
    post.req = pre.req := by
  cases step with
  | ignored => rfl
  | heard => rfl
  | dataRefused => rfl
  | dataRejected accepted => cases uncleared accepted
  | dataStored accepted => cases uncleared accepted
  | dataCompleted accepted => cases uncleared accepted
  | transferAborted accepted => cases uncleared accepted
  | disappointed accepted => cases uncleared accepted
  | acknowledged accepted active =>
      exact absurd (uncleared accepted) (advance_not_sent active)

/-- A request that leaves the device in an operation leaves the slot. -/
theorem RequestStep.req_of_active {handler : Handler} {outcome : Outcome MsgHandlerError ℕ}
    (step : RequestStep ops payload pre handler outcome post log)
    (active : pre.state.isInitiator = true) (stays : post.state = pre.state) :
    post.req = pre.req := by
  have hoperates : post.state.isInitiator = true := by
    rw [stays]
    exact active
  rcases step.of_operating hoperates with touched | ⟨ready, _⟩
  · exact touched.req
  · exact (not_initiator_of_eq active ready rfl).elim

variable {input : FdInput} {output : FdOutput} {sent : Option FdRequest}

theorem FdStep.emission (step : FdStep profile pre input output sent)
    (emits : FdEvent.emits ⟨pre, input, output⟩ = true) :
    ∃ time, Emission input.ops pre output.internal output.log time := by
  cases step with
  | @poll _ _ _ outcome _ _ _ step =>
      cases outcome with
      | ok count => exact step.emission (of_decide_eq_true emits)
      | _ => cases emits
  | query reads => rcases reads with rfl | rfl | rfl <;> cases emits
  | _ => cases emits

/-- Whatever does not clear the slot leaves a time in it that is no earlier. -/
theorem FdStep.sentSince {earliest : PldmFdTime} (step : FdStep profile pre input output sent)
    (active : pre.state.isInitiator = true) (stays : output.internal.state = pre.state)
    (uncleared : ¬ Clears ⟨pre, input, output⟩)
    (steady : (readings output.log).Pairwise (· ≤ ·)) (since : SentSince earliest pre) :
    SentSince earliest output.internal := by
  cases hemits : FdEvent.emits ⟨pre, input, output⟩ with
  | true =>
      obtain ⟨time, emission⟩ := step.emission hemits
      refine ⟨emission.sent, time, emission.sentTime, ?_⟩
      calc earliest ≤ earliest + pre.fdT2RetryTime := Nat.le_add_right _ _
        _ ≤ gateTime input.ops pre := emission.since since
        _ ≤ time := emission.gate_le steady
  | false =>
      cases step with
      | request step =>
          have hreq := step.req_of_active active stays
          exact since.congr (congrArg FdReq.state hreq) (congrArg FdReq.sentTime hreq)
      | @poll _ _ _ outcome _ _ _ step =>
          have hsilent : ∀ count, outcome = .ok count → count = 0 := by
            rintro count rfl
            exact Nat.eq_zero_of_not_pos (of_decide_eq_false hemits)
          rcases step.req_of_silent hsilent with rfl | ⟨hstate, htime⟩
          · cases step
            rw [← stays] at active
            simp [FirmwareDeviceState.isInitiator] at active
          · exact since.congr hstate htime
      | response step =>
          have hreq := step.req_of_uncleared fun accepted =>
            by_contra fun cleared => uncleared ⟨⟨_, rfl, accepted⟩, cleared⟩
          exact since.congr (congrArg FdReq.state hreq) (congrArg FdReq.sentTime hreq)
      | touch => exact since
      | query => exact since

/-- No call changes T2. -/
theorem FdStep.fdT2RetryTime (step : FdStep profile pre input output sent) :
    output.internal.fdT2RetryTime = pre.fdT2RetryTime := by
  cases step with
  | request step =>
      cases step with
      | quiet touched => exact touched.fdT2RetryTime
      | sizeRecorded _ touched => exact touched.fdT2RetryTime
      | updateStarted _ _ _ touched =>
          exact (Kept.setFdState _).fdT2RetryTime.trans touched.fdT2RetryTime
      | tableComplete _ touched =>
          exact (Kept.setFdState _).fdT2RetryTime.trans touched.fdT2RetryTime
      | componentRecorded _ _ touched => exact touched.fdT2RetryTime
      | componentAccepted => exact (Kept.setFdState _).fdT2RetryTime
      | activated => exact ((Kept.setFdState _).trans (Kept.setFdIdle _)).fdT2RetryTime
      | cancelRefused _ _ _ touched => exact touched.fdT2RetryTime
      | cancelLost _ _ _ _ touched => exact touched.fdT2RetryTime
      | componentCancelled => exact (Kept.setFdState _).fdT2RetryTime
      | updateCancelled _ _ _ touched =>
          exact (Kept.setFdIdle _).fdT2RetryTime.trans touched.fdT2RetryTime
  | poll step => exact step.kept.fdT2RetryTime
  | response step => exact step.kept.fdT2RetryTime
  | touch => rfl
  | query => rfl

end Steps

/-! ## Runs -/

section Runs

variable {profile : Profile} {origin state : FdInternal} {events stretch : List FdEvent}

theorem FdRun.fdT2RetryTime (run : FdRun profile origin events state)
    (coherent : Coherent origin) : state.fdT2RetryTime = origin.fdT2RetryTime := by
  refine (run.induct coherent (fun _ reached => reached.fdT2RetryTime = origin.fdT2RetryTime)
    rfl ?_).1
  intro _ _ _ _ _ _ ih step _ _
  exact step.fdT2RetryTime.trans ih

/-- The run lemma: in a stretch in which nothing clears the slot every message is T2 later
than what was outstanding, and than the messages before it. -/
theorem FdRun.spaced (run : FdRun profile origin stretch state) (coherent : Coherent origin)
    (active : origin.state.isInitiator = true) (uncleared : Uncleared origin.state stretch)
    (steady : ∀ event ∈ stretch, (readings event.log).Pairwise (· ≤ ·)) :
    (∀ earliest, SentSince earliest origin → SentSince earliest state ∧
      ∀ time ∈ sendTimes stretch, earliest + origin.fdT2RetryTime ≤ time) ∧
    (sendTimes stretch).Pairwise fun time later => time + origin.fdT2RetryTime ≤ later := by
  induction stretch generalizing origin with
  | nil =>
      obtain rfl := System.Trace.eq_of_nil run
      exact ⟨fun _ since => ⟨since, by simp [sendTimes]⟩, by simp [sendTimes]⟩
  | cons event rest ih =>
      obtain ⟨step, hbefore, hrest⟩ := run.head coherent
      obtain ⟨_, hstays, huncleared⟩ := uncleared event List.mem_cons_self
      have hsteady := steady event List.mem_cons_self
      have hevent : event = ⟨origin, event.input, event.output⟩ := by rw [← hbefore]
      have hretry : event.after.fdT2RetryTime = origin.fdT2RetryTime := step.fdT2RetryTime
      obtain ⟨hsince, hspaced⟩ := ih hrest (coherent.step step) (by rwa [hstays])
        (fun other member => by
          rw [hstays]
          exact uncleared other (List.mem_cons_of_mem event member))
        fun other member => steady other (List.mem_cons_of_mem event member)
      rw [hretry] at hsince hspaced
      have hkept {earliest : PldmFdTime} (since : SentSince earliest origin) :
          SentSince earliest event.after :=
        step.sentSince active hstays (hevent ▸ huncleared) hsteady since
      rw [sendTimes_cons]
      cases hemits : event.emits with
      | false =>
          refine ⟨fun earliest since => hsince earliest (hkept since), ?_⟩
          simpa using hspaced
      | true =>
          obtain ⟨time, emission⟩ := step.emission (hevent ▸ hemits)
          have htime : event.after.req.sentTime = some time := emission.sentTime
          have hnow : SentSince time event.after := ⟨emission.sent, time, htime, le_rfl⟩
          simp only [htime, ↓reduceIte, Option.toList_some, List.singleton_append,
            List.mem_cons, List.pairwise_cons]
          refine ⟨fun earliest since => ⟨(hsince earliest (hkept since)).1, ?_⟩,
            (hsince time hnow).2, hspaced⟩
          rintro other (rfl | member)
          · exact (emission.since since).trans (emission.gate_le hsteady)
          · exact (hsince earliest (hkept since)).2 other member

/-- A message shuts the gate: no later call of the stretch returns one before T2 has passed. -/
def OneAtATime (retryTime : PldmFdTime) (stretch : List FdEvent) : Prop :=
  ∀ early first between call late, stretch = early ++ first :: (between ++ call :: late) →
    first.emits = true → call.emits = true →
    ∃ time, first.after.req.sentTime = some time ∧
      time + retryTime ≤ gateTime call.input.ops call.before

/-- The clock never goes back within a call of a steady run. -/
theorem Steady.of_mem {event : FdEvent} (steady : Steady events) (member : event ∈ events) :
    (readings event.log).Pairwise (· ≤ ·) := by
  obtain ⟨before, after, rfl⟩ := List.append_of_mem member
  rw [Steady, List.flatMap_append, List.flatMap_cons, List.pairwise_append,
    List.pairwise_append] at steady
  exact steady.2.1.1

theorem FdRun.emission_of_mem (run : FdRun profile origin events state)
    (coherent : Coherent origin) {event : FdEvent} (member : event ∈ events)
    (emits : event.emits = true) :
    ∃ time, Emission event.input.ops event.before event.after event.log time := by
  obtain ⟨before, after, rfl⟩ := List.append_of_mem member
  obtain ⟨prior, hevent, _⟩ := run.cut
  have hstep := @FdStep.run profile _ (prior.coherent coherent) event.input
  rw [hevent] at emits ⊢
  exact hstep.emission emits

theorem FdRun.oneAtATime (run : FdRun profile origin stretch state) (coherent : Coherent origin)
    (uncleared : Uncleared origin.state stretch)
    (steady : ∀ event ∈ stretch, (readings event.log).Pairwise (· ≤ ·)) :
    OneAtATime origin.fdT2RetryTime stretch := by
  rintro early first between call late rfl hfirst hcall
  obtain ⟨prior, _, through, rest⟩ := run.cut
  have hcoherent := through.coherent coherent
  obtain ⟨since, hevent, _⟩ := rest.cut
  have hmember : first ∈ early ++ first :: (between ++ call :: late) := by simp
  have hlater : call ∈ early ++ first :: (between ++ call :: late) := by simp
  obtain ⟨time, sends⟩ := run.emission_of_mem coherent hmember hfirst
  obtain ⟨_, again⟩ := run.emission_of_mem coherent hlater hcall
  obtain ⟨hbefore, hafter, _⟩ := uncleared first hmember
  have hspaced := since.spaced hcoherent (by rw [sends.state]; exact sends.active)
    (fun event member => by
      rw [hafter]
      exact uncleared event (by simp [member]))
    fun event member => steady event (by simp [member])
  have hsince := (hspaced.1 time ⟨sends.sent, time, sends.sentTime, le_rfl⟩).1
  refine ⟨time, sends.sentTime, ?_⟩
  have hle := again.since hsince
  rwa [since.fdT2RetryTime hcoherent, through.fdT2RetryTime coherent] at hle

/-- Every message writes the time it was sent into the slot and shuts the gate until T2 has
passed. While the clock does not go back, messages of one operation that no response clears
are T2 apart, and what a clearing response enables is one message at a time. Without a request
to send, or with one that was sent later than now, the device is quiet. -/
theorem paced (trace : FdTrace profile events state) :
    (∀ event ∈ events, event.emits = true → ∃ time ∈ readings event.log,
      event.after.req.sentTime = some time ∧
        ∀ reading < time + state.fdT2RetryTime, event.after.due reading = false) ∧
    (Steady events →
      (∀ before stretch after active, active.isInitiator = true →
        events = before ++ (stretch ++ after) → Uncleared active stretch →
        (sendTimes stretch).Pairwise fun time later => time + state.fdT2RetryTime ≤ later) ∧
      ∀ before response stretch after, events = before ++ response :: (stretch ++ after) →
        Clears response → Uncleared response.after.state stretch →
        OneAtATime state.fdT2RetryTime stretch) ∧
    ∀ input,
      (state.req.state = .unused ∨ state.req.state = .failed →
        (fdEvent profile state input).emits = false) ∧
      ∀ time, state.req.state = .sent → state.req.sentTime = some time →
        gateTime input.ops state < time → (fdEvent profile state input).emits = false := by
  refine ⟨?_, fun steady => ⟨?_, ?_⟩, ?_⟩
  · intro event member emits
    obtain ⟨time, emission⟩ := FdRun.emission_of_mem trace Coherent.init member emits
    obtain ⟨earlier, hread⟩ := emission.read
    refine ⟨time, by simp [hread], emission.sentTime, fun reading early => ?_⟩
    have hsince : SentSince time event.after := ⟨emission.sent, time, emission.sentTime, le_rfl⟩
    obtain ⟨before, after, rfl⟩ := List.append_of_mem member
    obtain ⟨_, _, through, rest⟩ := FdRun.cut trace
    rw [FdRun.fdT2RetryTime rest (FdTrace.coherent through)] at early
    exact hsince.not_due early
  · rintro before stretch after active hactive rfl uncleared
    obtain ⟨start, prior, rest⟩ := System.Trace.split trace rfl
    obtain ⟨_, run, remaining⟩ := System.Trace.split rest rfl
    have hcoherent := FdTrace.coherent prior
    rw [FdRun.fdT2RetryTime rest hcoherent]
    cases stretch with
    | nil => simp [sendTimes]
    | cons first stretch =>
        obtain ⟨_, hbefore, _⟩ := FdRun.head run hcoherent
        obtain rfl : start.state = active := by
          rw [← hbefore]
          exact (uncleared first List.mem_cons_self).1
        refine (FdRun.spaced run hcoherent hactive uncleared fun event member => ?_).2
        exact steady.of_mem (List.mem_append_right before (List.mem_append_left after member))
  · rintro before response stretch after rfl _ uncleared
    obtain ⟨_, _, through, rest⟩ := FdRun.cut trace
    have hcoherent := FdTrace.coherent through
    obtain ⟨_, run, _⟩ := System.Trace.split rest rfl
    rw [FdRun.fdT2RetryTime rest hcoherent]
    exact FdRun.oneAtATime run hcoherent uncleared fun event member =>
      steady.of_mem (by simp [member])
  · intro input
    have hdue (emits : (fdEvent profile state input).emits = true) :
        state.due (gateTime input.ops state) = true := by
      obtain ⟨_, emission⟩ := (trace.step input).emission emits
      exact emission.passed.due
    refine ⟨fun idle => ?_, fun time sent recorded early => ?_⟩
    · refine Bool.eq_false_iff.mpr fun emits => ?_
      rcases FdInternal.due_iff.mp (hdue emits) with ready | ⟨sent, _⟩
      · rcases idle with idle | idle <;> rw [idle] at ready <;> cases ready
      · rcases idle with idle | idle <;> rw [idle] at sent <;> cases sent
    · refine Bool.eq_false_iff.mpr fun emits => ?_
      rcases FdInternal.due_iff.mp (hdue emits) with ready | ⟨_, other, recorded', late⟩
      · rw [sent] at ready
        cases ready
      · obtain rfl := Option.some.inj (recorded.symm.trans recorded')
        exact absurd early (Nat.not_lt.mpr ((Nat.le_add_right _ _).trans late))

end Runs

/-- A verification is reported, and reported again when T2 has passed. -/
theorem paced_verification : ∃ before stretch state,
    FdTrace .release (before ++ stretch) state ∧ Steady (before ++ stretch) ∧
      Uncleared .verify stretch ∧ sendTimes stretch = [5, 5005] ∧
      (sendTimes stretch).Pairwise fun time later => time + state.fdT2RetryTime ≤ later := by
  obtain ⟨events, state, trace, hcheck⟩ := exists_run .release
    (throughDownload 100 ++ [poll (platform 5), poll (platform 5005)])
    (fun events _ => decide (Steady events) && (decide (sendTimes (events.drop 7) = [5, 5005]) &&
      (events.drop 7).all fun event => event.before.state = .verify &&
        (event.after.state = .verify &&
          event.input.operation = .fdProgress (List.replicate 16 0)))) (by decide +kernel)
  simp only [Bool.and_eq_true, decide_eq_true_eq, List.all_eq_true] at hcheck
  obtain ⟨steady, hsent, hcalls⟩ := hcheck
  have huncleared : Uncleared .verify (events.drop 7) := by
    intro event member
    obtain ⟨hbefore, hafter, hpoll⟩ := hcalls event member
    refine ⟨hbefore, hafter, ?_⟩
    rintro ⟨⟨_, hresponse, _⟩, _⟩
    rw [hpoll] at hresponse
    cases hresponse
  rw [← List.take_append_drop 7 events] at trace steady
  refine ⟨events.take 7, events.drop 7, state, trace, steady, huncleared, hsent, ?_⟩
  exact ((paced trace).2.1 steady).1 (events.take 7) (events.drop 7) [] .verify rfl
    (by rw [List.append_nil]) huncleared

end PldmLib.FirmwareDevice
