/-
# What a refused request leaves behind

A call that fails, or answers with a code that declines the request, is to leave the device
as it was but for the T1 timestamp. Every verdict that declines is reached with no more than
the timestamp written, with one exception: `UpdateComponent` records the component and the
option flags before it asks the platform, and keeps them when the platform fails.
-/

import PldmLib.FirmwareDevice.Verdict
import PldmLib.FirmwareDevice.Session

namespace PldmLib.FirmwareDevice

open PldmLib.Machine PldmLib.Protocol PldmLib.Message

/-! ## Refusals -/

/-- The codes of a request that was carried out. -/
def CarriedOut (code : UInt8) : Prop :=
  code = PldmBaseCompletionCode.success.toU8 ∨
    code = FwUpdateCompletionCode.activationNotRequired.toU8

instance (code : UInt8) : Decidable (CarriedOut code) := inferInstanceAs (Decidable (_ ∨ _))

/-- The call fails, or answers with a code that declines the request. -/
def Declines (event : FdEvent) : Prop :=
  (∃ error, event.output.outcome = .err error) ∨
    ∃ code, event.completionCode = some code ∧ ¬ CarriedOut code

/-- `UpdateComponent` names another component, or other flags, than the device has, and
the platform fails. -/
structure LeavesComponent (ops : FdOps) (payload : List UInt8) (pre : FdInternal)
    (handler : Handler) : Prop where
  handler : handler = .updateComponent
  ready : pre.state = .readyXfer
  request : ∃ request, UpdateComponentRequest.decode payload = .ok request ∧
    (FdContext.describedComponent request ≠ pre.updateComp ∨
      ⟨request.updateOptionFlags⟩ ≠ pre.updateFlags) ∧
    ((∃ error, ops.getFirmwareParms = .error error) ∨ ∃ params error,
      ops.getFirmwareParms = .ok params ∧ ops.handleComponent
        (FdContext.describedComponent request) params .updateComponent = .error error)

/-! ## What the verdicts have written -/

namespace Retimed

variable {pre between : FdInternal}

theorem updateComp_eq (retimed : Retimed pre between) : between.updateComp = pre.updateComp := by
  obtain ⟨time, rfl⟩ := retimed
  rfl

theorem updateFlags_eq (retimed : Retimed pre between) :
    between.updateFlags = pre.updateFlags := by
  obtain ⟨time, rfl⟩ := retimed
  rfl

/-- Recording what the device already has records nothing. -/
theorem recorded {request : UpdateComponentRequest} (retimed : Retimed pre between)
    (component : FdContext.describedComponent request = pre.updateComp)
    (flags : ⟨request.updateOptionFlags⟩ = pre.updateFlags) :
    Retimed pre (FirmwareDevice.recorded request between) := by
  obtain ⟨time, rfl⟩ := retimed
  refine ⟨time, ?_⟩
  rw [FirmwareDevice.recorded, component, flags]
  rfl

end Retimed

namespace Decides

variable {ops : FdOps} {payload : List UInt8} {pre between : FdInternal} {handler : Handler}
  {log : List Callback}

theorem retimed_of_refusal {code : UInt8}
    (decides : Decides ops payload pre handler (.refusal code) between log) :
    Retimed pre between := by
  cases decides with
  | undecoded _ retimed => exact retimed
  | transferTooSmall _ _ retimed => exact retimed
  | flagUnknown _ _ retimed => exact retimed
  | _ => exact .refl pre

/-- A failure has written the timestamp only, or has recorded a component that the
platform fails on. -/
theorem retimed_of_failure {error : MsgHandlerError}
    (decides : Decides ops payload pre handler (.failure error) between log)
    (spared : ¬ LeavesComponent ops payload pre handler) : Retimed pre between := by
  cases decides with
  | sizeUnknown _ _ retimed => exact retimed
  | passedUnknown _ retimed => exact retimed
  | passedUnhandled _ retimed => exact retimed
  | @describedUnknown request _ _ ready decoded failed retimed =>
      by_cases same : FdContext.describedComponent request = pre.updateComp ∧
          ⟨request.updateOptionFlags⟩ = pre.updateFlags
      · exact retimed.recorded same.1 same.2
      · exact absurd ⟨rfl, ready, _, decoded, not_and_or.mp same, .inl ⟨_, failed⟩⟩ spared
  | @describedUnhandled request _ _ _ ready decoded answered failed retimed =>
      by_cases same : FdContext.describedComponent request = pre.updateComp ∧
          ⟨request.updateOptionFlags⟩ = pre.updateFlags
      · exact retimed.recorded same.1 same.2
      · exact absurd
          ⟨rfl, ready, _, decoded, not_and_or.mp same, .inr ⟨_, _, answered, failed⟩⟩ spared
  | cancelFailed _ _ _ retimed => exact retimed
  | functionsUnknown _ _ retimed => exact retimed
  | _ => exact .refl pre

/-- A response that does not fit has written the timestamp only. -/
theorem retimed_of_reply {response : Response} {commit : FdInternal → FdInternal}
    (decides : Decides ops payload pre handler (.reply response commit) between log)
    (short : response.Fits → payload.length < response.toBytes.length) : Retimed pre between := by
  cases decides with
  | updateGranted _ decoded =>
      have hroom := RequestUpdateRequest.length_le_of_decode decoded
      have hshort := short rfl
      simp [Response.toBytes, RequestUpdateResponse.toBytes, RequestUpdateResponse.new,
        RequestUpdateResponse.fixedBytes, optionBytes] at hshort
      omega
  | passed _ _ _ _ retimed => exact retimed
  | described _ decoded =>
      have hroom := UpdateComponentRequest.length_le_of_decode decoded
      have hshort := short trivial
      rw [Response.toBytes, UpdateComponentResponse.length_toBytes] at hshort
      simp [UpdateComponentResponse.codecSizeInBytes, UpdateComponentResponse.new] at hshort
      omega
  | updateCancelled _ _ _ retimed => exact retimed
  | _ => exact .refl pre

/-- A response that declines the request commits nothing. -/
theorem retimed_of_code {response : Response} {commit : FdInternal → FdInternal}
    (decides : Decides ops payload pre handler (.reply response commit) between log)
    (refused : ¬ CarriedOut response.completionCode) : Retimed pre (commit between) := by
  cases decides with
  | identified _ _ _ built =>
      have hcode := (QueryDeviceIdentifiersResponse.fields_of_new built).1
      exact absurd (.inl hcode) refused
  | @activationAnswered _ code =>
      have hcommit : ¬ (code = PldmBaseCompletionCode.success.toU8 ∨
          code = FwUpdateCompletionCode.activationNotRequired.toU8) := refused
      simp only [if_neg hcommit]
      exact .refl pre
  | pendingAnswered => exact .refl pre
  | revisionAnswered => exact .refl pre
  | @componentCancelled _ cancel =>
      cases cancel with
      | true => exact absurd (.inl rfl) refused
      | false => exact .refl pre
  | @updateCancelled _ cancel _ _ _ _ _ _ retimed =>
      cases cancel with
      | true => exact absurd (.inl rfl) refused
      | false => exact retimed
  | _ => exact absurd (.inl rfl) refused

/-- A component that the platform fails on makes the call fail with the component
recorded. -/
theorem of_leavesComponent {verdict : Verdict}
    (decides : Decides ops payload pre handler verdict between log)
    (leaves : LeavesComponent ops payload pre handler) :
    (∃ error, verdict = .failure error) ∧ ¬ Retimed pre between := by
  obtain ⟨rfl, ready, request, decoded, differs, failed⟩ := leaves
  have hrecorded {request' : UpdateComponentRequest} {before : FdInternal}
      (decoded' : UpdateComponentRequest.decode payload = .ok request') :
      ¬ Retimed pre (recorded request' before) := by
    obtain rfl := Except.ok.inj (decoded.symm.trans decoded')
    intro retimed
    rcases differs with component | flags
    · exact component retimed.updateComp_eq
    · exact flags retimed.updateFlags_eq
  have hhandled {request' : UpdateComponentRequest} {params : FirmwareParameters}
      {code : ComponentResponseCode}
      (decoded' : UpdateComponentRequest.decode payload = .ok request')
      (answered : ops.getFirmwareParms = .ok params)
      (handled : ops.handleComponent (FdContext.describedComponent request') params
        .updateComponent = .ok code) : False := by
    obtain rfl := Except.ok.inj (decoded.symm.trans decoded')
    rcases failed with ⟨error, failed⟩ | ⟨params', error, answered', failed⟩
    · rw [failed] at answered
      cases answered
    · obtain rfl := Except.ok.inj (answered.symm.trans answered')
      rw [failed] at handled
      cases handled
  cases decides with
  | misplaced gated => simp [Handler.gate, ready] at gated
  | undecoded failed => simp [Handler.decodeError, decoded, errorOf] at failed
  | describedUnknown _ decoded' => exact ⟨⟨_, rfl⟩, hrecorded decoded'⟩
  | describedUnhandled _ decoded' => exact ⟨⟨_, rfl⟩, hrecorded decoded'⟩
  | vendorAnswer _ decoded' answered handled => exact (hhandled decoded' answered handled).elim
  | described _ decoded' answered handled => exact (hhandled decoded' answered handled).elim
  | proxied serves => simp at serves
  | namedUnknown serves => simp at serves
  | cancelFailed cancels => cases cancels

end Decides

/-! ## What a call of a handler has written -/

/-- A refused request leaves nothing behind but the timestamp, unless it leaves a
component. -/
theorem retimed_of_declines {profile : Profile} {pre : FdInternal} {handler : Handler}
    {payload : List UInt8} {ops : FdOps} (spared : ¬ LeavesComponent ops payload pre handler)
    (declines : Declines (fdEvent profile pre ⟨.request handler payload, ops⟩)) :
    Retimed pre (fdEvent profile pre ⟨.request handler payload, ops⟩).after := by
  obtain ⟨verdict, between, outcome, decides, finished, houtcome⟩ :=
    handler_ends profile pre handler payload ops
  generalize fdEvent profile pre ⟨.request handler payload, ops⟩ = event at *
  generalize hpost : event.after = post at finished
  generalize hfinal : event.output.payload = final at finished
  cases finished with
  | refused => exact decides.retimed_of_refusal
  | unrefused => exact decides.retimed_of_refusal
  | failed => exact decides.retimed_of_failure spared
  | replaced short finished =>
      rw [finished.post_of_refusal]
      exact decides.retimed_of_reply short
  | answered fits room written =>
      apply decides.retimed_of_code
      have hcode := FdEvent.completionCode_of_answer houtcome (hfinal ▸ written)
      rcases declines with ⟨error, failed⟩ | ⟨code, coded, refused⟩
      · rw [houtcome] at failed
        cases failed
      · rw [hcode] at coded
        rwa [Option.some.inj coded]
  | crashed =>
      rcases declines with ⟨error, failed⟩ | ⟨code, coded, refused⟩
      · rw [houtcome] at failed
        cases failed
      · simp [FdEvent.completionCode, houtcome, Outcome.map] at coded
  | overrun =>
      rcases declines with ⟨error, failed⟩ | ⟨code, coded, refused⟩
      · rw [houtcome] at failed
        cases failed
      · simp [FdEvent.completionCode, houtcome, Outcome.map] at coded

/-- Exactly where the platform fails on a newly described component, a refused request
leaves more behind than the T1 timestamp. -/
theorem refusal_retimes_iff (profile : Profile) (pre : FdInternal) (handler : Handler)
    (payload : List UInt8) (ops : FdOps) :
    (Declines (fdEvent profile pre ⟨.request handler payload, ops⟩) →
      Retimed pre (fdEvent profile pre ⟨.request handler payload, ops⟩).after) ↔
        ¬ LeavesComponent ops payload pre handler := by
  constructor
  · intro retimes leaves
    obtain ⟨verdict, between, outcome, decides, finished, houtcome⟩ :=
      handler_ends profile pre handler payload ops
    generalize fdEvent profile pre ⟨.request handler payload, ops⟩ = event at *
    obtain ⟨⟨error, rfl⟩, hmore⟩ := decides.of_leavesComponent leaves
    cases finished
    exact hmore (retimes (.inl ⟨error, houtcome⟩))
  · exact fun spared declines => retimed_of_declines spared declines

/-- The platform cannot say what is installed. -/
def uninformed : FdOps := { platform 0 with getFirmwareParms := .error .firmwareParametersError }

/-- The device fails on a component of 100 bytes and keeps it. -/
theorem component_left : ∃ events state, FdTrace .release events state ∧
    Declines (fdEvent .release state
      (receive .updateComponent (Agent.updateComponent 100) uninformed)) ∧
    ¬ Retimed state (fdEvent .release state
      (receive .updateComponent (Agent.updateComponent 100) uninformed)).after := by
  obtain ⟨events, state, trace, hcheck⟩ := exists_run .release untilReady
    (fun _ state => (fdEvent .release state (receive .updateComponent (Agent.updateComponent 100)
        uninformed)).output.outcome = .err (.fdOps .firmwareParametersError) &&
      (fdEvent .release state (receive .updateComponent (Agent.updateComponent 100)
        uninformed)).after.updateComp ≠ state.updateComp) (by decide +kernel)
  simp only [Bool.and_eq_true, decide_eq_true_eq] at hcheck
  obtain ⟨hfailed, hcomponent⟩ := hcheck
  exact ⟨events, state, trace, .inl ⟨_, hfailed⟩, fun retimed => hcomponent retimed.updateComp_eq⟩

end PldmLib.FirmwareDevice
