/-
# What the agent makes of a completion code

The agent converts the completion code of an answer with the tables of the base codes and of
the codes of firmware updates. The tables are kept by hand beside the codes themselves, and
the second one ends before the codes do: the codes behind its end are sent, but not converted
back.
-/

import PldmLib.FirmwareDevice.Verdict
import PldmLib.FirmwareDevice.Session

namespace PldmLib.FirmwareDevice

open PldmLib.Machine PldmLib.Protocol PldmLib.Message

/-! ## Codes -/

/-- The code stands for a variant. -/
def Defined (code : UInt8) : Prop :=
  (∃ variant : PldmBaseCompletionCode, variant.toU8 = code) ∨
    ∃ variant : FwUpdateCompletionCode, variant.toU8 = code

/-- The code stands for a variant, and the conversion of its table returns that variant. -/
structure Classified (code : UInt8) : Prop where
  defined : Defined code
  base : ∀ variant : PldmBaseCompletionCode, variant.toU8 = code →
    PldmBaseCompletionCode.tryFrom code = .ok variant
  fwUpdate : ∀ variant : FwUpdateCompletionCode, variant.toU8 = code →
    FwUpdateCompletionCode.tryFrom code = .ok variant

/-- The last code that is converted back. -/
def lastClassified : UInt8 := FwUpdateCompletionCode.packageDataError.toU8

theorem listed_base (variant : PldmBaseCompletionCode) : variant.toU8 ≤ lastClassified := by
  cases variant <;> decide

theorem classified_iff {code : UInt8} (defined : Defined code) :
    Classified code ↔ code ≤ lastClassified := by
  constructor
  · intro classified
    rcases defined with ⟨variant, rfl⟩ | ⟨variant, rfl⟩
    · exact listed_base variant
    · exact (FwUpdateCompletionCode.tryFrom_toU8_iff variant).mp (classified.fwUpdate variant rfl)
  · intro listed
    refine ⟨defined, ?_, ?_⟩
    · rintro variant rfl
      exact PldmBaseCompletionCode.tryFrom_toU8 variant
    · rintro variant rfl
      exact (FwUpdateCompletionCode.tryFrom_toU8_iff variant).mpr listed

theorem defined_of_refusal {code : UInt8} (refused : code ∈ refusalCodes) :
    Defined code ∧ code ≤ lastClassified := by
  simp only [refusalCodes, List.mem_cons, List.not_mem_nil, or_false] at refused
  rcases refused with rfl | rfl | rfl | rfl | rfl | rfl
  · exact ⟨.inl ⟨_, rfl⟩, by decide⟩
  · exact ⟨.inl ⟨_, rfl⟩, by decide⟩
  · exact ⟨.inr ⟨_, rfl⟩, by decide⟩
  · exact ⟨.inr ⟨_, rfl⟩, by decide⟩
  · exact ⟨.inr ⟨_, rfl⟩, by decide⟩
  · exact ⟨.inr ⟨_, rfl⟩, by decide⟩

/-- The platform activates with codes that stand for a variant. -/
def Codes (ops : FdOps) : Prop :=
  ∀ selfContained code time, ops.activate selfContained = .ok (code, time) → Defined code

/-- The answers with a code that is not converted back. -/
inductive Unclassified (ops : FdOps) (payload : List UInt8) (pre : FdInternal) : Handler → Prop
  | revision {request : ComponentRequest} {params : FirmwareParameters} (idle : pre.state = .idle)
      (decoded : ComponentRequest.decode payload = .ok request)
      (upstream : request.compClassification ≠ ComponentClassification.downstreamDevice)
      (answered : ops.getFirmwareParms = .ok params)
      (refused : ops.updateSecurityRevision (FdContext.namedComponent request) params =
        .ok .notPermitted) : Unclassified ops payload pre .updateSecurityRevision
  | activation {request : ActivateFirmwareRequest} {code : UInt8} {time : UInt16}
      (ready : pre.state = .readyXfer)
      (decoded : ActivateFirmwareRequest.decode payload = .ok request)
      (clear : ¬ (request.selfContainedActivationReq ≠ 0 ∧
        request.selfContainedActivationReq ≠ 1))
      (answered : ops.activate request.selfContainedActivationReq = .ok (code, time))
      (beyond : lastClassified < code) (room : 6 ≤ payload.length) :
      Unclassified ops payload pre .activateFirmware

namespace Decides

variable {ops : FdOps} {payload : List UInt8} {pre between : FdInternal} {handler : Handler}
  {log : List Callback}

/-- Every response has a code that stands for a variant. -/
theorem defined {response : Response} {commit : FdInternal → FdInternal} (codes : Codes ops)
    (decides : Decides ops payload pre handler (.reply response commit) between log) :
    Defined response.completionCode := by
  cases decides with
  | identified _ _ _ built =>
      exact .inl ⟨.success, (QueryDeviceIdentifiersResponse.fields_of_new built).1.symm⟩
  | activationAnswered _ _ _ answered => exact codes _ _ _ answered
  | @pendingAnswered _ _ result =>
      cases result with
      | activated time => exact .inl ⟨.success, rfl⟩
      | activationNotRequired => exact .inr ⟨.activationNotRequired, rfl⟩
      | notPermitted => exact .inr ⟨.activatePendingImageNotPermitted, rfl⟩
  | @revisionAnswered _ _ result =>
      cases result with
      | updated => exact .inl ⟨.success, rfl⟩
      | notPermitted => exact .inr ⟨.updateSecurityRevisionNotPermitted, rfl⟩
  | @componentCancelled _ cancel =>
      cases cancel with
      | true => exact .inl ⟨.success, rfl⟩
      | false => exact .inl ⟨.error, rfl⟩
  | @updateCancelled _ cancel =>
      cases cancel with
      | true => exact .inl ⟨.success, rfl⟩
      | false => exact .inl ⟨.error, rfl⟩
  | _ => exact .inl ⟨.success, rfl⟩

/-- A response with a code behind the end of the table is one of those listed. -/
theorem listed {response : Response} {commit : FdInternal → FdInternal}
    (decides : Decides ops payload pre handler (.reply response commit) between log)
    (room : response.toBytes.length ≤ payload.length)
    (classified : ¬ Unclassified ops payload pre handler) :
    response.completionCode ≤ lastClassified := by
  cases decides with
  | identified _ _ _ built =>
      rw [Response.completionCode, (QueryDeviceIdentifiersResponse.fields_of_new built).1]
      exact listed_base .success
  | activationAnswered ready decoded clear answered =>
      by_contra beyond
      exact classified (.activation ready decoded clear answered (UInt8.not_le.mp beyond) room)
  | @pendingAnswered _ _ result =>
      cases result with
      | activated time => exact listed_base .success
      | activationNotRequired =>
          exact (FwUpdateCompletionCode.tryFrom_toU8_iff .activationNotRequired).mp rfl
      | notPermitted =>
          exact (FwUpdateCompletionCode.tryFrom_toU8_iff .activatePendingImageNotPermitted).mp rfl
  | @revisionAnswered _ _ result _ idle decoded upstream answered handled =>
      cases result with
      | updated => exact listed_base .success
      | notPermitted => exact absurd (.revision idle decoded upstream answered handled) classified
  | @componentCancelled _ cancel =>
      cases cancel with
      | true => exact listed_base .success
      | false => exact listed_base .error
  | @updateCancelled _ cancel =>
      cases cancel with
      | true => exact listed_base .success
      | false => exact listed_base .error
  | _ => exact listed_base .success

/-- A call that answers with such a code has room for it. -/
theorem of_unclassified {verdict : Verdict}
    (decides : Decides ops payload pre handler verdict between log)
    (unclassified : Unclassified ops payload pre handler) :
    ∃ response commit, verdict = .reply response commit ∧ response.Fits ∧
      response.toBytes.length ≤ payload.length ∧
      lastClassified < response.completionCode := by
  cases unclassified with
  | revision idle decoded upstream answered refused =>
      have hresult {request : ComponentRequest} {params : FirmwareParameters}
          {result : Except FdOpsError SecurityRevisionResult}
          (decoded' : ComponentRequest.decode payload = .ok request)
          (answered' : ops.getFirmwareParms = .ok params)
          (handled : ops.updateSecurityRevision (FdContext.namedComponent request) params =
            result) : result = .ok .notPermitted := by
        obtain rfl := Except.ok.inj (decoded.symm.trans decoded')
        obtain rfl := Except.ok.inj (answered.symm.trans answered')
        exact handled.symm.trans refused
      cases decides with
      | misplaced gated => simp [Handler.gate, idle] at gated
      | undecoded failed => simp [Handler.decodeError, decoded, errorOf] at failed
      | proxied _ decoded' downstream =>
          obtain rfl := Except.ok.inj (decoded.symm.trans decoded')
          exact absurd downstream upstream
      | namedUnknown _ failed =>
          rw [answered] at failed
          cases failed
      | revisionFailed decoded' answered' failed => cases hresult decoded' answered' failed
      | revisionAnswered _ decoded' _ answered' handled =>
          obtain rfl := Except.ok.inj (hresult decoded' answered' handled)
          have hroom := ComponentRequest.length_le_of_decode decoded
          have hbeyond : lastClassified < SecurityRevisionResult.notPermitted.toCompletionCode := by
            decide
          refine ⟨_, _, rfl, trivial, ?_, hbeyond⟩
          rw [Response.toBytes, CompletionResponse.length_toBytes]
          omega
      | cancelFailed cancels => cases cancels
  | activation ready decoded clear answered beyond room =>
      cases decides with
      | misplaced gated => simp [Handler.gate, ready] at gated
      | undecoded failed => simp [Handler.decodeError, decoded, errorOf] at failed
      | activationUnclear decoded' unclear =>
          obtain rfl := Except.ok.inj (decoded.symm.trans decoded')
          exact absurd unclear clear
      | activationFailed decoded' failed =>
          obtain rfl := Except.ok.inj (decoded.symm.trans decoded')
          rw [answered] at failed
          cases failed
      | activationAnswered _ decoded' _ answered' =>
          obtain rfl := Except.ok.inj (decoded.symm.trans decoded')
          obtain ⟨rfl, rfl⟩ := Prod.mk.inj (Except.ok.inj (answered.symm.trans answered'))
          exact ⟨_, _, rfl, trivial, room, beyond⟩
      | proxied serves => simp at serves
      | namedUnknown serves => simp at serves
      | cancelFailed cancels => cases cancels

end Decides

/-- Exactly the answers listed have a code that the agent cannot classify. -/
theorem classified_iff_answer (profile : Profile) (pre : FdInternal) (handler : Handler)
    (payload : List UInt8) (ops : FdOps) (codes : Codes ops) :
    (∀ code, (fdEvent profile pre ⟨.request handler payload, ops⟩).completionCode = some code →
      Classified code) ↔ ¬ Unclassified ops payload pre handler := by
  obtain ⟨verdict, between, outcome, decides, finished, houtcome⟩ :=
    handler_ends profile pre handler payload ops
  generalize fdEvent profile pre ⟨.request handler payload, ops⟩ = event at *
  constructor
  · intro classifies unclassified
    obtain ⟨response, commit, rfl, fits, room, beyond⟩ := decides.of_unclassified unclassified
    obtain ⟨hcode, _⟩ := finished.of_reply houtcome fits room
    have hclassified := classifies _ hcode
    exact absurd ((classified_iff hclassified.defined).mp hclassified) (UInt8.not_le.mpr beyond)
  · intro classified code coded
    rcases finished.answer_cases decides houtcome coded with
      refused | ⟨response, commit, rfl, _, room, rfl, _⟩
    · obtain ⟨defined, listed⟩ := defined_of_refusal refused
      exact (classified_iff defined).mpr listed
    · exact (classified_iff (decides.defined codes)).mpr (decides.listed room classified)

/-- A platform that does not commit security revisions. -/
def uncommitted : FdOps := { platform 0 with updateSecurityRevision := fun _ _ => .ok .notPermitted }

/-- The active image of component 1. -/
def commitRevision : List UInt8 :=
  Agent.requestHeader .updateSecurityRevision ++ [10, 0, 1, 0, 0]

/-- The agent cannot tell why a fresh device does not commit a revision. -/
theorem refusal_unclassified : ∃ code,
    (fdEvent .release .default
      (receive .updateSecurityRevision commitRevision uncommitted)).completionCode = some code ∧
    code = FwUpdateCompletionCode.updateSecurityRevisionNotPermitted.toU8 ∧
    ¬ Classified code := by
  refine ⟨_, by decide +kernel, rfl, fun classified => ?_⟩
  have hknown := classified.fwUpdate .updateSecurityRevisionNotPermitted rfl
  cases hknown

theorem classified_iff_answer_uncommitted : Codes uncommitted ∧
    ((∀ code, (fdEvent .release .default
      (receive .updateSecurityRevision commitRevision uncommitted)).completionCode = some code →
        Classified code) ↔ ¬ Unclassified uncommitted commitRevision .default
          .updateSecurityRevision) := by
  have hcodes : Codes uncommitted := by
    rintro selfContained code time ⟨⟩
    exact .inl ⟨.success, rfl⟩
  exact ⟨hcodes, classified_iff_answer .release .default .updateSecurityRevision commitRevision
    uncommitted hcodes⟩

end PldmLib.FirmwareDevice
