/-
# Superseded requests

A poll that repeats a request takes another instance ID for it, and so does a poll that takes
one and fails. As long as the slot is not cleared the IDs go up by one, so those of the last
32 polls are all different. Then an answer to a transmission that has been repeated since is
dropped, and only the answer to the last one counts.
-/

import PldmLib.FirmwareDevice.Network

namespace PldmLib.FirmwareDevice

open PldmLib.Machine PldmLib.Protocol PldmLib.Message

/-! ## Counting -/

/-- The polls of a run. -/
def polls (events : List FdEvent) : ℕ := events.countP fun event => event.input.operation.isPoll

/-- The slot has an ID after every call. -/
def Holding (events : List FdEvent) : Prop :=
  ∀ event ∈ events, event.after.req.instanceId ≠ none

/-- How far the ID in the slot has got: at least one place for each request that was handed
over, and at most one for each poll. -/
structure Advanced (id : UInt8) (events : List FdEvent) (state : FdInternal) (places : ℕ) :
    Prop where
  held : state.req.instanceId = some (idAfter id places)
  sent_le : (events.filterMap FdEvent.sent).length ≤ places
  le_polls : places ≤ polls events

namespace Advanced

variable {id : UInt8} {events : List FdEvent} {state : FdInternal} {places : ℕ} {event : FdEvent}

theorem left (advanced : Advanced id events state places)
    (same : event.after.req.instanceId = state.req.instanceId) (silent : event.sent = none) :
    Advanced id (events ++ [event]) event.after places where
  held := same.trans advanced.held
  sent_le := by
    rw [List.filterMap_append]
    simpa [silent] using advanced.sent_le
  le_polls := by
    rw [polls, List.countP_append]
    exact advanced.le_polls.trans (Nat.le_add_right _ _)

theorem taken (advanced : Advanced id events state places)
    (polled : event.input.operation.isPoll = true)
    (next : event.after.req.instanceId = some state.nextInstanceId) :
    Advanced id (events ++ [event]) event.after (places + 1) where
  held := by rw [next, nextInstanceId_idAfter advanced.held]
  sent_le := by
    have hone : ([event].filterMap FdEvent.sent).length ≤ 1 :=
      (List.length_filterMap_le _ _).trans le_rfl
    rw [List.filterMap_append, List.length_append]
    exact Nat.add_le_add advanced.sent_le hone
  le_polls := by
    rw [polls, List.countP_append, List.countP_singleton, polled]
    exact Nat.add_le_add_right advanced.le_polls 1

end Advanced

section Runs

variable {profile : Profile} {origin state : FdInternal} {events : List FdEvent} {id : UInt8}

theorem FdRun.advanced (run : FdRun profile origin events state) (coherent : Coherent origin)
    (small : id < instanceIdCount) (holds : origin.req.instanceId = some id) :
    Holding events → ∃ places, Advanced id events state places := by
  refine (run.induct coherent (fun events state => Holding events →
    ∃ places, Advanced id events state places) ?_ ?_).1
  · intro _
    exact ⟨0, by rw [idAfter_zero small]; exact holds, le_rfl, le_rfl⟩
  · intro events pre input output sent _ ih step live hsent holding
    obtain ⟨held, hnow⟩ := forall_mem_concat.mp holding
    obtain ⟨places, advanced⟩ := ih held
    cases step.idStep with
    | left same => exact ⟨places, advanced.left same hsent.symm⟩
    | taken polled next carried => exact ⟨places + 1, advanced.taken polled next⟩
    | cleared emptied => exact absurd emptied hnow

/-- A response to nothing that is outstanding is dropped. -/
structure Dropped (profile : Profile) (state : FdInternal) (payload : List UInt8)
    (ops : FdOps) : Prop where
  fails : ∃ error, (fdEvent profile state ⟨.handleResponse payload, ops⟩).output.outcome =
    .err error
  unmoved : (fdEvent profile state ⟨.handleResponse payload, ops⟩).after = state
  unasked : (fdEvent profile state ⟨.handleResponse payload, ops⟩).log = []

theorem Coherent.dropped (coherent : Coherent state) {payload : List UInt8}
    (unexpected : accepts state.req payload = false) (ops : FdOps) :
    Dropped profile state payload ops := by
  obtain ⟨_, outcome, houtcome, step⟩ :=
    (@FdStep.run profile state coherent ⟨.handleResponse payload, ops⟩).of_response
  have hends : (∃ error, outcome = .err error) ∧
      (fdStep profile state ⟨.handleResponse payload, ops⟩).internal = state ∧
      (fdStep profile state ⟨.handleResponse payload, ops⟩).log = [] := by
    generalize fdStep profile state ⟨.handleResponse payload, ops⟩ = output at step ⊢
    obtain ⟨_, post, _, log⟩ := output
    dsimp only at step ⊢
    cases step with
    | ignored _ => exact ⟨⟨_, rfl⟩, rfl, rfl⟩
    | _ => simp_all
  obtain ⟨⟨error, rfl⟩, hunmoved, hunasked⟩ := hends
  exact ⟨⟨error, houtcome⟩, hunmoved, hunasked⟩

/-- An answer to a request that has been repeated since is dropped, if fewer than 32 polls
have been made since it was sent and the slot has not been cleared. -/
theorem superseded_answer_dropped {before since : List FdEvent} {asked : FdEvent}
    (trace : FdTrace profile (before ++ asked :: since) state) {request : FdRequest}
    (sent : asked.sent = some request) (held : Holding since)
    (repeated : ∃ event ∈ since, event.sent ≠ none) (few : polls since < 32)
    {payload : List UInt8} {header : PldmMsgHeader}
    (decoded : PldmMsgHeader.decode payload = .ok header)
    (late : header.instanceId = request.instanceId) (ops : FdOps) :
    Dropped profile state payload ops := by
  obtain ⟨prior, called, first, second⟩ := FdRun.cut trace
  obtain ⟨hid, hsmall⟩ := FdTrace.instanceId_of_sent prior called sent
  obtain ⟨places, advanced⟩ := second.advanced (FdTrace.coherent first) hsmall hid held
  have hon : 0 < places := by
    obtain ⟨event, member, hsent⟩ := repeated
    obtain ⟨again, hagain⟩ := Option.ne_none_iff_exists'.mp hsent
    have hmem : again ∈ since.filterMap FdEvent.sent :=
      List.mem_filterMap.mpr ⟨event, member, hagain⟩
    exact (List.length_pos_of_mem hmem).trans_le advanced.sent_le
  refine (FdTrace.coherent trace).dropped ?_ ops
  rw [Bool.eq_false_iff]
  intro accepted
  obtain ⟨other, hother, _, hheld, _⟩ := ResponseStep.accepts_iff.mp accepted
  obtain rfl := Except.ok.inj (decoded.symm.trans hother)
  rw [advanced.held, late] at hheld
  exact idAfter_ne hsmall hon (advanced.le_polls.trans_lt few) (Option.some.inj hheld)

end Runs

theorem superseded_answer_dropped_repeated : ∃ events state, FdTrace .release events state ∧
    Dropped .release state (LateAnswer.firstRequest.answer countingImage) (asksAt 0 10001) := by
  obtain ⟨events, origin, trace, hcheck⟩ := exists_run .release (opening 100)
    (fun _ state => decide (
      (LateAnswer.first state).output.outcome = .ok (.length 11) ∧
      (LateAnswer.first state).sent = some (.requestFirmwareData 1 0 32) ∧
      (LateAnswer.repeated state).output.outcome = .ok (.length 11) ∧
      (LateAnswer.repeated state).sent ≠ none ∧
      (LateAnswer.repeated state).after.req.instanceId ≠ none)) (by decide +kernel)
  obtain ⟨hfirst, hsent, hrepeated, hagain, hholds⟩ := of_decide_eq_true hcheck
  have asked : FdTrace .release (events ++ [LateAnswer.first origin])
      (LateAnswer.first origin).after := by
    apply trace.extend
    rw [show (fdEvent .release origin (poll (asksAt 0 1))).output.outcome = _ from hfirst]
    exact nofun
  have again : FdTrace .release (events ++ LateAnswer.first origin ::
      [LateAnswer.repeated origin]) (LateAnswer.repeated origin).after := by
    rw [List.append_cons]
    apply asked.extend
    rw [show (fdEvent .release (LateAnswer.first origin).after
      (poll (asksAt 0 10000))).output.outcome = _ from hrepeated]
    exact nofun
  have few : polls [LateAnswer.repeated origin] < 32 := by
    have hone : polls [LateAnswer.repeated origin] ≤ 1 := List.countP_le_length
    omega
  exact ⟨_, _, again, superseded_answer_dropped again hsent (by simpa [Holding] using hholds)
    ⟨_, List.mem_singleton_self _, hagain⟩ few rfl (by decide +kernel) _⟩

end PldmLib.FirmwareDevice
