/-
# Two runs of one program

A call that is run from two states that are alike in what it looks at returns the same twice,
and the states that it leaves are alike again. The rules take a call apart as it is written;
a step that changes what has to be alike says so in its postcondition.

A system whose steps are the same on inputs that are alike takes the same course on both
(`System.Trace.follow`).
-/

import Mathlib.Data.List.Forall2
import PldmLib.Machine.Outcome
import PldmLib.Machine.Run

namespace PldmLib.Machine

namespace Call

universe u v w

variable {σ : Type u} {τ : Type*} {ε : Type v} {α β : Type w}

/-- From any two states related by `before` the call returns the same, and leaves states
that are related by what the outcome makes of them. -/
def Lockstep (before : σ → σ → Prop) (after : Outcome ε α → σ → σ → Prop)
    (call : Call σ ε α) : Prop :=
  ∀ state state', before state state' →
    (call state').1 = (call state).1 ∧ after (call state).1 (call state).2 (call state').2

variable {before : σ → σ → Prop} {after : Outcome ε α → σ → σ → Prop}

/-- A step, what follows its value, and how it can end without one. -/
theorem Lockstep.bind {final : Outcome ε β → σ → σ → Prop} {call : Call σ ε α}
    {next : α → Call σ ε β} (first : Lockstep before after call)
    (goesOn : ∀ value, Lockstep (after (.ok value)) final (next value))
    (fails : ∀ error state state', after (.err error) state state' →
      final (.err error) state state')
    (panics : ∀ state state', after .panic state state' → final .panic state state') :
    Lockstep before final (call >>= next) := by
  intro state state' alike
  have hboth := first state state' alike
  show (Call.bind call next state').1 = (Call.bind call next state).1 ∧
    final (Call.bind call next state).1 (Call.bind call next state).2 (Call.bind call next state').2
  unfold Call.bind
  generalize call state = ended at hboth
  generalize call state' = ended' at hboth
  obtain ⟨outcome, reached⟩ := ended
  obtain ⟨outcome', reached'⟩ := ended'
  obtain ⟨rfl, hrelated⟩ := hboth
  cases outcome' with
  | ok value => exact goesOn value reached reached' hrelated
  | err error => exact ⟨rfl, fails error reached reached' hrelated⟩
  | panic => exact ⟨rfl, panics reached reached' hrelated⟩

/-- A computed outcome. -/
theorem lockstep_ofOutcome {outcome : Outcome ε α}
    (kept : ∀ state state', before state state' → after outcome state state') :
    Lockstep before after (ofOutcome outcome) :=
  fun state state' alike => ⟨rfl, kept state state' alike⟩

theorem lockstep_pure {value : α}
    (kept : ∀ state state', before state state' → after (.ok value) state state') :
    Lockstep before after (pure value) :=
  lockstep_ofOutcome kept

theorem lockstep_fail {error : ε}
    (kept : ∀ state state', before state state' → after (.err error) state state') :
    Lockstep before after (fail error) :=
  lockstep_ofOutcome kept

theorem lockstep_update {after : Outcome ε PUnit → σ → σ → Prop} {change : σ → σ}
    (kept : ∀ state state', before state state' → after (.ok ⟨⟩) (change state) (change state')) :
    Lockstep before after (update change) :=
  fun state state' alike => ⟨rfl, kept state state' alike⟩

/-- Something that is read off the state, and is the same in both. -/
theorem lockstep_read {ρ : Type*} (read : σ → ρ) {next : ρ → Call σ ε α}
    (same : ∀ state state', before state state' → read state' = read state)
    (goesOn : ∀ value, Lockstep before after (next value)) :
    Lockstep before after fun state => next (read state) state := by
  intro state state' alike
  show (next (read state') state').1 = (next (read state) state).1 ∧ after _ _
    (next (read state') state').2
  rw [same state state' alike]
  exact goesOn (read state) state state' alike

/-- A call on a component. -/
theorem lockstep_on {before : τ → τ → Prop} {after : Outcome ε α → τ → τ → Prop}
    {within : σ → σ → Prop} {left : Outcome ε α → σ → σ → Prop} {read : τ → σ}
    {write : τ → σ → τ} {inner : Call σ ε α} (lockstep : Lockstep within left inner)
    (entered : ∀ state state', before state state' → within (read state) (read state'))
    (returned : ∀ outcome state state' reached reached', before state state' →
      left outcome reached reached' → after outcome (write state reached) (write state' reached')) :
    Lockstep before after (on read write inner) := by
  intro state state' alike
  have hboth := lockstep _ _ (entered state state' alike)
  exact ⟨hboth.1, returned _ _ _ _ _ alike hboth.2⟩

/-- The same with the error handed over as a value. -/
theorem lockstep_attemptOn {ε' : Type*} {before : τ → τ → Prop}
    {after : Outcome ε (Except ε' α) → τ → τ → Prop} {within : σ → σ → Prop}
    {left : Outcome ε' α → σ → σ → Prop} {read : τ → σ} {write : τ → σ → τ}
    {inner : Call σ ε' α} (lockstep : Lockstep within left inner)
    (entered : ∀ state state', before state state' → within (read state) (read state'))
    (returned : ∀ state state' reached reached', before state state' →
      (∀ value, left (.ok value) reached reached' →
        after (.ok (.ok value)) (write state reached) (write state' reached')) ∧
      (∀ error, left (.err error) reached reached' →
        after (.ok (.error error)) (write state reached) (write state' reached')) ∧
      (left .panic reached reached' →
        after .panic (write state reached) (write state' reached'))) :
    Lockstep before after (attemptOn read write inner) := by
  intro state state' alike
  have hboth := lockstep _ _ (entered state state' alike)
  unfold attemptOn
  generalize inner (read state) = ended at hboth
  generalize inner (read state') = ended' at hboth
  obtain ⟨outcome, reached⟩ := ended
  obtain ⟨outcome', reached'⟩ := ended'
  obtain ⟨rfl, hrelated⟩ := hboth
  have hends := returned state state' reached reached' alike
  cases outcome' with
  | ok value => exact ⟨rfl, hends.1 value hrelated⟩
  | err error => exact ⟨rfl, hends.2.1 error hrelated⟩
  | panic => exact ⟨rfl, hends.2.2 hrelated⟩

end Call

/-! ## Runs -/

theorem forall₂_concat_left {α β : Type*} {related : α → β → Prop} {all : List α} {last : α}
    {others : List β} (pairwise : List.Forall₂ related (all ++ [last]) others) :
    ∃ before final, others = before ++ [final] ∧ List.Forall₂ related all before ∧
      related last final := by
  have hlength := pairwise.length_eq
  rcases List.eq_nil_or_concat others with rfl | ⟨before, final, rfl⟩
  · simp at hlength
  · rw [List.concat_eq_append] at pairwise hlength ⊢
    have hsame : before.length = all.length := by simpa using hlength.symm
    have hfront := List.forall₂_take_append _ _ _ pairwise
    have hback := List.forall₂_drop_append _ _ _ pairwise
    rw [hsame, List.take_left] at hfront
    rw [hsame, List.drop_left] at hback
    cases hback with
    | cons related => exact ⟨before, final, rfl, hfront, related⟩

namespace System

universe u v w

variable {S : Type u} {I : Type v} {O : Type w} {system : System S I O} {origin : S}

/-- If every step goes on to the same state on inputs that are alike, so does every run. -/
theorem Trace.follow {alike : I → I → Prop} {same : Event S I O → Event S I O → Prop}
    (step : ∀ events state input input' reached, system.Trace origin events state →
      alike input input' → system.next (system.step state input) = some reached →
      system.next (system.step state input') = some reached ∧
        same (system.event state input) (system.event state input'))
    {events : List (Event S I O)} {state : S} (trace : system.Trace origin events state) :
    ∀ inputs', List.Forall₂ alike (events.map Event.input) inputs' →
      ∃ events', system.Trace origin events' state ∧ events'.map Event.input = inputs' ∧
        List.Forall₂ same events events' := by
  induction trace with
  | start =>
      intro inputs' pairwise
      cases pairwise
      exact ⟨[], .start, rfl, .nil⟩
  | @extend events state reached prior input live ih =>
      intro inputs' pairwise
      rw [List.map_append] at pairwise
      obtain ⟨before, final, rfl, hbefore, hlast⟩ := forall₂_concat_left pairwise
      obtain ⟨events', trace', hinputs, hsame⟩ := ih before hbefore
      obtain ⟨live', hevent⟩ := step events state input final reached prior hlast live
      refine ⟨events' ++ [system.event state final], trace'.extend final live', ?_, ?_⟩
      · rw [List.map_append, hinputs]
        rfl
      · exact List.rel_append hsame (.cons hevent .nil)

end System

end PldmLib.Machine
