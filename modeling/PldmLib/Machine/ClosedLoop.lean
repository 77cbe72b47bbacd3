/-
# A system in its surroundings

The surroundings of a system have a state of their own. In it they allow some of the
inputs, which may be several, and they take note of what the system makes of the one
they give. A play is a run of both.

`Within goal bound` says that the goal is reached whatever the surroundings choose: within
this many inputs, with an input to give until then, and without a crash. A measure that
every allowed input decreases is a bound (`Variant.within`).

A system may be spoken to through another one, which carries some of its own inputs to it and
keeps the others for itself. As long as those are limited, what is reached inside is reached
from outside (`Variant.carried`).
-/

import PldmLib.Machine.Run

namespace PldmLib.Machine

universe u v w x

/-- Which inputs may be given next, and what is noted of the event. -/
structure Environment (S : Type u) (I : Type v) (O : Type w) (E : Type x) where
  allows : S → E → I → Prop
  react : E → Event S I O → E

namespace System

variable {S : Type u} {I : Type v} {O : Type w} {E : Type x} (system : System S I O)
  (surroundings : Environment S I O E)

/-- `system.Play surroundings origin before events state after`: the system came from
`origin` to `state` and its surroundings from `before` to `after`. -/
inductive Play (origin : S) (before : E) : List (Event S I O) → S → E → Prop
  | start : Play origin before [] origin before
  | move {events : List (Event S I O)} {state reached : S} {noted : E}
      (prior : Play origin before events state noted) (input : I)
      (allowed : surroundings.allows state noted input)
      (live : system.next (system.step state input) = some reached) :
      Play origin before (events ++ [system.event state input]) reached
        (surroundings.react noted (system.event state input))

/-- Whatever the surroundings choose, the goal is reached within this many inputs. -/
def Within (goal : S → E → Prop) : ℕ → S → E → Prop
  | 0, state, noted => goal state noted
  | bound + 1, state, noted =>
      goal state noted ∨
        (∃ input, surroundings.allows state noted input) ∧
          ∀ input, surroundings.allows state noted input →
            ∃ reached, system.next (system.step state input) = some reached ∧
              Within goal bound reached (surroundings.react noted (system.event state input))

variable {system surroundings} {origin state : S} {before noted : E}
  {events : List (Event S I O)} {goal : S → E → Prop} {bound bound' : ℕ}

/-- A play is a run of the system. -/
theorem Play.trace (play : system.Play surroundings origin before events state noted) :
    system.Trace origin events state := by
  induction play with
  | start => exact .start
  | move prior input allowed live ih => exact ih.extend input live

/-- A move comes before a play from where it ends. -/
theorem Play.cons {reached final : S} {after : E} {input : I}
    (allowed : surroundings.allows origin before input)
    (live : system.next (system.step origin input) = some reached)
    (rest : system.Play surroundings reached
      (surroundings.react before (system.event origin input)) events final after) :
    system.Play surroundings origin before (system.event origin input :: events) final after := by
  induction rest with
  | start => exact Play.move .start input allowed live
  | move prior next allows alive ih => exact Play.move ih next allows alive

namespace Within

theorem of_goal (reached : goal state noted) :
    system.Within surroundings goal bound state noted := by
  cases bound with
  | zero => exact reached
  | succ bound => exact .inl reached

/-- One more input, whichever it is. -/
theorem of_next (offers : ∃ input, surroundings.allows state noted input)
    (onward : ∀ input, surroundings.allows state noted input →
      ∃ reached, system.next (system.step state input) = some reached ∧
        system.Within surroundings goal bound reached
          (surroundings.react noted (system.event state input))) :
    system.Within surroundings goal (bound + 1) state noted :=
  .inr ⟨offers, onward⟩

theorem mono (enough : bound ≤ bound')
    (within : system.Within surroundings goal bound state noted) :
    system.Within surroundings goal bound' state noted := by
  induction bound generalizing bound' state noted with
  | zero => exact of_goal within
  | succ bound ih =>
      obtain ⟨rest, rfl⟩ := Nat.exists_eq_add_of_le' enough
      cases within with
      | inl reached => exact of_goal reached
      | inr moves =>
          obtain ⟨offers, onward⟩ := moves
          apply of_next offers
          intro input allowed
          obtain ⟨reached, live, rest'⟩ := onward input allowed
          exact ⟨reached, live, ih (Nat.le_add_left _ _) rest'⟩

/-- What is reached whatever the surroundings choose is reached in some play. -/
theorem exists_play (within : system.Within surroundings goal bound state noted) :
    ∃ events final after, system.Play surroundings state noted events final after ∧
      events.length ≤ bound ∧ goal final after := by
  induction bound generalizing state noted with
  | zero => exact ⟨[], state, noted, .start, Nat.le_refl _, within⟩
  | succ bound ih =>
      cases within with
      | inl reached => exact ⟨[], state, noted, .start, Nat.zero_le _, reached⟩
      | inr moves =>
          obtain ⟨⟨input, allowed⟩, onward⟩ := moves
          obtain ⟨reached, live, rest⟩ := onward input allowed
          obtain ⟨events, final, after, play, short, arrived⟩ := ih rest
          exact ⟨system.event state input :: events, final, after, .cons allowed live play,
            Nat.succ_le_succ short, arrived⟩

end Within

/-! ## Variants -/

variable (system surroundings)

/-- Outside the goal there is an input to give, and every one that may be given keeps the
invariant and decreases the measure. -/
structure Variant (goal invariant : S → E → Prop) (measure : S → E → ℕ) : Prop where
  offers : ∀ {state : S} {noted : E}, invariant state noted → ¬ goal state noted →
    ∃ input, surroundings.allows state noted input
  step : ∀ {state : S} {noted : E} {input : I}, invariant state noted → ¬ goal state noted →
    surroundings.allows state noted input →
    ∃ reached, system.next (system.step state input) = some reached ∧
      invariant reached (surroundings.react noted (system.event state input)) ∧
      measure reached (surroundings.react noted (system.event state input)) < measure state noted

variable {system surroundings} {invariant : S → E → Prop} {measure : S → E → ℕ}

/-- The variant rule. -/
theorem Variant.within (variant : system.Variant surroundings goal invariant measure)
    (holds : invariant state noted) (enough : measure state noted ≤ bound) :
    system.Within surroundings goal bound state noted := by
  induction bound generalizing state noted with
  | zero =>
      by_contra missed
      obtain ⟨input, allowed⟩ := variant.offers holds missed
      obtain ⟨reached, live, kept, less⟩ := variant.step holds missed allowed
      omega
  | succ bound ih =>
      by_cases reached : goal state noted
      · exact Within.of_goal reached
      · apply Within.of_next (variant.offers holds reached)
        intro input allowed
        obtain ⟨next, live, kept, less⟩ := variant.step holds reached allowed
        exact ⟨next, live, ih kept (by omega)⟩

section Outside

variable {S' : Type*} {I' : Type*} {O' : Type*} (outer : System S' I' O')
  (outside : Environment S' I' O' (E × ℕ)) (inner : S' → S) (sound : S' → Prop)

variable (system surroundings) in
/-- An input from outside is carried to the inner system, or it is one of a limited number of
others, which the inner system does not notice. -/
inductive Conveys (state : S') (noted : E × ℕ) (input : I') : Prop
  | carried (within : I) (allowed : surroundings.allows (inner state) noted.1 within)
      (follows : ∀ reached, system.next (system.step (inner state) within) = some reached →
        ∃ reached', outer.next (outer.step state input) = some reached' ∧ sound reached' ∧
          inner reached' = reached ∧ outside.react noted (outer.event state input) =
            (surroundings.react noted.1 (system.event (inner state) within), noted.2))
  | kept (reached : S') (live : outer.next (outer.step state input) = some reached)
      (keeps : sound reached) (same : inner reached = inner state) (left : ℕ)
      (less : left < noted.2)
      (reacts : outside.react noted (outer.event state input) = (noted.1, left))

variable {outer outside inner sound}

/-- A variant of a system is one from outside. -/
theorem Variant.carried (variant : system.Variant surroundings goal invariant measure)
    (offers : ∀ {state noted}, sound state → invariant (inner state) noted.1 →
      ¬ goal (inner state) noted.1 → ∃ input, outside.allows state noted input)
    (conveys : ∀ {state noted input}, sound state → outside.allows state noted input →
      system.Conveys surroundings outer outside inner sound state noted input) :
    outer.Variant outside (fun state noted => goal (inner state) noted.1)
      (fun state noted => sound state ∧ invariant (inner state) noted.1)
      (fun state noted => measure (inner state) noted.1 + noted.2) where
  offers holds missed := offers holds.1 holds.2 missed
  step := by
    intro state noted input holds missed allowed
    cases conveys holds.1 allowed with
    | carried within allowed follows =>
        obtain ⟨reached, live, kept, less⟩ := variant.step holds.2 missed allowed
        obtain ⟨reached', live', keeps, rfl, reacts⟩ := follows reached live
        rw [reacts]
        exact ⟨reached', live', ⟨keeps, kept⟩, Nat.add_lt_add_right less _⟩
    | kept reached live keeps same left less reacts =>
        rw [reacts]
        refine ⟨reached, live, ⟨keeps, ?_⟩, ?_⟩
        · rw [same]
          exact holds.2
        · rw [same]
          exact Nat.add_lt_add_left less _

end Outside

end System

end PldmLib.Machine
