/-
# Runs of a deterministic system

A system answers each input with an output that says which state it left, or
that there is none because it crashed. A trace lists what happened from some
state on: for each step the state before it, the input and the output.

`Trace.invariant` is the induction over runs. It carries a relation between the
trace so far and the state reached, so a property may speak about the history.
`Trace.cut` goes the other way: it takes a trace apart at one of its events.
-/

import Mathlib.Data.List.Basic
import Mathlib.Tactic.Common

namespace PldmLib.Machine

universe u v w

/-- A deterministic system. `next` reads off an output the state to go on from. -/
structure System (S : Type u) (I : Type v) (O : Type w) where
  init : S
  step : S → I → O
  next : O → Option S

/-- One step: the state before it, the input and the output. -/
structure Event (S : Type u) (I : Type v) (O : Type w) where
  before : S
  input : I
  output : O

/-- Every element of a list stands in a relation to those before it. -/
def Throughout {α : Type u} (holds : List α → α → Prop) (all : List α) : Prop :=
  ∀ before element after, all = before ++ element :: after → holds before element

theorem throughout_nil {α : Type u} (holds : List α → α → Prop) : Throughout holds [] :=
  fun _ _ _ split => by simp at split

theorem throughout_concat {α : Type u} {holds : List α → α → Prop} {all : List α} {last : α} :
    Throughout holds (all ++ [last]) ↔ Throughout holds all ∧ holds all last := by
  constructor
  · intro throughout
    refine ⟨fun before element after split => ?_, throughout all last [] rfl⟩
    exact throughout before element (after ++ [last]) (by simp [split])
  · rintro ⟨throughout, now⟩ before element after split
    rcases List.eq_nil_or_concat after with rfl | ⟨rest, final, rfl⟩
    · obtain ⟨rfl, same⟩ := List.append_inj' split rfl
      rwa [← List.singleton_inj.mp same]
    · refine throughout before element rest ?_
      have hsplit : all ++ [last] = (before ++ element :: rest) ++ [final] := by simpa using split
      exact (List.append_inj' hsplit rfl).1

/-- Relations that agree wherever the list is split hold throughout it together. -/
theorem throughout_congr {α : Type u} {holds holds' : List α → α → Prop} {all : List α}
    (same : ∀ before element after, all = before ++ element :: after →
      (holds before element ↔ holds' before element)) :
    Throughout holds all ↔ Throughout holds' all := by
  constructor
  · intro throughout before element after split
    exact (same before element after split).mp (throughout before element after split)
  · intro throughout before element after split
    exact (same before element after split).mpr (throughout before element after split)

/-- A list has at most one last element with a property. -/
theorem last_unique {α : Type u} (holds : α → Prop) {before before' since since' : List α}
    {last last' : α} (same : before ++ last :: since = before' ++ last' :: since')
    (found : holds last) (found' : holds last') (none : ∀ element ∈ since, ¬ holds element)
    (none' : ∀ element ∈ since', ¬ holds element) : last = last' ∧ since = since' := by
  rcases List.append_eq_append_iff.mp same with ⟨between, _, hrest⟩ | ⟨between, _, hrest⟩
  · cases between with
    | nil =>
        injection hrest with hlast hsince
        exact ⟨hlast, hsince⟩
    | cons first between =>
        injection hrest with _ hsince
        exact absurd found' (none last' (by simp [hsince]))
  · cases between with
    | nil =>
        injection hrest with hlast hsince
        exact ⟨hlast.symm, hsince.symm⟩
    | cons first between =>
        injection hrest with _ hsince
        exact absurd found (none' last (by simp [hsince]))

/-- What holds of a list and of one more element. -/
theorem forall_mem_concat {α : Type u} {holds : α → Prop} {all : List α} {last : α} :
    (∀ element ∈ all ++ [last], holds element) ↔
      (∀ element ∈ all, holds element) ∧ holds last := by
  rw [List.forall_mem_append, List.forall_mem_singleton]

/-- The last thing found in a list comes from its last element, or from those before. -/
theorem getLast?_filterMap_concat {α : Type u} {β : Type v} (find : α → Option β)
    (all : List α) (last : α) : ((all ++ [last]).filterMap find).getLast? =
      (find last).or (all.filterMap find).getLast? := by
  rw [List.filterMap_append]
  cases found : find last with
  | none => simp [found]
  | some value => simp [found]

namespace System

variable {S : Type u} {I : Type v} {O : Type w} (system : System S I O)

/-- The event of giving `input` in `state`. -/
def event (state : S) (input : I) : Event S I O :=
  ⟨state, input, system.step state input⟩

/-- `system.Trace origin events state`: the events happened in this order from
`origin` on, and `state` was reached. -/
inductive Trace (origin : S) : List (Event S I O) → S → Prop
  | start : Trace origin [] origin
  | extend {events : List (Event S I O)} {state reached : S} (prior : Trace origin events state)
      (input : I) (live : system.next (system.step state input) = some reached) :
      Trace origin (events ++ [system.event state input]) reached

/-- A state some trace from the initial state ends in. -/
def Reachable (state : S) : Prop := ∃ events, system.Trace system.init events state

/-- Run a list of inputs. -/
def replay : S → List I → Option (List (Event S I O) × S)
  | state, [] => some ([], state)
  | state, input :: inputs =>
      match system.next (system.step state input) with
      | none => none
      | some reached =>
          match replay reached inputs with
          | none => none
          | some (events, final) => some (system.event state input :: events, final)

variable {system} {origin : S}

/-- What the origin has and every step keeps, every trace has. -/
theorem Trace.invariant (holds : List (Event S I O) → S → Prop)
    (start : holds [] origin)
    (step : ∀ events state input reached, system.Trace origin events state →
      holds events state → system.next (system.step state input) = some reached →
      holds (events ++ [system.event state input]) reached)
    {events : List (Event S I O)} {state : S} (trace : system.Trace origin events state) :
    holds events state := by
  induction trace with
  | start => exact start
  | extend prior input live ih => exact step _ _ input _ prior ih live

/-- An invariant of states that does not look at the history. -/
theorem Trace.state_invariant (holds : S → Prop) (start : holds origin)
    (step : ∀ state input reached, holds state →
      system.next (system.step state input) = some reached → holds reached)
    {events : List (Event S I O)} {state : S} (trace : system.Trace origin events state) :
    holds state :=
  trace.invariant (fun _ state => holds state) start
    fun _ _ _ _ _ kept live => step _ _ _ kept live

/-- Traces compose. -/
theorem Trace.append {events more : List (Event S I O)} {state final : S}
    (first : system.Trace origin events state) (second : system.Trace state more final) :
    system.Trace origin (events ++ more) final := by
  induction second with
  | start => simpa using first
  | extend prior input live ih =>
      rw [← List.append_assoc]
      exact ih.extend input live

/-- A trace can be cut anywhere. -/
theorem Trace.split {all : List (Event S I O)} {final : S}
    (trace : system.Trace origin all final) :
    ∀ {events more : List (Event S I O)}, all = events ++ more →
      ∃ state, system.Trace origin events state ∧ system.Trace state more final := by
  induction trace with
  | start =>
      intro events more split
      obtain ⟨rfl, rfl⟩ := List.append_eq_nil_iff.mp split.symm
      exact ⟨origin, .start, .start⟩
  | @extend earlier state reached prior input live ih =>
      intro events more split
      rcases List.eq_nil_or_concat more with hnil | ⟨rest, last, hconcat⟩
      · subst hnil
        rw [List.append_nil] at split
        exact ⟨reached, split ▸ prior.extend input live, .start⟩
      · subst hconcat
        have hsplit : earlier ++ [system.event state input] = (events ++ rest) ++ [last] := by
          simpa using split
        obtain ⟨rfl, hlast⟩ := List.append_inj' hsplit rfl
        obtain ⟨between, first, second⟩ := ih rfl
        simp only [List.cons.injEq, and_true] at hlast
        subst hlast
        exact ⟨between, first, by simpa using second.extend input live⟩

/-- A trace without events has gone nowhere. -/
theorem Trace.eq_of_nil {state : S} (trace : system.Trace origin [] state) : state = origin := by
  generalize hevents : ([] : List (Event S I O)) = events at trace
  cases trace with
  | start => rfl
  | extend prior input live => simp at hevents

/-- The last step of a trace. -/
theorem Trace.last {events : List (Event S I O)} {event : Event S I O} {final : S}
    (trace : system.Trace origin (events ++ [event]) final) :
    system.Trace origin events event.before ∧
      event = system.event event.before event.input ∧ system.next event.output = some final := by
  generalize hevents : events ++ [event] = all at trace
  cases trace with
  | start => simp at hevents
  | extend prior input live =>
      obtain ⟨rfl, hevent⟩ := List.append_inj' hevents rfl
      simp only [List.cons.injEq, and_true] at hevent
      subst hevent
      exact ⟨prior, rfl, live⟩

/-- The inputs settle a run. -/
theorem Trace.unique {events events' : List (Event S I O)} {state state' : S}
    (trace : system.Trace origin events state) (trace' : system.Trace origin events' state')
    (inputs : events.map Event.input = events'.map Event.input) :
    events = events' ∧ state = state' := by
  induction trace generalizing events' state' with
  | start =>
      obtain rfl : events' = [] := List.map_eq_nil_iff.mp inputs.symm
      exact ⟨rfl, trace'.eq_of_nil.symm⟩
  | @extend events state reached prior input live ih =>
      rcases List.eq_nil_or_concat events' with rfl | ⟨earlier, last, rfl⟩
      · simp at inputs
      · rw [List.concat_eq_append] at trace' inputs ⊢
        obtain ⟨prior', hlast, live'⟩ := trace'.last
        simp only [List.map_append, List.map_cons, List.map_nil] at inputs
        obtain ⟨hearlier, hinput⟩ := List.append_inj' inputs rfl
        obtain ⟨rfl, hbefore⟩ := ih prior' hearlier
        have hinput' : input = last.input := List.singleton_inj.mp hinput
        rw [← hbefore, ← hinput'] at hlast
        rw [hlast] at live' ⊢
        exact ⟨rfl, Option.some.inj (live.symm.trans live')⟩

/-- There is a trace with these inputs. -/
def Admits (system : System S I O) (origin : S) (inputs : List I) : Prop :=
  ∃ events final, system.Trace origin events final ∧ events.map Event.input = inputs

theorem Admits.of_append {inputs more : List I} (run : system.Admits origin (inputs ++ more)) :
    system.Admits origin inputs := by
  obtain ⟨all, final, trace, hinputs⟩ := run
  obtain ⟨events, rest, rfl, hevents, _⟩ := List.map_eq_append_iff.mp hinputs
  obtain ⟨state, prior, _⟩ := trace.split rfl
  exact ⟨events, state, prior, hevents⟩

/-- A trace up to one of its events, up to the end of that event, and from there on. -/
theorem Trace.cut {before after : List (Event S I O)} {event : Event S I O} {final : S}
    (trace : system.Trace origin (before ++ event :: after) final) :
    system.Trace origin before event.before ∧
      event = system.event event.before event.input ∧
      ∃ reached, system.next event.output = some reached ∧
        system.Trace origin (before ++ [event]) reached ∧
        system.Trace reached after final := by
  obtain ⟨reached, first, second⟩ := trace.split (List.append_cons before event after)
  obtain ⟨prior, hevent, live⟩ := first.last
  exact ⟨prior, hevent, reached, live, first, second⟩

/-- A call that follows a trace, or one of those in it, comes at the end of a trace. -/
theorem Trace.cut_next {events before after : List (Event S I O)} {event : Event S I O}
    {state : S} (trace : system.Trace origin events state) {input : I}
    (split : events ++ [system.event state input] = before ++ event :: after) :
    system.Trace origin before event.before ∧ event = system.event event.before event.input := by
  rcases List.eq_nil_or_concat after with rfl | ⟨rest, last, rfl⟩
  · obtain ⟨rfl, hevent⟩ := List.append_inj' split rfl
    simp only [List.cons.injEq, and_true] at hevent
    subst hevent
    exact ⟨trace, rfl⟩
  · have hsplit : events ++ [system.event state input] =
        (before ++ event :: rest) ++ [last] := by simpa using split
    obtain ⟨rfl, _⟩ := List.append_inj' hsplit rfl
    obtain ⟨prior, hevent, _⟩ := trace.cut
    exact ⟨prior, hevent⟩

/-- What a state shows after a run is what was written last, if a step shows what it
writes and otherwise what was shown before. -/
theorem Trace.latest {V : Type*} {shown : S → V} {written : Event S I O → Option V}
    (step : ∀ events state input reached, system.Trace origin events state →
      system.next (system.step state input) = some reached →
      shown reached = (written (system.event state input)).getD (shown state))
    {events : List (Event S I O)} {state : S} (trace : system.Trace origin events state) :
    shown state = (events.filterMap written).getLast?.getD (shown origin) := by
  induction trace with
  | start => rfl
  | @extend events state reached prior input live ih =>
      rw [getLast?_filterMap_concat, step events state input reached prior live]
      cases written (system.event state input) with
      | none => exact ih
      | some value => rfl

/-- A run that was computed is a trace. -/
theorem trace_of_replay {inputs : List I} {events : List (Event S I O)} {final : S}
    (ran : system.replay origin inputs = some (events, final)) :
    system.Trace origin events final := by
  induction inputs generalizing origin events with
  | nil =>
      simp only [replay, Option.some.injEq, Prod.mk.injEq] at ran
      obtain ⟨rfl, rfl⟩ := ran
      exact .start
  | cons input inputs ih =>
      simp only [replay] at ran
      split at ran
      · cases ran
      · next reached live =>
          split at ran
          · cases ran
          · next rest final' hrest =>
              simp only [Option.some.injEq, Prod.mk.injEq] at ran
              obtain ⟨rfl, rfl⟩ := ran
              exact (Trace.start.extend input live).append (ih hrest)

/-- A computed run answers the inputs in order. -/
theorem inputs_of_replay {inputs : List I} {events : List (Event S I O)} {final : S}
    (ran : system.replay origin inputs = some (events, final)) :
    events.map Event.input = inputs := by
  induction inputs generalizing origin events with
  | nil =>
      simp only [replay, Option.some.injEq, Prod.mk.injEq] at ran
      rw [← ran.1]
      rfl
  | cons input inputs ih =>
      simp only [replay] at ran
      split at ran
      · cases ran
      · split at ran
        · cases ran
        · next rest final' hrest =>
            simp only [Option.some.injEq, Prod.mk.injEq] at ran
            obtain ⟨rfl, rfl⟩ := ran
            rw [List.map_cons, ih hrest]
            rfl

/-- What a computed run is found to satisfy holds of a trace. -/
theorem exists_of_replay (system : System S I O) (origin : S) (inputs : List I)
    (check : List (Event S I O) → S → Bool)
    (ran : (system.replay origin inputs).map (fun run => check run.1 run.2) = some true) :
    ∃ events final, system.Trace origin events final ∧ events.map Event.input = inputs ∧
      check events final = true := by
  cases hrun : system.replay origin inputs with
  | none => simp [hrun] at ran
  | some run =>
      obtain ⟨events, final⟩ := run
      rw [hrun] at ran
      exact ⟨events, final, trace_of_replay hrun, inputs_of_replay hrun, Option.some.inj ran⟩

end System

end PldmLib.Machine
