/-
# What is seen of a system from one side

A viewpoint has a part of the state and shows some of the inputs. An input that it hides
leaves its part alone. What an input that it shows does to its part, and what is read off
the output, is settled by that part.

The hidden inputs of a run might then as well not have been given (`exists_erased`), and
runs in which the same inputs are shown look the same (`indistinguishable`), in whatever
order the hidden ones come between. Two viewpoints that share the inputs out between them cut
a run in two, and two runs made of the halves can be put together in any order
(`admits_iff`).
-/

import Mathlib.Data.List.Induction
import PldmLib.Machine.Run

namespace PldmLib.Machine

universe u v w x y

/-- A part of the state, the inputs that act on it, and what is read off their outputs, in
the states that satisfy an invariant. -/
structure Viewpoint {S : Type u} {I : Type v} {O : Type w} (system : System S I O)
    (V : Type x) (W : Type y) where
  sound : S → Prop
  view : S → V
  shows : V → I → Bool
  reading : O → W
  kept : ∀ {state reached : S} {input : I}, sound state →
    system.next (system.step state input) = some reached → sound reached
  hidden : ∀ {state reached : S} {input : I}, sound state → shows (view state) input = false →
    system.next (system.step state input) = some reached → view reached = view state
  shown : ∀ {state other reached : S} {input : I}, sound state → sound other →
    shows (view state) input = true → view other = view state →
    system.next (system.step state input) = some reached →
    ∃ reached', system.next (system.step other input) = some reached' ∧
      view reached' = view reached ∧
      reading (system.step other input) = reading (system.step state input)

namespace Viewpoint

variable {S : Type u} {I : Type v} {O : Type w} {V : Type x} {W : Type y}
  {system : System S I O} (viewpoint : Viewpoint system V W)

/-- The input of an event is shown. -/
def sees (event : Event S I O) : Bool :=
  viewpoint.shows (viewpoint.view event.before) event.input

/-- The inputs of a run that are shown. -/
def inputs (events : List (Event S I O)) : List I :=
  (events.filter viewpoint.sees).map Event.input

/-- What is read off the outputs of the inputs shown. -/
def readings (events : List (Event S I O)) : List W :=
  (events.filter viewpoint.sees).map fun event => viewpoint.reading event.output

variable {viewpoint} {origin other state state' : S} {events events' : List (Event S I O)}

theorem inputs_concat (event : Event S I O) : viewpoint.inputs (events ++ [event]) =
    viewpoint.inputs events ++ if viewpoint.sees event then [event.input] else [] := by
  simp only [inputs, List.filter_append, List.map_append]
  cases hsees : viewpoint.sees event <;> simp [hsees]

theorem readings_concat (event : Event S I O) : viewpoint.readings (events ++ [event]) =
    viewpoint.readings events ++
      if viewpoint.sees event then [viewpoint.reading event.output] else [] := by
  simp only [readings, List.filter_append, List.map_append]
  cases hsees : viewpoint.sees event <;> simp [hsees]

theorem sound_of_trace (trace : system.Trace origin events state)
    (start : viewpoint.sound origin) : viewpoint.sound state :=
  trace.state_invariant viewpoint.sound start fun _ _ _ sound live => viewpoint.kept sound live

/-- Only the inputs shown need to be given, also from another state that looks the same. -/
theorem exists_erased (trace : system.Trace origin events state)
    (start : viewpoint.sound origin) (start' : viewpoint.sound other)
    (same : viewpoint.view other = viewpoint.view origin) :
    ∃ erased final, system.Trace other erased final ∧
      erased.map Event.input = viewpoint.inputs events ∧
      viewpoint.view final = viewpoint.view state ∧
      viewpoint.readings erased = viewpoint.readings events := by
  induction trace with
  | start => exact ⟨[], other, .start, rfl, same, rfl⟩
  | @extend events state reached prior input live ih =>
      obtain ⟨erased, final, trace, hinputs, hview, hreadings⟩ := ih
      have hsound := sound_of_trace prior start
      have hsound' := sound_of_trace trace start'
      rw [inputs_concat, readings_concat]
      cases hsees : viewpoint.sees (system.event state input) with
      | false =>
          refine ⟨erased, final, trace, ?_, ?_, ?_⟩
          · simpa using hinputs
          · exact hview.trans (viewpoint.hidden hsound hsees live).symm
          · simpa using hreadings
      | true =>
          obtain ⟨reached', live', hview', hreading⟩ :=
            viewpoint.shown hsound hsound' hsees hview live
          have hsees' : viewpoint.sees (system.event final input) = true := by
            show viewpoint.shows (viewpoint.view final) input = true
            rw [hview]
            exact hsees
          refine ⟨erased ++ [system.event final input], reached', trace.extend input live', ?_,
            hview', ?_⟩
          · rw [List.map_append, hinputs]
            rfl
          · rw [readings_concat, hsees', hreadings]
            exact congrArg (viewpoint.readings events ++ [·]) hreading

/-- Runs in which the same inputs are shown end in the same view, with the same readings. -/
theorem indistinguishable (trace : system.Trace origin events state)
    (trace' : system.Trace other events' state') (start : viewpoint.sound origin)
    (start' : viewpoint.sound other) (same : viewpoint.view other = viewpoint.view origin)
    (inputs : viewpoint.inputs events = viewpoint.inputs events') :
    viewpoint.view state = viewpoint.view state' ∧
      viewpoint.readings events = viewpoint.readings events' := by
  obtain ⟨erased, final, run, hinputs, hview, hreadings⟩ := exists_erased trace start start' same
  obtain ⟨erased', final', run', hinputs', hview', hreadings'⟩ :=
    exists_erased trace' start' start' rfl
  obtain ⟨rfl, rfl⟩ := run.unique run' (by rw [hinputs, hinputs', inputs])
  exact ⟨hview.symm.trans hview', hreadings.symm.trans hreadings'⟩

/-! ## Two sides of one system -/

/-- What a viewpoint shows depends on the input alone. -/
def Sorts (viewpoint : Viewpoint system V W) (mine : I → Bool) : Prop :=
  ∀ view input, viewpoint.shows view input = mine input

theorem Sorts.inputs {mine : I → Bool} (sorts : viewpoint.Sorts mine)
    (events : List (Event S I O)) :
    viewpoint.inputs events = (events.map Event.input).filter mine := by
  have hsees : viewpoint.sees = mine ∘ Event.input :=
    funext fun event => sorts (viewpoint.view event.before) event.input
  rw [Viewpoint.inputs, hsees, List.filter_map]

/-- An input that can be given at the end of its own half can be given at the end of a run. -/
theorem Sorts.admits_concat {mine : I → Bool} (sorts : viewpoint.Sorts mine)
    (start : viewpoint.sound origin) {inputs : List I} {input : I} (shown : mine input = true)
    (half : system.Admits origin ((inputs ++ [input]).filter mine))
    (run : system.Admits origin inputs) : system.Admits origin (inputs ++ [input]) := by
  obtain ⟨events, final, trace, hinputs⟩ := half
  obtain ⟨events', state, trace', rfl⟩ := run
  rcases List.eq_nil_or_concat events with rfl | ⟨earlier, last, rfl⟩
  · simp [List.filter_append, shown] at hinputs
  · rw [List.concat_eq_append] at trace hinputs
    obtain ⟨prior, hlast, live⟩ := trace.last
    simp only [List.filter_append, List.map_append, List.map_cons, List.map_nil,
      List.filter_cons, shown, ↓reduceIte, List.filter_nil] at hinputs
    obtain ⟨hearlier, hinput⟩ := List.append_inj' hinputs rfl
    have hsame : viewpoint.inputs earlier = viewpoint.inputs events' := by
      rw [sorts.inputs, sorts.inputs, hearlier, List.filter_filter]
      simp
    have hview := (indistinguishable prior trace' start start rfl hsame).1
    rw [hlast, List.singleton_inj.mp hinput] at live
    obtain ⟨reached, live', _⟩ := viewpoint.shown (sound_of_trace prior start)
      (sound_of_trace trace' start) ((sorts _ input).trans shown) hview.symm live
    exact ⟨_, reached, trace'.extend input live', by simp [System.event]⟩

theorem Sorts.admits_filter {mine : I → Bool} (sorts : viewpoint.Sorts mine)
    (start : viewpoint.sound origin) {inputs : List I} (run : system.Admits origin inputs) :
    system.Admits origin (inputs.filter mine) := by
  obtain ⟨events, state, trace, rfl⟩ := run
  obtain ⟨erased, final, trace', hinputs, _⟩ := exists_erased trace start start rfl
  exact ⟨erased, final, trace', hinputs.trans (sorts.inputs events)⟩

/-- Two sides that share the inputs out: a run is any mixture of a run of the one side and a
run of the other. -/
theorem admits_iff {V' : Type x} {W' : Type y} {other : Viewpoint system V' W'}
    {mine : I → Bool} (sorts : viewpoint.Sorts mine) (sorts' : other.Sorts fun i => !mine i)
    (start : viewpoint.sound origin) (start' : other.sound origin) (inputs : List I) :
    system.Admits origin inputs ↔ system.Admits origin (inputs.filter mine) ∧
      system.Admits origin (inputs.filter fun input => !mine input) := by
  constructor
  · intro run
    exact ⟨sorts.admits_filter start run, sorts'.admits_filter start' run⟩
  · rintro ⟨half, half'⟩
    induction inputs using List.reverseRecOn with
    | nil => exact ⟨[], origin, .start, rfl⟩
    | append_singleton inputs input ih =>
        have hrun : system.Admits origin inputs := by
          apply ih
          · rw [List.filter_append] at half
            exact half.of_append
          · rw [List.filter_append] at half'
            exact half'.of_append
        cases hside : mine input with
        | true => exact sorts.admits_concat start hside half hrun
        | false => exact sorts'.admits_concat start' (by simp [hside]) half' hrun

end Viewpoint

end PldmLib.Machine
