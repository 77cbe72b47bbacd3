/-
# Refinement of a labelled machine

A labelled machine says which states each of its labels leads from and to. A system
refines it through a view of its states when each of its steps either leaves the view as
it is or takes one step of the machine. Runs of the system are then paths of the machine:
the labels of the steps that are seen, in order.
-/

import PldmLib.Machine.Run

namespace PldmLib.Machine

universe u v w x y

variable {A : Type u} {L : Type v}

/-- `Path leads origin labels state`: the labels lead from `origin` to `state`. -/
inductive Path (leads : L → A → A → Prop) (origin : A) : List L → A → Prop
  | start : Path leads origin [] origin
  | extend {labels : List L} {before after : A} {label : L}
      (prior : Path leads origin labels before) (led : leads label before after) :
      Path leads origin (labels ++ [label]) after

/-- A system whose steps are each unseen or a step of the machine runs along a path. -/
theorem System.Trace.path {S : Type w} {I : Type x} {O : Type y} {system : System S I O}
    {leads : L → A → A → Prop} (view : S → A) {origin : S}
    (refines : ∀ events state input reached, system.Trace origin events state →
      system.next (system.step state input) = some reached →
      view reached = view state ∨ ∃ label, leads label (view state) (view reached))
    {events : List (Event S I O)} {state : S} (trace : system.Trace origin events state) :
    ∃ labels, Path leads (view origin) labels (view state) := by
  induction trace with
  | start => exact ⟨[], .start⟩
  | extend prior input live ih =>
      obtain ⟨labels, path⟩ := ih
      rcases refines _ _ input _ prior live with same | ⟨label, led⟩
      · exact ⟨labels, same ▸ path⟩
      · exact ⟨labels ++ [label], path.extend led⟩

end PldmLib.Machine
