/-
# Calls that return, fail or panic

A Rust method on `&mut self` ends in one of three ways: it returns a value, it
returns an error, or it panics. Each of the three leaves behind whatever it had
already written to its state, so an early return through `?` is not a rollback.
`Call` keeps the state reached in all three cases, and `Call.wp` reads a
postcondition back through the control flow. The lemmas below say how it passes
each construct, so that the possible results of a long handler are found by
splitting its own conditions and by nothing else.
-/

import Mathlib.Logic.Basic
import Mathlib.Tactic.Common

namespace PldmLib.Machine

universe u v w

/-- How a call ends. A panic carries no value: nothing runs after it. -/
inductive Outcome (ε : Type v) (α : Type w)
  | ok (value : α)
  | err (error : ε)
  | panic
  deriving DecidableEq, Repr

namespace Outcome

variable {ε : Type v} {α β : Type w}

/-- Go on with a returned value, and pass an error or a panic through. -/
def bind (outcome : Outcome ε α) (next : α → Outcome ε β) : Outcome ε β :=
  match outcome with
  | .ok value => next value
  | .err error => .err error
  | .panic => .panic

instance : Monad (Outcome ε) where
  pure := .ok
  bind := bind

/-- Change the value of a call that returned. -/
def map (convert : α → β) : Outcome ε α → Outcome ε β
  | .ok value => .ok (convert value)
  | .err error => .err error
  | .panic => .panic

theorem map_eq_panic {convert : α → β} {outcome : Outcome ε α} :
    outcome.map convert = .panic ↔ outcome = .panic := by
  cases outcome <;> simp [map]

theorem map_eq_ok {convert : α → β} {outcome : Outcome ε α} {value : β} :
    outcome.map convert = .ok value ↔
      ∃ returned, outcome = .ok returned ∧ convert returned = value := by
  cases outcome <;> simp [map]

/-- Change the error of a call that failed, as `map_err` does. -/
def mapErr {ε' : Type*} (convert : ε → ε') : Outcome ε α → Outcome ε' α
  | .ok value => .ok value
  | .err error => .err (convert error)
  | .panic => .panic

/-- The call did not panic, and a value it returned satisfies `post`. -/
def Ensures (post : α → Prop) : Outcome ε α → Prop
  | .ok value => post value
  | .err _ => True
  | .panic => False

theorem Ensures.mono {outcome : Outcome ε α} {stronger weaker : α → Prop}
    (ensures : outcome.Ensures stronger) (weaken : ∀ value, stronger value → weaker value) :
    outcome.Ensures weaker := by
  cases outcome with
  | ok value => exact weaken value ensures
  | err error => trivial
  | panic => exact ensures

theorem Ensures.ne_panic {outcome : Outcome ε α} {post : α → Prop}
    (ensures : outcome.Ensures post) : outcome ≠ .panic := by
  rintro rfl
  exact ensures

theorem Ensures.of_ok {outcome : Outcome ε α} {post : α → Prop} {value : α}
    (ensures : outcome.Ensures post) (returned : outcome = .ok value) : post value := by
  subst returned
  exact ensures

theorem Ensures.bind {outcome : Outcome ε α} {next : α → Outcome ε β} {middle : α → Prop}
    {post : β → Prop} (ensures : outcome.Ensures middle)
    (go : ∀ value, middle value → (next value).Ensures post) :
    (outcome.bind next).Ensures post := by
  cases outcome with
  | ok value => exact go value ensures
  | err error => trivial
  | panic => exact ensures

/-- Give up the error type of a computation that has been asked for its value
alone: an `unwrap` panics on an error. -/
def unwrap {ε' : Type*} : Except ε' α → Outcome ε α
  | .ok value => .ok value
  | .error _ => .panic

/-- The value, if there is one. -/
def toOption : Outcome ε α → Option α
  | .ok value => some value
  | _ => none

/-- A computation that cannot panic. -/
def ofExcept : Except ε α → Outcome ε α
  | .ok value => .ok value
  | .error error => .err error

theorem ofExcept_eq_ok {result : Except ε α} {value : α} :
    ofExcept result = .ok value ↔ result = .ok value := by
  cases result <;> simp [ofExcept]

@[simp]
theorem pure_eq (value : α) : (pure value : Outcome ε α) = .ok value := rfl

@[simp]
theorem ok_bind (value : α) (next : α → Outcome ε β) :
    (Outcome.ok value >>= next) = next value := rfl

@[simp]
theorem err_bind (error : ε) (next : α → Outcome ε β) :
    (Outcome.err error >>= next) = .err error := rfl

@[simp]
theorem panic_bind (next : α → Outcome ε β) :
    ((Outcome.panic : Outcome ε α) >>= next) = .panic := rfl

theorem bind_eq_ok {outcome : Outcome ε α} {next : α → Outcome ε β} {value : β} :
    (outcome >>= next) = .ok value ↔ ∃ middle, outcome = .ok middle ∧ next middle = .ok value := by
  cases outcome <;> simp

theorem bind_eq_panic {outcome : Outcome ε α} {next : α → Outcome ε β} :
    (outcome >>= next) = .panic ↔
      outcome = .panic ∨ ∃ middle, outcome = .ok middle ∧ next middle = .panic := by
  cases outcome <;> simp

end Outcome

/-- A call that owns a state of type `σ` while it runs. -/
def Call (σ : Type u) (ε : Type v) (α : Type w) := σ → Outcome ε α × σ

namespace Call

variable {σ : Type u} {τ : Type*} {ε : Type v} {α β : Type w}

/-- Sequencing keeps the state of the part that ran, whatever the outcome. -/
def bind (first : Call σ ε α) (next : α → Call σ ε β) : Call σ ε β := fun state =>
  match first state with
  | (.ok value, reached) => next value reached
  | (.err error, reached) => (.err error, reached)
  | (.panic, reached) => (.panic, reached)

instance : Monad (Call σ ε) where
  pure value := fun state => (.ok value, state)
  bind := bind

/-- The state as it stands. -/
def get : Call σ ε σ := fun state => (.ok state, state)

/-- Overwrite part of the state. -/
def update (change : σ → σ) : Call σ ε PUnit := fun state => (.ok ⟨⟩, change state)

/-- Return an error. -/
def fail (error : ε) : Call σ ε α := fun state => (.err error, state)

/-- Return a computed outcome and leave the state alone. -/
def ofOutcome (outcome : Outcome ε α) : Call σ ε α := fun state => (outcome, state)

/-- Run a call on one component of a larger state and hand its error to the
caller as a value. A panic is not an error and goes through. -/
def attemptOn {ε' : Type*} (read : τ → σ) (write : τ → σ → τ) (inner : Call σ ε' α) :
    Call τ ε (Except ε' α) := fun state =>
  match inner (read state) with
  | (.ok value, reached) => (.ok (.ok value), write state reached)
  | (.err error, reached) => (.ok (.error error), write state reached)
  | (.panic, reached) => (.panic, write state reached)

/-- Run a call on one component of a larger state. -/
def on (read : τ → σ) (write : τ → σ → τ) (inner : Call σ ε α) : Call τ ε α := fun state =>
  ((inner (read state)).1, write state (inner (read state)).2)

/-- Change the error of a call that failed. -/
def mapErr {ε' : Type*} (convert : ε → ε') (call : Call σ ε α) : Call σ ε' α := fun state =>
  ((call state).1.mapErr convert, (call state).2)

/-- `wp call post state` holds when the outcome of `call` from `state`, together
with the state it leaves, satisfies `post`. -/
def wp (call : Call σ ε α) (post : Outcome ε α → σ → Prop) (state : σ) : Prop :=
  post (call state).1 (call state).2

variable {post : Outcome ε α → σ → Prop} {state : σ}

theorem wp_iff (call : Call σ ε α) :
    call.wp post state ↔ post (call state).1 (call state).2 := Iff.rfl

@[simp]
theorem wp_pure (value : α) : (pure value : Call σ ε α).wp post state ↔
    post (.ok value) state := Iff.rfl

@[simp]
theorem wp_bind (first : Call σ ε α) (next : α → Call σ ε β)
    (post : Outcome ε β → σ → Prop) :
    (first >>= next).wp post state ↔
      first.wp (fun outcome reached =>
        match outcome with
        | .ok value => (next value).wp post reached
        | .err error => post (.err error) reached
        | .panic => post .panic reached) state := by
  show post (bind first next state).1 (bind first next state).2 ↔ _
  unfold bind wp
  rcases first state with ⟨_ | _ | _, reached⟩ <;> rfl

@[simp]
theorem wp_get (post : Outcome ε σ → σ → Prop) :
    (get : Call σ ε σ).wp post state ↔ post (.ok state) state := Iff.rfl

@[simp]
theorem wp_update (change : σ → σ) (post : Outcome ε PUnit → σ → Prop) :
    (update change : Call σ ε PUnit).wp post state ↔ post (.ok ⟨⟩) (change state) := Iff.rfl

@[simp]
theorem wp_fail (error : ε) :
    (fail error : Call σ ε α).wp post state ↔ post (.err error) state := Iff.rfl

@[simp]
theorem wp_ofOutcome (outcome : Outcome ε α) :
    (ofOutcome outcome : Call σ ε α).wp post state ↔ post outcome state := Iff.rfl

@[simp]
theorem wp_ite (condition : Prop) [Decidable condition] (yes no : Call σ ε α) :
    (if condition then yes else no).wp post state ↔
      if condition then yes.wp post state else no.wp post state := by
  split <;> rfl

@[simp]
theorem wp_attemptOn {ε' : Type*} (read : τ → σ) (write : τ → σ → τ) (inner : Call σ ε' α)
    (post : Outcome ε (Except ε' α) → τ → Prop) (state : τ) :
    (attemptOn read write inner : Call τ ε (Except ε' α)).wp post state ↔
      inner.wp (fun outcome reached =>
        match outcome with
        | .ok value => post (.ok (.ok value)) (write state reached)
        | .err error => post (.ok (.error error)) (write state reached)
        | .panic => post .panic (write state reached)) (read state) := by
  unfold wp attemptOn
  rcases inner (read state) with ⟨_ | _ | _, reached⟩ <;> rfl

@[simp]
theorem wp_on (read : τ → σ) (write : τ → σ → τ) (inner : Call σ ε α)
    (post : Outcome ε α → τ → Prop) (state : τ) :
    (on read write inner).wp post state ↔
      inner.wp (fun outcome reached => post outcome (write state reached)) (read state) := Iff.rfl

@[simp]
theorem wp_mapErr {ε' : Type*} (convert : ε → ε') (call : Call σ ε α)
    (post : Outcome ε' α → σ → Prop) :
    (mapErr convert call).wp post state ↔
      call.wp (fun outcome reached => post (outcome.mapErr convert) reached) state := Iff.rfl

/-- A call whose value is only converted at its end. -/
theorem map_apply (call : Call σ ε α) (convert : α → β) (state : σ) :
    (call >>= fun value => pure (convert value)) state =
      ((call state).1.map convert, (call state).2) := by
  show bind call _ state = _
  unfold bind
  rcases call state with ⟨_ | _ | _, reached⟩ <;> rfl

theorem wp_map (call : Call σ ε α) (convert : α → β) (post : Outcome ε β → σ → Prop)
    (state : σ) : (call >>= fun value => pure (convert value)).wp post state ↔
      call.wp (fun outcome reached => post (outcome.map convert) reached) state := by
  rw [wp_iff, map_apply, wp_iff]

/-- A weaker postcondition is easier to reach. -/
theorem wp_mono {call : Call σ ε α} {stronger weaker : Outcome ε α → σ → Prop}
    (reached : call.wp stronger state)
    (weaken : ∀ outcome final, stronger outcome final → weaker outcome final) :
    call.wp weaker state :=
  weaken _ _ reached

end Call

end PldmLib.Machine
