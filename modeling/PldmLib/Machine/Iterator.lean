/-
# Iterators

An iterator is a call that returns its next item, or none, and keeps its place in the state
that it owns. Nothing obliges it to go on returning none: it may start again, stay where it
is, or panic in a later call. `Yields` says what one pass returns up to its first none, and
`Walks` names the places that a pass goes through. What happens at the last of them decides
about all further calls.
-/

import PldmLib.Machine.Outcome

namespace PldmLib.Machine

universe u v w

namespace Iterator

variable {σ : Type u} {ε : Type v} {α : Type w} {next : Call σ ε (Option α)}

/-- What a number of calls return, one after the other. -/
def calls (next : Call σ ε (Option α)) : ℕ → Call σ ε (List (Option α))
  | 0 => pure []
  | count + 1 => do
      let item ← next
      let items ← calls next count
      pure (item :: items)

/-- The item that a loop over one pass finds at an index. -/
def nth (next : Call σ ε (Option α)) : ℕ → Call σ ε (Option α)
  | 0 => next
  | index + 1 => do
      match ← next with
      | some _ => nth next index
      | none => pure none

/-- One pass returns the items and then none. -/
inductive Yields (next : Call σ ε (Option α)) : σ → List α → σ → Prop
  | done {state final : σ} (ends : next state = (.ok none, final)) : Yields next state [] final
  | item {state reached final : σ} {item : α} {items : List α}
      (returns : next state = (.ok (some item), reached))
      (rest : Yields next reached items final) : Yields next state (item :: items) final

/-- No number of calls panics. -/
def NeverPanics (next : Call σ ε (Option α)) (state : σ) : Prop :=
  ∀ count, (calls next count state).1 ≠ .panic

/-! ## Passes -/

theorem Yields.unique {state final other : σ} {items others : List α}
    (first : Yields next state items final) (second : Yields next state others other) :
    items = others ∧ final = other := by
  induction first generalizing others with
  | done ends =>
      cases second with
      | done again =>
          rw [ends] at again
          exact ⟨rfl, (Prod.mk.inj again).2⟩
      | item returns _ =>
          rw [ends] at returns
          cases returns
  | item returns _ ih =>
      cases second with
      | done again =>
          rw [returns] at again
          cases again
      | item again rest =>
          rw [returns] at again
          obtain ⟨hitem, rfl⟩ := Prod.mk.inj again
          obtain ⟨rfl, rfl⟩ := ih rest
          obtain rfl := Option.some.inj (Outcome.ok.inj hitem)
          exact ⟨rfl, rfl⟩

theorem nth_of_yields {state final : σ} {items : List α} (yields : Yields next state items final)
    (index : ℕ) : (nth next index state).1 = .ok items[index]? := by
  induction yields generalizing index with
  | done ends =>
      cases index with
      | zero => simp [nth, ends]
      | succ index =>
          show (Call.bind next _ _).1 = _
          rw [Call.bind, ends]
          rfl
  | item returns _ ih =>
      cases index with
      | zero => simp [nth, returns]
      | succ index =>
          show (Call.bind next _ _).1 = _
          rw [Call.bind, returns]
          exact ih index

/-- A pass ends when each item that is returned comes closer to its end. -/
theorem exists_yields (measure : σ → ℕ) (property : α → Prop)
    (step : ∀ state, (∃ final, next state = (.ok none, final)) ∨
      ∃ item reached, next state = (.ok (some item), reached) ∧
        measure reached < measure state ∧ property item) (state : σ) :
    ∃ items final, Yields next state items final ∧ items.length ≤ measure state ∧
      ∀ item ∈ items, property item := by
  induction hmeasure : measure state using Nat.strongRecOn generalizing state with
  | ind bound ih =>
      rcases step state with ⟨final, ends⟩ | ⟨item, reached, returns, closer, hitem⟩
      · exact ⟨[], final, .done ends, Nat.zero_le _, by simp⟩
      · obtain ⟨items, final, yields, few, hitems⟩ := ih _ (hmeasure ▸ closer) reached rfl
        refine ⟨item :: items, final, .item returns yields, ?_, ?_⟩
        · rw [List.length_cons]
          omega
        · rw [List.forall_mem_cons]
          exact ⟨hitem, hitems⟩

/-! ## Many calls -/

theorem calls_succ {state reached : σ} {item : Option α}
    (returns : next state = (.ok item, reached)) (count : ℕ) : calls next (count + 1) state =
      ((calls next count reached).1.map (item :: ·), (calls next count reached).2) := by
  show Call.bind next _ state = _
  rw [Call.bind, returns]
  exact Call.map_apply _ _ _

theorem calls_succ_of_panic {state reached : σ} (panics : next state = (.panic, reached))
    (count : ℕ) : (calls next (count + 1) state).1 = .panic := by
  show (Call.bind next _ state).1 = _
  rw [Call.bind, panics]

/-- Calls that keep to states in which the next one returns. -/
theorem neverPanics_of_invariant (good : σ → Prop)
    (step : ∀ state, good state → ∃ item reached, next state = (.ok item, reached) ∧ good reached)
    {state : σ} (start : good state) : NeverPanics next state := by
  intro count
  induction count generalizing state with
  | zero =>
      intro panicked
      cases panicked
  | succ count ih =>
      obtain ⟨item, reached, returns, hreached⟩ := step state start
      rw [calls_succ returns, Ne, Outcome.map_eq_panic]
      exact ih hreached

/-! ## Places -/

/-- A pass that goes from place to place and returns an item at each but the last. -/
def Walks (next : Call σ ε (Option α)) (places : ℕ → σ) (items : List α) : Prop :=
  ∀ index item, items[index]? = some item →
    next (places index) = (.ok (some item), places (index + 1))

namespace Walks

variable {places : ℕ → σ} {items : List α}

/-- From any of its places the pass goes on with the rest of the items. -/
theorem yields (walks : Walks next places items) {final : σ}
    (ends : next (places items.length) = (.ok none, final)) {start : ℕ}
    (inside : start ≤ items.length) : Yields next (places start) (items.drop start) final := by
  induction hrest : items.length - start generalizing start with
  | zero =>
      obtain rfl : start = items.length := by omega
      rw [List.drop_length]
      exact .done ends
  | succ rest ih =>
      have hlt : start < items.length := by omega
      rw [List.drop_eq_getElem_cons hlt]
      exact .item (walks start _ (List.getElem?_eq_getElem hlt)) (ih (by omega) (by omega))

/-- When the last call of a pass goes back to the first place, the calls go round. -/
theorem calls_of_resets (walks : Walks next places items)
    (resets : next (places items.length) = (.ok none, places 0)) (count : ℕ) {start : ℕ}
    (inside : start ≤ items.length) : ∃ returned, calls next count (places start) =
      (.ok returned, places ((start + count) % (items.length + 1))) := by
  induction count generalizing start with
  | zero =>
      refine ⟨[], ?_⟩
      rw [Nat.add_zero, Nat.mod_eq_of_lt (by omega)]
      rfl
  | succ count ih =>
      by_cases last : start = items.length
      · obtain ⟨returned, hreturned⟩ := ih (Nat.zero_le _)
        refine ⟨none :: returned, ?_⟩
        subst last
        rw [calls_succ resets, hreturned, Nat.zero_add, Nat.add_comm count 1, ← Nat.add_assoc,
          Nat.add_mod_left]
        rfl
      · have hlt : start < items.length := by omega
        obtain ⟨returned, hreturned⟩ := ih (show start + 1 ≤ items.length from hlt)
        refine ⟨some items[start] :: returned, ?_⟩
        rw [calls_succ (walks start _ (List.getElem?_eq_getElem hlt)), hreturned,
          Nat.add_assoc, Nat.add_comm 1 count]
        rfl

/-- When it stays where it is instead, no call panics either. -/
theorem neverPanics_of_stays (walks : Walks next places items)
    (stays : next (places items.length) = (.ok none, places items.length)) :
    NeverPanics next (places 0) := by
  apply neverPanics_of_invariant fun state => ∃ index ≤ items.length, state = places index
  · rintro state ⟨index, inside, rfl⟩
    by_cases last : index = items.length
    · subst last
      exact ⟨none, _, stays, items.length, Nat.le_refl _, rfl⟩
    · have hlt : index < items.length := by omega
      exact ⟨some items[index], _, walks index _ (List.getElem?_eq_getElem hlt),
        index + 1, hlt, rfl⟩
  · exact ⟨0, Nat.zero_le _, rfl⟩

theorem neverPanics_of_resets (walks : Walks next places items)
    (resets : next (places items.length) = (.ok none, places 0)) :
    NeverPanics next (places 0) := by
  intro count
  obtain ⟨returned, hreturned⟩ := walks.calls_of_resets resets count (Nat.zero_le _)
  rw [hreturned]
  intro panicked
  cases panicked

/-- A panic at the last place is reached. -/
theorem not_neverPanics (walks : Walks next places items) {final : σ}
    (panics : next (places items.length) = (.panic, final)) : ¬ NeverPanics next (places 0) := by
  have hreached (start : ℕ) (inside : start ≤ items.length) :
      (calls next (items.length - start + 1) (places start)).1 = .panic := by
    induction hrest : items.length - start generalizing start with
    | zero =>
        obtain rfl : start = items.length := by omega
        exact calls_succ_of_panic panics 0
    | succ rest ih =>
        have hlt : start < items.length := by omega
        rw [calls_succ (walks start _ (List.getElem?_eq_getElem hlt)), Outcome.map_eq_panic]
        exact ih (start + 1) hlt (by omega)
  intro never
  exact never _ (hreached 0 (Nat.zero_le _))

end Walks

end Iterator

end PldmLib.Machine
