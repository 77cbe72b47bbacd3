/-
# Reading a buffer at an offset

A hand-written decoder keeps an offset into its buffer and moves it on past each
field. What it does at the end of the buffer depends on how it looks there:
`get` returns the caller's error, a slice expression panics. A `Scanner` is such
a decoder, with both ways of looking kept apart.

Two rule sets say what a scanner does. `Holds` reads a postcondition back through
the scanner, over every buffer: it rules the panics out and says how a returned
value is spelled by the bytes that were passed over. `runAt` runs a scanner on
bytes that spell a value, and finds that value. In both the buffer is cut at the
offset, so that a rule speaks of the bytes passed and of the bytes to come.
-/

import PldmLib.Machine.Bytes

namespace PldmLib.Machine

universe u v w

/-- A decoder that reads `buffer` from `offset` on and returns where it stopped. -/
def Scanner (ε : Type v) (α : Type w) := List UInt8 → ℕ → Outcome ε (α × ℕ)

namespace Scanner

variable {ε : Type v} {α β : Type w}

def bind (first : Scanner ε α) (next : α → Scanner ε β) : Scanner ε β := fun buffer offset =>
  (first buffer offset).bind fun reached => next reached.1 buffer reached.2

instance : Monad (Scanner ε) where
  pure value := fun _ offset => .ok (value, offset)
  bind := bind

/-- Give up. -/
def fail (error : ε) : Scanner ε α := fun _ _ => .err error

/-- An outcome that does not depend on the buffer. -/
def ofOutcome (outcome : Outcome ε α) : Scanner ε α := fun _ offset =>
  outcome.map fun value => (value, offset)

/-- `if buffer.len() < count { return Err(short) }`. -/
def require (short : ε) (count : ℕ) : Scanner ε PUnit := fun buffer offset =>
  if buffer.length < count then .err short else .ok (⟨⟩, offset)

/-- `buffer.get(offset..offset + count).ok_or(short)?`, and step over it. -/
def get (short : ε) (count : ℕ) : Scanner ε (List UInt8) := fun buffer offset =>
  if offset + count ≤ buffer.length then
    .ok ((buffer.drop offset).take count, offset + count)
  else .err short

/-- `buffer[offset..offset + count]`, and step over it. -/
def slice (count : ℕ) : Scanner ε (List UInt8) := fun buffer offset =>
  if offset + count ≤ buffer.length then
    .ok ((buffer.drop offset).take count, offset + count)
  else .panic

/-- `&buffer[offset..]`, all of it. -/
def rest : Scanner ε (List UInt8) := fun buffer offset =>
  if offset ≤ buffer.length then .ok (buffer.drop offset, buffer.length) else .panic

/-- Decode a value from `&buffer[offset..]` and step over its encoded size. -/
def nested (inner : List UInt8 → Outcome ε α) (size : α → ℕ) : Scanner ε α :=
  fun buffer offset =>
    if offset ≤ buffer.length then
      (inner (buffer.drop offset)).map fun value => (value, offset + size value)
    else .panic

/-- The same from `buffer.get(offset..).ok_or(short)?`. -/
def nestedGet (short : ε) (inner : List UInt8 → Outcome ε α) (size : α → ℕ) : Scanner ε α :=
  fun buffer offset =>
    if offset ≤ buffer.length then
      (inner (buffer.drop offset)).map fun value => (value, offset + size value)
    else .err short

/-- The same step `count` times, in order. -/
def repeated (step : Scanner ε α) : ℕ → Scanner ε (List α)
  | 0 => pure []
  | count + 1 => do
      let value ← step
      let values ← repeated step count
      pure (value :: values)

/-- Scan a buffer from its start. -/
def decode (scanner : Scanner ε α) (buffer : List UInt8) : Outcome ε α :=
  (scanner buffer 0).map Prod.fst

/-- Run a scanner on a buffer that is cut at the offset. -/
def runAt (scanner : Scanner ε α) (passed coming : List UInt8) : Outcome ε (α × ℕ) :=
  scanner (passed ++ coming) passed.length

theorem decode_eq_runAt (scanner : Scanner ε α) (buffer : List UInt8) :
    scanner.decode buffer = (scanner.runAt [] buffer).map Prod.fst := rfl

/-! ## What a scanner returns -/

/-- The scanner does not panic between the bytes `passed` and `coming`, and what it
returns satisfies `post`, with the buffer cut at the offset it has reached. -/
def Holds (scanner : Scanner ε α) (post : α → List UInt8 → List UInt8 → Prop)
    (passed coming : List UInt8) : Prop :=
  (scanner.runAt passed coming).Ensures fun reached => ∃ before after,
    passed ++ coming = before ++ after ∧ reached.2 = before.length ∧
      post reached.1 before after

/-- What holds of whatever the scanner returns holds once it has returned. -/
theorem Holds.of_ok {scanner : Scanner ε α} {property : Prop} {passed coming : List UInt8}
    {reached : α × ℕ} (holds : scanner.Holds (fun _ _ _ => property) passed coming)
    (returned : scanner.runAt passed coming = .ok reached) : property := by
  obtain ⟨_, _, _, _, hproperty⟩ := Outcome.Ensures.of_ok holds returned
  exact hproperty

/-- A decoder does not panic on any buffer, and a value it returns is valid and is
spelled by the front of the buffer. -/
def Spells (inner : List UInt8 → Outcome ε α) (spell : α → List UInt8) (valid : α → Prop) :
    Prop :=
  ∀ buffer, (inner buffer).Ensures fun value =>
    valid value ∧ ∃ after, buffer = spell value ++ after

section Rules

variable {passed coming : List UInt8} {short : ε} {count : ℕ}

theorem holds_pure {value : α} {post : α → List UInt8 → List UInt8 → Prop}
    (returned : post value passed coming) :
    (pure value : Scanner ε α).Holds post passed coming :=
  ⟨passed, coming, rfl, rfl, returned⟩

theorem holds_fail {error : ε} {post : α → List UInt8 → List UInt8 → Prop} :
    (fail error : Scanner ε α).Holds post passed coming := trivial

theorem holds_ofOutcome {outcome : Outcome ε α} {post : α → List UInt8 → List UInt8 → Prop}
    (returned : outcome.Ensures fun value => post value passed coming) :
    (ofOutcome outcome).Holds post passed coming := by
  unfold Holds runAt ofOutcome
  cases outcome with
  | ok value => exact ⟨passed, coming, rfl, rfl, returned⟩
  | err error => trivial
  | panic => exact returned

theorem holds_bind {first : Scanner ε α} {next : α → Scanner ε β}
    {post : β → List UInt8 → List UInt8 → Prop}
    (scans : first.Holds (fun value => (next value).Holds post) passed coming) :
    (first >>= next).Holds post passed coming := by
  apply Outcome.Ensures.bind scans
  rintro ⟨value, reached⟩ ⟨before, after, hsplit, hreached, hnext⟩
  dsimp only at hreached hnext ⊢
  rw [hsplit, hreached]
  exact hnext

theorem holds_require {post : PUnit → List UInt8 → List UInt8 → Prop}
    (enough : count ≤ passed.length + coming.length → post ⟨⟩ passed coming) :
    (require short count : Scanner ε PUnit).Holds post passed coming := by
  unfold Holds runAt require
  by_cases few : (passed ++ coming).length < count
  · simp only [few, ↓reduceIte, Outcome.Ensures]
  · simp only [few, ↓reduceIte]
    rw [List.length_append, not_lt] at few
    exact ⟨passed, coming, rfl, rfl, enough few⟩

theorem holds_get {post : List UInt8 → List UInt8 → List UInt8 → Prop}
    (found : ∀ field after, coming = field ++ after → field.length = count →
      post field (passed ++ field) after) :
    (get short count).Holds post passed coming := by
  unfold Holds runAt get
  by_cases fits : passed.length + count ≤ (passed ++ coming).length
  · simp only [fits, ↓reduceIte, List.drop_left]
    have hlength : (coming.take count).length = count := by
      rw [List.length_append] at fits
      rw [List.length_take]
      omega
    have hsplit := (List.take_append_drop count coming).symm
    refine ⟨passed ++ coming.take count, coming.drop count, ?_, ?_, found _ _ hsplit hlength⟩
    · rw [List.append_assoc, ← hsplit]
    · rw [List.length_append, hlength]
  · simp only [fits, ↓reduceIte, Outcome.Ensures]

theorem holds_slice {post : List UInt8 → List UInt8 → List UInt8 → Prop}
    (room : count ≤ coming.length)
    (found : ∀ field after, coming = field ++ after → field.length = count →
      post field (passed ++ field) after) :
    (slice count : Scanner ε (List UInt8)).Holds post passed coming := by
  have hfits : passed.length + count ≤ (passed ++ coming).length := by
    rw [List.length_append]
    omega
  unfold Holds runAt slice
  simp only [hfits, ↓reduceIte, List.drop_left]
  have hlength : (coming.take count).length = count := by
    rw [List.length_take]
    omega
  have hsplit := (List.take_append_drop count coming).symm
  refine ⟨passed ++ coming.take count, coming.drop count, ?_, ?_, found _ _ hsplit hlength⟩
  · rw [List.append_assoc, ← hsplit]
  · rw [List.length_append, hlength]

theorem holds_rest {post : List UInt8 → List UInt8 → List UInt8 → Prop}
    (found : post coming (passed ++ coming) []) :
    (rest : Scanner ε (List UInt8)).Holds post passed coming := by
  unfold Holds runAt rest
  simp only [List.length_append, Nat.le_add_right, ↓reduceIte, List.drop_left]
  exact ⟨passed ++ coming, [], by simp, by simp, found⟩

section Nested

variable {inner : List UInt8 → Outcome ε α} {size : α → ℕ} {spell : α → List UInt8}
  {valid : α → Prop} {post : α → List UInt8 → List UInt8 → Prop}

theorem holds_nested (spells : Spells inner spell valid)
    (sized : ∀ value, valid value → size value = (spell value).length)
    (found : ∀ value after, coming = spell value ++ after → valid value →
      post value (passed ++ spell value) after) :
    (nested inner size).Holds post passed coming := by
  have hspells := spells coming
  unfold Holds runAt nested
  simp only [List.length_append, Nat.le_add_right, ↓reduceIte, List.drop_left]
  rcases hinner : inner coming with value | error | _
  · obtain ⟨hvalid, after, rfl⟩ := hspells.of_ok hinner
    refine ⟨passed ++ spell value, after, by simp, ?_, found value after rfl hvalid⟩
    show passed.length + size value = _
    rw [List.length_append, sized value hvalid]
  · trivial
  · exact absurd hinner hspells.ne_panic

theorem holds_nestedGet (spells : Spells inner spell valid)
    (sized : ∀ value, valid value → size value = (spell value).length)
    (found : ∀ value after, coming = spell value ++ after → valid value →
      post value (passed ++ spell value) after) :
    (nestedGet short inner size).Holds post passed coming := by
  have hsame : (nestedGet short inner size).runAt passed coming =
      (nested inner size).runAt passed coming := by
    simp [runAt, nestedGet, nested]
  unfold Holds
  rw [hsame]
  exact holds_nested spells sized found

/-- A counted table: each entry is spelled in turn. -/
theorem holds_repeated {step : Scanner ε α}
    (scans : ∀ passed coming (post : α → List UInt8 → List UInt8 → Prop),
      (∀ value after, coming = spell value ++ after → valid value →
        post value (passed ++ spell value) after) → step.Holds post passed coming)
    (count : ℕ) {passed coming : List UInt8} {post : List α → List UInt8 → List UInt8 → Prop}
    (found : ∀ values after, coming = values.flatMap spell ++ after → values.length = count →
      (∀ value ∈ values, valid value) → post values (passed ++ values.flatMap spell) after) :
    (repeated step count).Holds post passed coming := by
  induction count generalizing passed coming post with
  | zero =>
      apply holds_pure
      simpa using found [] coming (by simp) rfl (by simp)
  | succ count ih =>
      apply holds_bind
      apply scans
      intro value after hafter hvalid
      apply holds_bind
      apply ih
      intro values last hlast hlength hall
      apply holds_pure
      have hpost := found (value :: values) last (by simp [hafter, hlast]) (by simp [hlength])
        (by simpa using ⟨hvalid, hall⟩)
      simpa using hpost

/-- From the start of a buffer. -/
theorem ensures_of_holds {scanner : Scanner ε α} {buffer : List UInt8}
    (scans : scanner.Holds post [] buffer) :
    (scanner.decode buffer).Ensures fun value =>
      ∃ before after, buffer = before ++ after ∧ post value before after := by
  rw [decode_eq_runAt]
  unfold Holds at scans
  rcases hrun : scanner.runAt [] buffer with ⟨value, reached⟩ | error | _
  · obtain ⟨before, after, hsplit, -, hpost⟩ := scans.of_ok hrun
    exact ⟨before, after, hsplit, hpost⟩
  · trivial
  · exact absurd hrun scans.ne_panic

/-- A scanner that can be read back from the start of a buffer spells what it
returns. -/
theorem spells_of_holds {scanner : Scanner ε α}
    (scans : ∀ buffer, scanner.Holds
      (fun value passed _ => passed = spell value ∧ valid value) [] buffer) :
    Spells scanner.decode spell valid := by
  intro buffer
  apply (ensures_of_holds (scans buffer)).mono
  rintro value ⟨before, after, hsplit, rfl, hvalid⟩
  exact ⟨hvalid, after, hsplit⟩

end Nested

end Rules

-- The rules are all there is to it: `apply` would otherwise run the scanner on its buffer.
attribute [irreducible] Holds

/-! ## What a scanner finds -/

section Finds

variable {passed after : List UInt8} {short : ε} {count : ℕ}

@[simp]
theorem runAt_pure (value : α) :
    (pure value : Scanner ε α).runAt passed after = .ok (value, passed.length) := rfl

@[simp]
theorem runAt_ofOutcome_bind (value : α) (next : α → Scanner ε β) :
    (ofOutcome (.ok value) >>= next).runAt passed after = (next value).runAt passed after := rfl

theorem runAt_bind {first : Scanner ε α} {next : α → Scanner ε β} {field : List UInt8}
    {value : α}
    (finds : first.runAt passed (field ++ after) = .ok (value, (passed ++ field).length)) :
    (first >>= next).runAt passed (field ++ after) =
      (next value).runAt (passed ++ field) after := by
  show (first.runAt passed (field ++ after)).bind _ = _
  rw [finds, runAt, List.append_assoc]
  rfl

theorem runAt_get {field : List UInt8} (length : field.length = count) :
    (get short count).runAt passed (field ++ after) =
      .ok (field, (passed ++ field).length) := by
  subst length
  simp [runAt, get]

theorem runAt_slice {field : List UInt8} (length : field.length = count) :
    (slice count : Scanner ε _).runAt passed (field ++ after) =
      .ok (field, (passed ++ field).length) := by
  subst length
  simp [runAt, slice]

@[simp]
theorem runAt_rest {field : List UInt8} :
    (rest : Scanner ε _).runAt passed field = .ok (field, (passed ++ field).length) := by
  simp [runAt, rest]

/-- Nothing is left behind the rest of a buffer. -/
theorem runAt_rest_bind {β : Type} {field : List UInt8} (next : List UInt8 → Scanner ε β) :
    (rest >>= next).runAt passed field = (next field).runAt (passed ++ field) [] := by
  have hrest : (rest : Scanner ε _).runAt passed (field ++ []) =
      .ok (field, (passed ++ field).length) := by
    rw [List.append_nil]
    exact runAt_rest
  have hbind : (rest >>= next).runAt passed (field ++ []) = _ := runAt_bind hrest
  rwa [List.append_nil] at hbind

theorem runAt_require {next : PUnit → Scanner ε β} {coming : List UInt8}
    (enough : count ≤ passed.length + coming.length) :
    (require short count >>= next).runAt passed coming = (next ⟨⟩).runAt passed coming := by
  have hmany : ¬ (passed ++ coming).length < count := by
    rw [List.length_append]
    omega
  show ((require short count).runAt passed coming).bind _ = _
  simp only [runAt, require, hmany, ↓reduceIte]
  rfl

theorem runAt_nested {inner : List UInt8 → Outcome ε α} {size : α → ℕ} {spelled : List UInt8}
    {value : α} (finds : inner (spelled ++ after) = .ok value)
    (sized : size value = spelled.length) :
    (nested inner size).runAt passed (spelled ++ after) =
      .ok (value, (passed ++ spelled).length) := by
  simp [runAt, nested, finds, sized, Outcome.map]

theorem runAt_nestedGet {inner : List UInt8 → Outcome ε α} {size : α → ℕ}
    {spelled : List UInt8} {value : α} (finds : inner (spelled ++ after) = .ok value)
    (sized : size value = spelled.length) :
    (nestedGet short inner size).runAt passed (spelled ++ after) =
      .ok (value, (passed ++ spelled).length) := by
  simp [runAt, nestedGet, finds, sized, Outcome.map]

theorem runAt_repeated {step : Scanner ε α} {spell : α → List UInt8} (values : List α)
    (finds : ∀ value ∈ values, ∀ passed after, step.runAt passed (spell value ++ after) =
      .ok (value, (passed ++ spell value).length)) (passed after : List UInt8) :
    (repeated step values.length).runAt passed (values.flatMap spell ++ after) =
      .ok (values, (passed ++ values.flatMap spell).length) := by
  induction values generalizing passed with
  | nil => simp [repeated]
  | cons value values ih =>
      have hhere := finds value (by simp) passed (values.flatMap spell ++ after)
      have hthere := ih (fun value member => finds value (by simp [member]))
        (passed ++ spell value)
      rw [List.flatMap_cons, List.append_assoc, List.length_cons, repeated, runAt_bind hhere,
        runAt_bind hthere]
      simp

/-- What a scanner finds at the start of a buffer it decodes. -/
theorem decode_of_runAt {scanner : Scanner ε α} {coming : List UInt8} {value : α} {reached : ℕ}
    (finds : scanner.runAt [] coming = .ok (value, reached)) :
    scanner.decode coming = .ok value := by
  rw [decode_eq_runAt, finds]
  rfl

end Finds

/-! ## Agreement with a reader -/

section Follows

variable {α β : Type} {short : ε} {count : ℕ}

/-- At every offset the scanner does what the reader does with the bytes to come. -/
def Follows (scanner : Scanner ε α) (reader : Reader ε α) : Prop :=
  ∀ passed coming,
    match reader coming with
    | .ok (value, after) => ∃ field, coming = field ++ after ∧
        scanner.runAt passed coming = .ok (value, (passed ++ field).length)
    | .error error => scanner.runAt passed coming = .err error

theorem follows_pure (value : α) : (pure value : Scanner ε α).Follows (pure value) := by
  intro passed coming
  exact ⟨[], rfl, by rw [List.append_nil, runAt_pure]⟩

theorem follows_fail (error : ε) : (fail error : Scanner ε α).Follows (throw error) := by
  intro passed coming
  rfl

theorem follows_get : (get short count).Follows (Reader.bytes short count) := by
  intro passed coming
  unfold Reader.bytes runAt get
  by_cases enough : count ≤ coming.length
  · have hfits : passed.length + count ≤ (passed ++ coming).length := by
      rw [List.length_append]
      omega
    simp only [enough, hfits, ↓reduceIte, List.drop_left]
    refine ⟨coming.take count, (List.take_append_drop count coming).symm, ?_⟩
    rw [List.length_append, List.length_take, min_eq_left enough]
  · have hshort : ¬ passed.length + count ≤ (passed ++ coming).length := by
      rw [List.length_append]
      omega
    simp only [enough, hshort, ↓reduceIte]

theorem follows_bind {first : Scanner ε α} {next : α → Scanner ε β} {firstReader : Reader ε α}
    {nextReader : α → Reader ε β} (starts : first.Follows firstReader)
    (goesOn : ∀ value coming after, firstReader coming = .ok (value, after) →
      (next value).Follows (nextReader value)) :
    (first >>= next).Follows (firstReader >>= nextReader) := by
  intro passed coming
  have hfirst := starts passed coming
  show match (firstReader coming).bind fun reached => nextReader reached.1 reached.2 with
    | .ok (value, after) => ∃ field, coming = field ++ after ∧
        ((first.runAt passed coming).bind fun reached =>
          next reached.1 (passed ++ coming) reached.2) = .ok (value, (passed ++ field).length)
    | .error error => ((first.runAt passed coming).bind fun reached =>
        next reached.1 (passed ++ coming) reached.2) = .err error
  rcases hreader : firstReader coming with error | ⟨value, between⟩
  · rw [hreader] at hfirst
    dsimp only at hfirst
    rw [hfirst]
    rfl
  · rw [hreader] at hfirst
    obtain ⟨field, rfl, hrun⟩ := hfirst
    have hnext := goesOn value _ _ hreader (passed ++ field) between
    have happend : passed ++ (field ++ between) = passed ++ field ++ between := by simp
    rw [hrun, happend]
    simp only [Except.bind, Outcome.bind]
    show match nextReader value between with
      | .ok (value', after) => ∃ field', field ++ between = field' ++ after ∧
          (next value).runAt (passed ++ field) between = .ok (value', (passed ++ field').length)
      | .error error => (next value).runAt (passed ++ field) between = .err error
    rcases hlast : nextReader value between with error | ⟨value', after⟩
    · rwa [hlast] at hnext
    · rw [hlast] at hnext
      obtain ⟨field', rfl, hrun'⟩ := hnext
      exact ⟨field ++ field', by simp, by rw [hrun', List.append_assoc]⟩

/-- From the start of a buffer the two decode the same. -/
theorem decode_of_follows {scanner : Scanner ε α} {reader : Reader ε α}
    (follows : scanner.Follows reader) (buffer : List UInt8) :
    scanner.decode buffer = .ofExcept (reader.decode buffer) := by
  have hstart := follows [] buffer
  rw [decode_eq_runAt, Reader.decode]
  rcases hreader : reader buffer with error | ⟨value, after⟩
  · rw [hreader] at hstart
    dsimp only at hstart
    rw [hstart]
    rfl
  · rw [hreader] at hstart
    obtain ⟨field, -, hrun⟩ := hstart
    rw [hrun]
    rfl

end Follows

end Scanner

end PldmLib.Machine
