/-
# Little-endian fields in a byte buffer

A packed structure is written as the concatenation of its fields, each one in
little-endian order, and read back from the front of a buffer. `leBytes` and
`leValue` are the two directions for one field of any width and are inverse to
each other; `Reader` is the reading discipline, in which running past the end is
an error the caller chooses; `Call` writes go to a fixed-size buffer in place and
panic outside it, as slice indexing does.
-/

import PldmLib.Machine.Outcome
import Mathlib.Data.List.Basic
import Mathlib.Tactic.Ring

namespace PldmLib.Machine

universe v

/-- The low `width` bytes of a number, least significant first. -/
def leBytes : ℕ → ℕ → List UInt8
  | 0, _ => []
  | width + 1, value => UInt8.ofNat value :: leBytes width (value / 256)

/-- The number a byte sequence spells, least significant first. -/
def leValue : List UInt8 → ℕ
  | [] => 0
  | byte :: rest => byte.toNat + 256 * leValue rest

@[simp]
theorem length_leBytes (width value : ℕ) : (leBytes width value).length = width := by
  induction width generalizing value with
  | zero => rfl
  | succ width ih => simp [leBytes, ih]

/-- Reading back what was written returns the value, if it fits the width. -/
theorem leValue_leBytes {width value : ℕ} (fits : value < 256 ^ width) :
    leValue (leBytes width value) = value := by
  induction width generalizing value with
  | zero =>
      have hzero : value = 0 := by simpa using fits
      simp [leBytes, leValue, hzero]
  | succ width ih =>
      have hrest : value / 256 < 256 ^ width := by
        rw [Nat.div_lt_iff_lt_mul (by norm_num)]
        simpa [pow_succ] using fits
      simp only [leBytes, leValue, ih hrest, UInt8.toNat_ofNat']
      omega

/-- Writing what was read returns the same bytes. -/
theorem leBytes_leValue (bytes : List UInt8) :
    leBytes bytes.length (leValue bytes) = bytes := by
  induction bytes with
  | nil => rfl
  | cons byte rest ih =>
      have hbyte : byte.toNat < 256 := byte.toNat_lt
      have hdiv : (byte.toNat + 256 * leValue rest) / 256 = leValue rest := by omega
      simp only [List.length_cons, leBytes, leValue, hdiv, ih]
      congr 1
      apply UInt8.toNat_inj.mp
      rw [UInt8.toNat_ofNat']
      omega

theorem leValue_lt (bytes : List UInt8) : leValue bytes < 256 ^ bytes.length := by
  induction bytes with
  | nil => simp [leValue]
  | cons byte rest ih =>
      have hbyte : byte.toNat < 256 := byte.toNat_lt
      simp only [leValue, List.length_cons, pow_succ]
      omega

/-! ## Reading -/

/-- A reader consumes bytes from the front of a buffer. -/
abbrev Reader (ε : Type v) (α : Type) := StateT (List UInt8) (Except ε) α

namespace Reader

variable {ε : Type v} {α β : Type}

/-- The next `count` bytes, or the error `short` if the buffer ends first. -/
def bytes (short : ε) (count : ℕ) : Reader ε (List UInt8) := fun buffer =>
  if count ≤ buffer.length then .ok (buffer.take count, buffer.drop count)
  else .error short

/-- The next `width` bytes as a number. -/
def number (short : ε) (width : ℕ) : Reader ε ℕ := do
  let field ← bytes short width
  pure (leValue field)

/-- Read a value and forget what follows it. -/
def decode (reader : Reader ε α) (buffer : List UInt8) : Except ε α :=
  (reader buffer).map Prod.fst

theorem bind_apply (first : Reader ε α) (next : α → Reader ε β) (buffer : List UInt8) :
    (first >>= next) buffer = (first buffer).bind fun found => next found.1 found.2 := rfl

theorem map_apply (convert : α → β) (reader : Reader ε α) (buffer : List UInt8) :
    (convert <$> reader) buffer =
      (reader buffer).map fun found => (convert found.1, found.2) := by
  have hmap : (convert <$> reader) buffer =
      (reader buffer).bind fun found => .ok (convert found.1, found.2) := rfl
  rw [hmap]
  cases reader buffer <;> rfl

/-- Every value the reader returns has a property. -/
def Yields (reader : Reader ε α) (property : α → Prop) : Prop :=
  ∀ buffer value rest, reader buffer = .ok (value, rest) → property value

theorem yields_pure {value : α} {property : α → Prop} (holds : property value) :
    (pure value : Reader ε α).Yields property := by
  rintro buffer returned rest ⟨⟩
  exact holds

/-- The value a reader returns is that of its last part. -/
theorem yields_bind {first : Reader ε α} {next : α → Reader ε β} {property : β → Prop}
    (goesOn : ∀ value, (next value).Yields property) : (first >>= next).Yields property := by
  intro buffer value rest returned
  rw [bind_apply] at returned
  cases hfirst : first buffer with
  | error error =>
      rw [hfirst] at returned
      cases returned
  | ok found =>
      rw [hfirst] at returned
      exact goesOn found.1 found.2 value rest returned

/-- A reader that returns has consumed a prefix of its buffer of `size` bytes. -/
def Consumes (reader : Reader ε α) (size : α → ℕ) : Prop :=
  ∀ buffer value rest, reader buffer = .ok (value, rest) →
    size value ≤ buffer.length ∧ rest = buffer.drop (size value)

theorem bytes_of_le {short : ε} {count : ℕ} {buffer : List UInt8}
    (fits : count ≤ buffer.length) :
    bytes short count buffer = .ok (buffer.take count, buffer.drop count) := by
  simp [bytes, fits]

theorem consumes_bytes (short : ε) (count : ℕ) :
    (bytes short count).Consumes fun _ => count := by
  intro buffer value rest returned
  unfold bytes at returned
  split at returned
  · next fits =>
      simp only [Except.ok.injEq, Prod.mk.injEq] at returned
      exact ⟨fits, returned.2.symm⟩
  · cases returned

/-! ### Longer buffers -/

/-- More bytes behind a buffer change nothing but the complaint that it is short. -/
structure Extends (reader : Reader ε α) (short : ε) : Prop where
  value : ∀ buffer more value rest, reader buffer = .ok (value, rest) →
    reader (buffer ++ more) = .ok (value, rest ++ more)
  error : ∀ buffer more error, reader buffer = .error error → error ≠ short →
    reader (buffer ++ more) = .error error

section Longer

variable {short : ε}

theorem extends_pure (value : α) : (pure value : Reader ε α).Extends short where
  value := by
    rintro buffer more _ _ ⟨⟩
    rfl
  error := by rintro _ _ _ ⟨⟩

theorem extends_throw (error : ε) : (throw error : Reader ε α).Extends short where
  value := by rintro _ _ _ _ ⟨⟩
  error := by
    rintro buffer more _ ⟨⟩ _
    rfl

theorem extends_bytes (count : ℕ) : (bytes short count).Extends short where
  value := by
    intro buffer more value rest returned
    unfold bytes at returned
    split at returned
    · next fits =>
        obtain ⟨rfl, rfl⟩ := Prod.mk.inj (Except.ok.inj returned)
        rw [bytes_of_le (by rw [List.length_append]; omega), List.take_append_of_le_length fits,
          List.drop_append_of_le_length fits]
    · cases returned
  error := by
    intro buffer more error failed long
    unfold bytes at failed
    split at failed
    · cases failed
    · exact absurd (Except.error.inj failed).symm long

theorem Extends.bind {first : Reader ε α} {next : α → Reader ε β} (start : first.Extends short)
    (goesOn : ∀ value, (next value).Extends short) : (first >>= next).Extends short where
  value := by
    intro buffer more value rest returned
    rw [bind_apply] at returned ⊢
    cases hfirst : first buffer with
    | error error =>
        rw [hfirst] at returned
        cases returned
    | ok found =>
        rw [hfirst] at returned
        rw [start.value buffer more found.1 found.2 hfirst]
        exact (goesOn found.1).value found.2 more value rest returned
  error := by
    intro buffer more error failed long
    rw [bind_apply] at failed ⊢
    cases hfirst : first buffer with
    | error other =>
        rw [hfirst] at failed
        obtain rfl := Except.error.inj failed
        rw [start.error buffer more other hfirst long]
        rfl
    | ok found =>
        rw [hfirst] at failed
        rw [start.value buffer more found.1 found.2 hfirst]
        exact (goesOn found.1).error found.2 more error failed long

theorem extends_number (width : ℕ) : (number short width).Extends short :=
  (extends_bytes width).bind fun _ => extends_pure _

/-- The same of a decoder, which forgets what follows its value. -/
structure DecodeExtends (decode : List UInt8 → Except ε α) (short : ε) : Prop where
  value : ∀ buffer more value, decode buffer = .ok value → decode (buffer ++ more) = .ok value
  error : ∀ buffer more error, decode buffer = .error error → error ≠ short →
    decode (buffer ++ more) = .error error

theorem Extends.decode {reader : Reader ε α} (longer : reader.Extends short) :
    DecodeExtends reader.decode short where
  value := by
    intro buffer more value decoded
    unfold Reader.decode at decoded ⊢
    cases hread : reader buffer with
    | error error =>
        rw [hread] at decoded
        cases decoded
    | ok found =>
        rw [hread] at decoded
        rw [longer.value buffer more found.1 found.2 hread]
        exact decoded
  error := by
    intro buffer more error failed long
    unfold Reader.decode at failed ⊢
    cases hread : reader buffer with
    | error other =>
        rw [hread] at failed
        obtain rfl := Except.error.inj failed
        rw [longer.error buffer more other hread long]
        rfl
    | ok found =>
        rw [hread] at failed
        cases failed

theorem DecodeExtends.map {decode : List UInt8 → Except ε α} (longer : DecodeExtends decode short)
    (convert : α → β) : DecodeExtends (fun buffer => (decode buffer).map convert) short where
  value := by
    intro buffer more value decoded
    cases hdecode : decode buffer with
    | error error =>
        rw [hdecode] at decoded
        cases decoded
    | ok found =>
        rw [hdecode] at decoded
        rw [longer.value buffer more found hdecode]
        exact decoded
  error := by
    intro buffer more error failed long
    cases hdecode : decode buffer with
    | error other =>
        rw [hdecode] at failed
        obtain rfl := Except.error.inj failed
        rw [longer.error buffer more other hdecode long]
        rfl
    | ok found =>
        rw [hdecode] at failed
        cases failed

end Longer

end Reader

end PldmLib.Machine
