/-
# Slices and numbers of a text

A text is a list of characters, but its positions count UTF-8 bytes. A slice up
to a byte position panics where that position is inside a character, so cutting
off the last byte is cutting off the last character only where that takes one
byte. `parseU8` reads a decimal number the way integers are parsed, with an
optional plus sign, and `Spells` says what it reads.
-/

import PldmLib.Machine.Outcome
import Mathlib.Algebra.GroupWithZero.Nat
import Mathlib.Data.List.Basic

namespace PldmLib.Machine

universe v

/-! ## Slices -/

/-- The length of a text in UTF-8 bytes. -/
def byteLength (text : List Char) : ℕ := (text.map Char.utf8Size).sum

/-- `text[..count]`, which panics inside a character and past the end. -/
def sliceTo {ε : Type v} : List Char → ℕ → Outcome ε (List Char)
  | _, 0 => .ok []
  | [], _ + 1 => .panic
  | char :: rest, count + 1 =>
      if char.utf8Size ≤ count + 1 then
        (sliceTo rest (count + 1 - char.utf8Size)).map (char :: ·)
      else .panic

section Slices

variable {ε : Type v}

theorem byteLength_append (first second : List Char) :
    byteLength (first ++ second) = byteLength first + byteLength second := by
  rw [byteLength, List.map_append, List.sum_append, byteLength, byteLength]

theorem sliceTo_cons {char : Char} {rest : List Char} {count : ℕ}
    (fits : char.utf8Size ≤ count) : (sliceTo (char :: rest) count : Outcome ε _) =
      (sliceTo rest (count - char.utf8Size)).map (char :: ·) := by
  have hsome := char.utf8Size_pos
  obtain ⟨before, rfl⟩ := Nat.exists_eq_add_one_of_ne_zero (by omega : count ≠ 0)
  rw [sliceTo, if_pos fits]

/-- A position behind a text is one in what follows it. -/
theorem sliceTo_append (text rest : List Char) (count : ℕ) :
    (sliceTo (text ++ rest) (byteLength text + count) : Outcome ε _) =
      (sliceTo rest count).map (text ++ ·) := by
  induction text with
  | nil =>
      rw [List.nil_append, byteLength, List.map_nil, List.sum_nil, Nat.zero_add]
      cases (sliceTo rest count : Outcome ε _) <;> rfl
  | cons char text ih =>
      have hlength : byteLength (char :: text) = char.utf8Size + byteLength text := by
        rw [byteLength, List.map_cons, List.sum_cons, byteLength]
      have hcount : char.utf8Size + byteLength text + count - char.utf8Size =
          byteLength text + count := by omega
      rw [hlength, List.cons_append, sliceTo_cons (by omega), hcount, ih]
      cases (sliceTo rest count : Outcome ε _) <;> rfl

/-- Cutting off one byte cuts off a last character of one byte, and panics otherwise. -/
theorem sliceTo_last (text : List Char) (last : Char) :
    (sliceTo (text ++ [last]) (byteLength (text ++ [last]) - 1) : Outcome ε _) =
      if last.utf8Size = 1 then .ok text else .panic := by
  have hsome := last.utf8Size_pos
  have hlast : byteLength [last] = last.utf8Size := by simp [byteLength]
  have hcount : byteLength (text ++ [last]) - 1 = byteLength text + (last.utf8Size - 1) := by
    rw [byteLength_append, hlast]
    omega
  rw [hcount, sliceTo_append]
  split
  · next one =>
      rw [one, sliceTo]
      exact congrArg Outcome.ok (List.append_nil text)
  · next wide =>
      obtain ⟨before, hbefore⟩ := Nat.exists_eq_add_one_of_ne_zero
        (by omega : last.utf8Size - 1 ≠ 0)
      rw [hbefore, sliceTo, if_neg (by omega)]
      rfl

end Slices

/-! ## Numbers -/

def digitValue (char : Char) : ℕ := char.toNat - '0'.toNat

/-- The digits behind a value that was read, as long as it fits a byte. -/
def parseDigits : List Char → ℕ → Option ℕ
  | [], value => some value
  | char :: rest, value =>
      if char.isDigit ∧ value * 10 + digitValue char < 256 then
        parseDigits rest (value * 10 + digitValue char)
      else none

/-- `parse::<u8>` -/
def parseU8 : List Char → Option UInt8
  | [] => none
  | ['+'] => none
  | '+' :: digits => (parseDigits digits 0).map UInt8.ofNat
  | digits => (parseDigits digits 0).map UInt8.ofNat

/-- The number a sequence of digits stands for behind a value. -/
def decimalFrom (value : ℕ) (digits : List Char) : ℕ :=
  digits.foldl (fun value char => value * 10 + digitValue char) value

/-- A text is a decimal number, with or without a plus sign in front. -/
def Spells (text : List Char) (value : ℕ) : Prop :=
  ∃ digits, (text = digits ∨ text = '+' :: digits) ∧ digits ≠ [] ∧
    (∀ char ∈ digits, char.isDigit = true) ∧ value = decimalFrom 0 digits

theorem le_decimalFrom (value : ℕ) (digits : List Char) : value ≤ decimalFrom value digits := by
  induction digits generalizing value with
  | nil => exact Nat.le_refl value
  | cons char rest ih =>
      have hrest := ih (value * 10 + digitValue char)
      rw [decimalFrom, List.foldl_cons, ← decimalFrom]
      omega

/-- Reading stops early only where the whole number does not fit. -/
theorem parseDigits_eq_some_iff {digits : List Char} {before value : ℕ} (fits : before < 256) :
    parseDigits digits before = some value ↔
      (∀ char ∈ digits, char.isDigit = true) ∧ value = decimalFrom before digits ∧ value < 256 := by
  induction digits generalizing before with
  | nil =>
      rw [parseDigits, Option.some.injEq, decimalFrom, List.foldl_nil]
      constructor
      · rintro rfl
        exact ⟨by simp, rfl, fits⟩
      · rintro ⟨_, rfl, _⟩
        rfl
  | cons char rest ih =>
      have hfrom : decimalFrom before (char :: rest) =
          decimalFrom (before * 10 + digitValue char) rest := rfl
      have hgrows := le_decimalFrom (before * 10 + digitValue char) rest
      rw [parseDigits, hfrom, List.forall_mem_cons]
      split
      · next goesOn =>
          rw [ih goesOn.2]
          exact ⟨fun ⟨hrest, hvalue⟩ => ⟨⟨goesOn.1, hrest⟩, hvalue⟩,
            fun ⟨⟨_, hrest⟩, hvalue⟩ => ⟨hrest, hvalue⟩⟩
      · next stops =>
          refine iff_of_false (by simp) ?_
          rintro ⟨⟨hdigit, _⟩, rfl, hvalue⟩
          exact stops ⟨hdigit, by omega⟩

theorem map_parseDigits_eq_some_iff {digits : List Char} {value : UInt8} :
    (parseDigits digits 0).map UInt8.ofNat = some value ↔
      (∀ char ∈ digits, char.isDigit = true) ∧ value.toNat = decimalFrom 0 digits := by
  rw [Option.map_eq_some_iff]
  constructor
  · rintro ⟨read, parsed, rfl⟩
    obtain ⟨hdigits, hread, fits⟩ := (parseDigits_eq_some_iff (by decide)).mp parsed
    exact ⟨hdigits, (UInt8.toNat_ofNat_of_lt' fits).trans hread⟩
  · rintro ⟨hdigits, hvalue⟩
    exact ⟨value.toNat, (parseDigits_eq_some_iff (by decide)).mpr
      ⟨hdigits, hvalue, value.toNat_lt⟩, UInt8.ofNat_toNat⟩

theorem spells_plus_iff {digits : List Char} {value : ℕ} :
    Spells ('+' :: digits) value ↔ digits ≠ [] ∧
      (∀ char ∈ digits, char.isDigit = true) ∧ value = decimalFrom 0 digits := by
  constructor
  · rintro ⟨same, rfl | hsame, hsome, hdigits, hvalue⟩
    · exact absurd (hdigits '+' List.mem_cons_self) (by decide)
    · obtain rfl := (List.cons.inj hsame).2
      exact ⟨hsome, hdigits, hvalue⟩
  · rintro ⟨hsome, hdigits, hvalue⟩
    exact ⟨digits, .inr rfl, hsome, hdigits, hvalue⟩

theorem spells_iff {char : Char} {rest : List Char} {value : ℕ} (unsigned : char ≠ '+') :
    Spells (char :: rest) value ↔
      (∀ digit ∈ char :: rest, digit.isDigit = true) ∧ value = decimalFrom 0 (char :: rest) := by
  constructor
  · rintro ⟨digits, rfl | hsame, _, hspelled⟩
    · exact hspelled
    · exact absurd (List.cons.inj hsame).1 unsigned
  · exact fun hspelled => ⟨_, .inl rfl, List.cons_ne_nil _ _, hspelled⟩

/-- A text that is parsed is a number that fits a byte. -/
theorem parseU8_eq_some_iff {text : List Char} {value : UInt8} :
    parseU8 text = some value ↔ Spells text value.toNat := by
  unfold parseU8
  split
  · refine iff_of_false (by simp) ?_
    rintro ⟨digits, rfl | hsame, hsome, _⟩
    · exact hsome rfl
    · cases hsame
  · rw [spells_plus_iff]
    exact iff_of_false (by simp) fun hspelled => hspelled.1 rfl
  · next digits more =>
      rw [map_parseDigits_eq_some_iff, spells_plus_iff]
      exact ⟨fun hspelled => ⟨fun none => more none, hspelled⟩, And.right⟩
  · next hsome hplus hsigned =>
      cases text with
      | nil => exact absurd rfl hsome
      | cons char rest =>
          rw [map_parseDigits_eq_some_iff, spells_iff]
          rintro rfl
          exact hsigned rest rfl

end PldmLib.Machine
