/-
# Bitmaps

A sequence of bytes as a set of codes: a code is the bit `item % 8` of the byte
`item / 8`. Adding a code ors the mask of its bit into its byte, looking one up
takes the and with it. A bitmap of `size` bytes has no place for a code from
`8 * size` on.
-/

import Mathlib.Data.Nat.Bitwise
import Mathlib.Data.Set.Insert
import Mathlib.Data.Vector.Basic

namespace PldmLib.Machine

namespace Bitmap

/-- The bit of a code within its byte. -/
def mask (item : UInt8) : UInt8 := 1 <<< (item % 8)

theorem toNat_mask (item : UInt8) : (mask item).toNat = 2 ^ (item.toNat % 8) := by
  have hbit : item.toNat % 8 < 8 := Nat.mod_lt _ (by decide)
  have hpow : 2 ^ (item.toNat % 8) < 2 ^ 8 := Nat.pow_lt_pow_right (by decide) hbit
  simp only [mask, UInt8.toNat_shiftLeft, UInt8.toNat_mod, UInt8.reduceToNat, Nat.mod_mod,
    Nat.shiftLeft_eq, Nat.one_mul, Nat.mod_eq_of_lt hpow]

/-- Looking at a byte through a mask tests one bit of it. -/
theorem and_mask_ne_zero (byte item : UInt8) :
    byte &&& mask item ≠ 0 ↔ byte.toNat.testBit (item.toNat % 8) = true := by
  rw [ne_eq, ← UInt8.toNat_inj, UInt8.toNat_and, toNat_mask, UInt8.toNat_zero,
    Nat.and_two_pow]
  cases byte.toNat.testBit (item.toNat % 8) <;> simp

variable {size : ℕ}

/-- The codes of a bitmap. -/
def items (bitmap : List.Vector UInt8 size) : Set UInt8 :=
  { item | ∃ inside : (item / 8).toNat < size, bitmap.get ⟨_, inside⟩ &&& mask item ≠ 0 }

theorem items_replicate_zero : items (List.Vector.replicate size 0) = ∅ := by
  apply Set.eq_empty_of_forall_notMem
  rintro item ⟨inside, set⟩
  rw [List.Vector.get_replicate] at set
  exact set (UInt8.zero_and)

/-- Or-ing the mask of a code into its byte adds this code and no other. -/
theorem items_set (bitmap : List.Vector UInt8 size) (item : UInt8)
    (inside : (item / 8).toNat < size) :
    items (bitmap.set ⟨_, inside⟩ (bitmap.get ⟨_, inside⟩ ||| mask item)) =
      insert item (items bitmap) := by
  ext other
  rw [Set.mem_insert_iff]
  by_cases hbyte : other / 8 = item / 8
  · have hother : (other / 8).toNat < size := hbyte ▸ inside
    have hsame : (⟨_, hother⟩ : Fin size) = ⟨_, inside⟩ := Fin.ext (congrArg UInt8.toNat hbyte)
    have hequal : item.toNat % 8 = other.toNat % 8 ↔ other = item := by
      have hdiv : other.toNat / 8 = item.toNat / 8 := congrArg UInt8.toNat hbyte
      rw [← UInt8.toNat_inj]
      omega
    have hiff : ∀ among : List.Vector UInt8 size,
        other ∈ items among ↔ among.get ⟨_, inside⟩ &&& mask other ≠ 0 := by
      intro among
      constructor
      · rintro ⟨_, set⟩
        exact hsame ▸ set
      · exact fun set => ⟨hother, hsame.symm ▸ set⟩
    rw [hiff, hiff, List.Vector.get_set_same, and_mask_ne_zero, and_mask_ne_zero, UInt8.toNat_or,
      toNat_mask, Nat.testBit_or, Nat.testBit_two_pow, Bool.or_eq_true, decide_eq_true_eq, hequal]
    exact or_comm
  · have hdistinct : other ≠ item := by
      rintro rfl
      exact hbyte rfl
    constructor
    · rintro ⟨hother, set⟩
      refine .inr ⟨hother, ?_⟩
      rwa [List.Vector.get_set_of_ne] at set
      intro same
      exact hbyte (UInt8.toNat_inj.mp (congrArg Fin.val same).symm)
    · rintro (rfl | ⟨hother, set⟩)
      · exact absurd rfl hdistinct
      · refine ⟨hother, ?_⟩
        rwa [List.Vector.get_set_of_ne]
        intro same
        exact hbyte (UInt8.toNat_inj.mp (congrArg Fin.val same).symm)

end Bitmap

end PldmLib.Machine
