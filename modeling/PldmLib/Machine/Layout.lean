/-
# Packed records

The values of a packed record and the byte strings of one length are the same thing. A
layout says which bytes a value is: numbers are little-endian, arrays are themselves, and a
record is its fields one behind the other, without padding.

A buffer is read through its front. What is read there is all that the front is
(`decode_eq_ok_iff`), and only a buffer that is too short cannot be read.
-/

import Mathlib.Data.Vector.Basic
import PldmLib.Machine.Bytes

namespace PldmLib.Machine

universe v

/-- The values of a type as the byte strings of one length. -/
structure Layout (α : Type) where
  size : ℕ
  toBytes : α → List UInt8
  ofBytes : List UInt8 → α
  length_toBytes : ∀ value, (toBytes value).length = size
  ofBytes_toBytes : ∀ value, ofBytes (toBytes value) = value
  toBytes_ofBytes : ∀ bytes, bytes.length = size → toBytes (ofBytes bytes) = bytes

namespace Layout

variable {α β γ : Type}

/-! ## Fields -/

def byte : Layout UInt8 where
  size := 1
  toBytes value := [value]
  ofBytes bytes := bytes.headD 0
  length_toBytes _ := rfl
  ofBytes_toBytes _ := rfl
  toBytes_ofBytes := by
    intro bytes sized
    obtain ⟨value, rfl⟩ := List.length_eq_one_iff.mp sized
    rfl

/-- A number of `width` bytes, least significant first. -/
def number (width : ℕ) (toNat : α → ℕ) (ofNat : ℕ → α) (fits : ∀ value, toNat value < 256 ^ width)
    (ofNat_toNat : ∀ value, ofNat (toNat value) = value)
    (toNat_ofNat : ∀ count < 256 ^ width, toNat (ofNat count) = count) : Layout α where
  size := width
  toBytes value := leBytes width (toNat value)
  ofBytes bytes := ofNat (leValue bytes)
  length_toBytes _ := length_leBytes _ _
  ofBytes_toBytes value := by rw [leValue_leBytes (fits value), ofNat_toNat]
  toBytes_ofBytes := by
    intro bytes sized
    subst sized
    rw [toNat_ofNat _ (leValue_lt bytes), leBytes_leValue]

def u16 : Layout UInt16 :=
  number 2 UInt16.toNat UInt16.ofNat UInt16.toNat_lt (fun _ => UInt16.ofNat_toNat)
    fun _ small => UInt16.toNat_ofNat_of_lt' small

def u32 : Layout UInt32 :=
  number 4 UInt32.toNat UInt32.ofNat UInt32.toNat_lt (fun _ => UInt32.ofNat_toNat)
    fun _ small => UInt32.toNat_ofNat_of_lt' small

def u64 : Layout UInt64 :=
  number 8 UInt64.toNat UInt64.ofNat UInt64.toNat_lt (fun _ => UInt64.ofNat_toNat)
    fun _ small => UInt64.toNat_ofNat_of_lt' small

theorem length_filled (bytes : List UInt8) (count : ℕ) :
    ((bytes ++ List.replicate count 0).take count).length = count := by
  simp

/-- An array of bytes. -/
def array (count : ℕ) : Layout (List.Vector UInt8 count) where
  size := count
  toBytes value := value.toList
  ofBytes bytes := ⟨(bytes ++ List.replicate count 0).take count, length_filled bytes count⟩
  length_toBytes value := value.toList_length
  ofBytes_toBytes value := Subtype.ext (List.take_left' value.toList_length)
  toBytes_ofBytes bytes sized := by
    show (bytes ++ List.replicate count 0).take count = bytes
    exact List.take_left' sized

/-! ## Records -/

/-- One field behind another. -/
def pair (first : Layout α) (second : Layout β) : Layout (α × β) where
  size := first.size + second.size
  toBytes value := first.toBytes value.1 ++ second.toBytes value.2
  ofBytes bytes := (first.ofBytes (bytes.take first.size), second.ofBytes (bytes.drop first.size))
  length_toBytes value := by
    rw [List.length_append, first.length_toBytes, second.length_toBytes]
  ofBytes_toBytes value := by
    rw [List.take_left' (first.length_toBytes _), List.drop_left' (first.length_toBytes _),
      first.ofBytes_toBytes, second.ofBytes_toBytes]
  toBytes_ofBytes := by
    intro bytes sized
    rw [first.toBytes_ofBytes _ (by rw [List.length_take]; omega),
      second.toBytes_ofBytes _ (by rw [List.length_drop]; omega), List.take_append_drop]

/-- The fields of a record under the record's own type. -/
def record (fields : Layout α) (build : α → β) (parts : β → α)
    (parts_build : ∀ value, parts (build value) = value)
    (build_parts : ∀ value, build (parts value) = value) : Layout β where
  size := fields.size
  toBytes value := fields.toBytes (parts value)
  ofBytes bytes := build (fields.ofBytes bytes)
  length_toBytes value := fields.length_toBytes _
  ofBytes_toBytes value := by rw [fields.ofBytes_toBytes, build_parts]
  toBytes_ofBytes bytes sized := by rw [parts_build, fields.toBytes_ofBytes bytes sized]

variable {layout : Layout α}

/-- Different values have different bytes. -/
theorem toBytes_injective (layout : Layout α) : Function.Injective layout.toBytes :=
  Function.LeftInverse.injective layout.ofBytes_toBytes

/-! ## Reading -/

variable {ε : Type v} {short : ε} {buffer : List UInt8} {value : α}

def reader (layout : Layout α) (short : ε) : Reader ε α := do
  let field ← Reader.bytes short layout.size
  pure (layout.ofBytes field)

theorem reader_of_le (room : layout.size ≤ buffer.length) : layout.reader short buffer =
    .ok (layout.ofBytes (buffer.take layout.size), buffer.drop layout.size) := by
  rw [reader, Reader.bind_apply, Reader.bytes_of_le room]
  rfl

theorem reader_of_lt (few : buffer.length < layout.size) :
    layout.reader short buffer = .error short := by
  rw [reader, Reader.bind_apply, Reader.bytes, if_neg (not_le.mpr few)]
  rfl

@[simp]
theorem reader_number {width : ℕ} {toNat : α → ℕ} {ofNat : ℕ → α}
    {fits : ∀ value, toNat value < 256 ^ width} {ofNat_toNat : ∀ value, ofNat (toNat value) = value}
    {toNat_ofNat : ∀ count < 256 ^ width, toNat (ofNat count) = count} :
    (number width toNat ofNat fits ofNat_toNat toNat_ofNat).reader short =
      (do pure (ofNat (← Reader.number short width))) := by
  simp only [reader, Reader.number, bind_assoc, pure_bind]
  rfl

/-- The fields of a record are read one after the other. -/
@[simp]
theorem reader_pair (first : Layout α) (second : Layout β) :
    (first.pair second).reader short = (do
      let value ← first.reader short
      let next ← second.reader short
      pure (value, next)) := by
  funext buffer
  have hsize : (first.pair second).size = first.size + second.size := rfl
  rw [Reader.bind_apply]
  by_cases room : first.size ≤ buffer.length
  · have hrest : (buffer.drop first.size).length = buffer.length - first.size :=
      List.length_drop
    rw [reader_of_le room]
    show _ = (second.reader short (buffer.drop first.size)).bind _
    by_cases more : second.size ≤ (buffer.drop first.size).length
    · rw [reader_of_le more, reader_of_le (by omega), hsize, ← List.drop_drop]
      simp only [pair, List.take_take, List.drop_take, Nat.add_sub_cancel_left,
        Nat.min_eq_left (Nat.le_add_right _ _)]
      rfl
    · rw [reader_of_lt (by omega), reader_of_lt (by omega)]
      rfl
  · rw [reader_of_lt (by omega), reader_of_lt (by omega)]
    rfl

@[simp]
theorem reader_record (fields : Layout α) (build : α → β) (parts : β → α)
    (parts_build : ∀ value, parts (build value) = value)
    (build_parts : ∀ value, build (parts value) = value) :
    (fields.record build parts parts_build build_parts).reader short =
      build <$> fields.reader short := by
  funext buffer
  rw [Reader.map_apply]
  have hsize : (fields.record build parts parts_build build_parts).size = fields.size := rfl
  by_cases room : fields.size ≤ buffer.length
  · rw [reader_of_le room, reader_of_le (hsize ▸ room)]
    rfl
  · rw [reader_of_lt (not_le.mp room), reader_of_lt (hsize ▸ not_le.mp room)]
    rfl

/-- Nothing but a short buffer is refused. -/
theorem decode_eq_error_iff {error : ε} : (layout.reader short).decode buffer = .error error ↔
    buffer.length < layout.size ∧ error = short := by
  rw [Reader.decode]
  by_cases room : layout.size ≤ buffer.length
  · rw [reader_of_le room]
    exact iff_of_false (by rintro ⟨⟩) fun few => absurd few.1 (not_lt.mpr room)
  · rw [reader_of_lt (not_le.mp room), and_iff_right (not_le.mp room)]
    exact ⟨fun failed => (Except.error.inj failed).symm, fun same => congrArg _ same.symm⟩

/-- A value is read where its bytes are. -/
theorem decode_eq_ok_iff : (layout.reader short).decode buffer = .ok value ↔
    layout.toBytes value <+: buffer := by
  rw [Reader.decode]
  constructor
  · intro decoded
    by_cases room : layout.size ≤ buffer.length
    · rw [reader_of_le room] at decoded
      obtain rfl := Except.ok.inj decoded
      rw [layout.toBytes_ofBytes _ (List.length_take_of_le room)]
      exact List.take_prefix _ _
    · rw [reader_of_lt (not_le.mp room)] at decoded
      cases decoded
  · rintro ⟨rest, rfl⟩
    have hlength := layout.length_toBytes value
    rw [reader_of_le (by rw [List.length_append]; omega), List.take_left' hlength,
      layout.ofBytes_toBytes]
    rfl

end Layout

end PldmLib.Machine
