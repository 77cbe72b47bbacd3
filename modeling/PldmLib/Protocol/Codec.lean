/-
# Hand-written codecs

Messages that end in a string, a table or an optional field have codecs of their
own: the encoder checks the size of the whole message and then writes field after
field, the decoder scans the fields at a running offset. This module has the
fields they are made of, for the two ways in which a decoder looks at its buffer,
and the rules that put them together. An encoder that writes its fields one after
the other is one write of their concatenation.
-/

import PldmLib.Machine.Scan
import PldmLib.Protocol.FirmwareUpdate

namespace PldmLib.Protocol

open PldmLib.Machine

/-- A decoder with an offset. -/
abbrev FieldScanner (α : Type) := Scanner PldmCodecError α

/-- How a decoder looks at the next bytes: with `get`, which reports a short buffer,
or with a slice expression, which panics on one. -/
inductive Look
  | get
  | slice
  deriving DecidableEq, Repr

namespace Look

/-- The next `count` bytes. -/
def bytes (count : ℕ) : Look → FieldScanner (List UInt8)
  | .get => Scanner.get .bufferTooShort count
  | .slice => Scanner.slice count

def u8 (look : Look) : FieldScanner UInt8 := do
  pure (UInt8.ofNat (leValue (← look.bytes 1)))

def u16 (look : Look) : FieldScanner UInt16 := do
  pure (UInt16.ofNat (leValue (← look.bytes 2)))

def u32 (look : Look) : FieldScanner UInt32 := do
  pure (UInt32.ofNat (leValue (← look.bytes 4)))

def u64 (look : Look) : FieldScanner UInt64 := do
  pure (UInt64.ofNat (leValue (← look.bytes 8)))

/-- An array of `size` bytes that fills its type. -/
def array (look : Look) (size : ℕ) : FieldScanner (FixedBytes size) := do
  pure (FixedBytes.padTo size (← look.bytes size))

def header (look : Look) : FieldScanner PldmMsgHeader := do
  let field ← look.bytes pldmMsgHeaderLen
  pure ⟨field.getD 0 0, field.getD 1 0, field.getD 2 0⟩

/-- Nothing is asked of a buffer that is looked at with `get`. -/
def Room (look : Look) (count : ℕ) (coming : List UInt8) : Prop :=
  look = .slice → count ≤ coming.length

end Look

/-- `arr[..len].copy_from_slice(data)` on a zeroed array, for `data` of length
`len`: it panics if the array is too small. -/
def FixedBytes.copyFrom (size : ℕ) (data : List UInt8) :
    Outcome PldmCodecError (FixedBytes size) :=
  if data.length ≤ size then .ok (padTo size data) else .panic

/-- Variable-length data in a fixed array: a length above the array's is refused
before the bytes are looked at. -/
def boundedData (size len : ℕ) : FieldScanner (FixedBytes size) := do
  if len > size then
    Scanner.fail .invalidData
  else do
    let data ← Look.get.bytes len
    Scanner.ofOutcome (FixedBytes.copyFrom size data)

/-! ## Fields as numbers -/

@[simp] theorem length_u16Bytes (value : UInt16) : (u16Bytes value).length = 2 :=
  length_leBytes 2 _

@[simp] theorem length_u32Bytes (value : UInt32) : (u32Bytes value).length = 4 :=
  length_leBytes 4 _

@[simp] theorem length_u64Bytes (value : UInt64) : (u64Bytes value).length = 8 :=
  length_leBytes 8 _

@[simp] theorem PldmMsgHeader.length_toBytes (header : PldmMsgHeader) :
    header.toBytes.length = 3 := rfl

theorem u16Bytes_leValue {field : List UInt8} (length : field.length = 2) :
    u16Bytes (UInt16.ofNat (leValue field)) = field := by
  have hlt := leValue_lt field
  rw [length] at hlt
  rw [u16Bytes, UInt16.toNat_ofNat_of_lt' (by simpa [UInt16.size] using hlt), ← length,
    leBytes_leValue]

theorem u32Bytes_leValue {field : List UInt8} (length : field.length = 4) :
    u32Bytes (UInt32.ofNat (leValue field)) = field := by
  have hlt := leValue_lt field
  rw [length] at hlt
  rw [u32Bytes, UInt32.toNat_ofNat_of_lt' (by simpa [UInt32.size] using hlt), ← length,
    leBytes_leValue]

theorem u8_leValue {field : List UInt8} (length : field.length = 1) :
    [UInt8.ofNat (leValue field)] = field := by
  match field with
  | [byte] => simp [leValue]

@[simp] theorem leValue_u16Bytes (value : UInt16) :
    UInt16.ofNat (leValue (u16Bytes value)) = value := by
  rw [u16Bytes, leValue_leBytes value.toNat_lt, UInt16.ofNat_toNat]

@[simp] theorem leValue_u32Bytes (value : UInt32) :
    UInt32.ofNat (leValue (u32Bytes value)) = value := by
  rw [u32Bytes, leValue_leBytes value.toNat_lt, UInt32.ofNat_toNat]

@[simp] theorem leValue_u64Bytes (value : UInt64) :
    UInt64.ofNat (leValue (u64Bytes value)) = value := by
  rw [u64Bytes, leValue_leBytes value.toNat_lt, UInt64.ofNat_toNat]

/-! ## Arrays with a valid part -/

/-- The first `len` bytes of the array are data and the others are zero. -/
def FixedBytes.Padded {size : ℕ} (len : ℕ) (bytes : FixedBytes size) : Prop :=
  len ≤ size ∧ bytes = padTo size (bytes.toList.take len)

namespace FixedBytes

variable {size : ℕ}

theorem toList_padTo (data : List UInt8) :
    (padTo size data).toList = (data ++ List.replicate size 0).take size := rfl

theorem take_padTo {data : List UInt8} (fits : data.length ≤ size) :
    (padTo size data).toList.take data.length = data := by
  rw [toList_padTo, List.take_take, min_eq_left fits, List.take_left]

theorem padded_padTo {data : List UInt8} (fits : data.length ≤ size) :
    Padded data.length (padTo size data) :=
  ⟨fits, by rw [take_padTo fits]⟩

theorem padTo_toList (bytes : FixedBytes size) : padTo size bytes.toList = bytes := by
  apply Subtype.ext
  show (bytes.toList ++ List.replicate size 0).take size = bytes.toList
  rw [List.take_append_of_le_length (by simp), List.take_of_length_le (by simp)]

theorem length_take (bytes : FixedBytes size) {len : ℕ} (fits : len ≤ size) :
    (bytes.toList.take len).length = len := by
  rw [List.length_take, List.Vector.toList_length, min_eq_left fits]

/-- The valid part of a padded array determines it. -/
theorem padTo_take {len : ℕ} {bytes : FixedBytes size} (padded : Padded len bytes) :
    padTo size (bytes.toList.take len) = bytes := padded.2.symm

end FixedBytes

/-! ## Scanning fields -/

namespace Look

variable {look : Look} {passed coming after : List UInt8} {count size : ℕ}

theorem room_get : Look.get.Room count coming := by
  intro sliced
  cases sliced

theorem holds_bytes {post : List UInt8 → List UInt8 → List UInt8 → Prop}
    (room : look.Room count coming)
    (found : ∀ field after, coming = field ++ after → field.length = count →
      post field (passed ++ field) after) :
    (look.bytes count).Holds post passed coming := by
  cases look with
  | get => exact Scanner.holds_get found
  | slice => exact Scanner.holds_slice (room rfl) found

theorem holds_u8 {post : UInt8 → List UInt8 → List UInt8 → Prop}
    (room : look.Room 1 coming)
    (found : ∀ value after, coming = value :: after → post value (passed ++ [value]) after) :
    look.u8.Holds post passed coming := by
  apply Scanner.holds_bind
  apply holds_bytes room
  intro field after hcoming hlength
  apply Scanner.holds_pure
  have hpost := found (UInt8.ofNat (leValue field)) after
    (by rw [← List.singleton_append, u8_leValue hlength, hcoming])
  rwa [u8_leValue hlength] at hpost

theorem holds_u16 {post : UInt16 → List UInt8 → List UInt8 → Prop}
    (room : look.Room 2 coming)
    (found : ∀ value after, coming = u16Bytes value ++ after →
      post value (passed ++ u16Bytes value) after) :
    look.u16.Holds post passed coming := by
  apply Scanner.holds_bind
  apply holds_bytes room
  intro field after hcoming hlength
  apply Scanner.holds_pure
  have hpost := found (UInt16.ofNat (leValue field)) after
    (by rw [u16Bytes_leValue hlength, hcoming])
  rwa [u16Bytes_leValue hlength] at hpost

theorem holds_u32 {post : UInt32 → List UInt8 → List UInt8 → Prop}
    (room : look.Room 4 coming)
    (found : ∀ value after, coming = u32Bytes value ++ after →
      post value (passed ++ u32Bytes value) after) :
    look.u32.Holds post passed coming := by
  apply Scanner.holds_bind
  apply holds_bytes room
  intro field after hcoming hlength
  apply Scanner.holds_pure
  have hpost := found (UInt32.ofNat (leValue field)) after
    (by rw [u32Bytes_leValue hlength, hcoming])
  rwa [u32Bytes_leValue hlength] at hpost

theorem holds_array {post : FixedBytes size → List UInt8 → List UInt8 → Prop}
    (room : look.Room size coming)
    (found : ∀ value : FixedBytes size, ∀ after, coming = value.toList ++ after →
      post value (passed ++ value.toList) after) :
    (look.array size).Holds post passed coming := by
  apply Scanner.holds_bind
  apply holds_bytes room
  intro field after hcoming hlength
  apply Scanner.holds_pure
  have hlist : (FixedBytes.padTo size field).toList = field := by
    have htake : (FixedBytes.padTo size field).toList.take field.length = field :=
      FixedBytes.take_padTo hlength.le
    rwa [List.take_of_length_le (by simp [hlength])] at htake
  have hpost := found (FixedBytes.padTo size field) after (by rw [hlist, hcoming])
  rwa [hlist] at hpost

theorem holds_header {post : PldmMsgHeader → List UInt8 → List UInt8 → Prop}
    (room : look.Room 3 coming)
    (found : ∀ value after, coming = PldmMsgHeader.toBytes value ++ after →
      post value (passed ++ value.toBytes) after) :
    look.header.Holds post passed coming := by
  apply Scanner.holds_bind
  apply holds_bytes room
  intro field after hcoming hlength
  apply Scanner.holds_pure
  match field, hlength with
  | [byte0, byte1, byte2], _ => exact found ⟨byte0, byte1, byte2⟩ after hcoming

theorem runAt_bytes {field : List UInt8} (length : field.length = count) :
    (look.bytes count).runAt passed (field ++ after) =
      .ok (field, (passed ++ field).length) := by
  cases look with
  | get => exact Scanner.runAt_get length
  | slice => exact Scanner.runAt_slice length

theorem finds_u8 (value : UInt8) : look.u8.runAt passed ([value] ++ after) =
    .ok (value, (passed ++ [value]).length) := by
  have hbytes : (look.bytes 1).runAt passed ([value] ++ after) =
      .ok ([value], (passed ++ [value]).length) := runAt_bytes rfl
  rw [u8, Scanner.runAt_bind hbytes]
  simp [leValue]

theorem finds_u16 (value : UInt16) : look.u16.runAt passed (u16Bytes value ++ after) =
    .ok (value, (passed ++ u16Bytes value).length) := by
  rw [u16, Scanner.runAt_bind (runAt_bytes (length_u16Bytes value))]
  simp

theorem finds_u32 (value : UInt32) : look.u32.runAt passed (u32Bytes value ++ after) =
    .ok (value, (passed ++ u32Bytes value).length) := by
  rw [u32, Scanner.runAt_bind (runAt_bytes (length_u32Bytes value))]
  simp

theorem finds_u64 (value : UInt64) : look.u64.runAt passed (u64Bytes value ++ after) =
    .ok (value, (passed ++ u64Bytes value).length) := by
  rw [u64, Scanner.runAt_bind (runAt_bytes (length_u64Bytes value))]
  simp

theorem finds_array (value : FixedBytes size) :
    (look.array size).runAt passed (value.toList ++ after) =
      .ok (value, (passed ++ value.toList).length) := by
  rw [array, Scanner.runAt_bind (runAt_bytes value.toList_length)]
  simp [FixedBytes.padTo_toList]

theorem finds_header (value : PldmMsgHeader) : look.header.runAt passed (value.toBytes ++ after) =
    .ok (value, (passed ++ value.toBytes).length) := by
  have hlength : value.toBytes.length = pldmMsgHeaderLen := rfl
  rw [header, Scanner.runAt_bind (runAt_bytes hlength)]
  simp [PldmMsgHeader.toBytes]

/-! The same with what follows the field. -/

variable {β : Type}

@[simp]
theorem runAt_u8 (value : UInt8) (next : UInt8 → FieldScanner β) :
    (look.u8 >>= next).runAt passed (value :: after) =
      (next value).runAt (passed ++ [value]) after := Scanner.runAt_bind (finds_u8 value)

@[simp]
theorem runAt_u16 (value : UInt16) (next : UInt16 → FieldScanner β) :
    (look.u16 >>= next).runAt passed (u16Bytes value ++ after) =
      (next value).runAt (passed ++ u16Bytes value) after := Scanner.runAt_bind (finds_u16 value)

@[simp]
theorem runAt_u32 (value : UInt32) (next : UInt32 → FieldScanner β) :
    (look.u32 >>= next).runAt passed (u32Bytes value ++ after) =
      (next value).runAt (passed ++ u32Bytes value) after := Scanner.runAt_bind (finds_u32 value)

@[simp]
theorem runAt_u64 (value : UInt64) (next : UInt64 → FieldScanner β) :
    (look.u64 >>= next).runAt passed (u64Bytes value ++ after) =
      (next value).runAt (passed ++ u64Bytes value) after := Scanner.runAt_bind (finds_u64 value)

@[simp]
theorem runAt_array (value : FixedBytes size) (next : FixedBytes size → FieldScanner β) :
    (look.array size >>= next).runAt passed (value.toList ++ after) =
      (next value).runAt (passed ++ value.toList) after := Scanner.runAt_bind (finds_array value)

@[simp]
theorem runAt_header (value : PldmMsgHeader) (next : PldmMsgHeader → FieldScanner β) :
    (look.header >>= next).runAt passed (value.toBytes ++ after) =
      (next value).runAt (passed ++ value.toBytes) after :=
  Scanner.runAt_bind (finds_header value)

end Look

section BoundedData

variable {size len : ℕ} {passed coming after : List UInt8}

theorem holds_boundedData {post : FixedBytes size → List UInt8 → List UInt8 → Prop}
    (found : ∀ value : FixedBytes size, ∀ after, coming = value.toList.take len ++ after →
      FixedBytes.Padded len value → post value (passed ++ value.toList.take len) after) :
    (boundedData size len).Holds post passed coming := by
  unfold boundedData
  split
  · exact Scanner.holds_fail
  · next fits =>
      rw [not_lt] at fits
      apply Scanner.holds_bind
      apply Look.holds_bytes Look.room_get
      intro field after hcoming hlength
      subst hlength
      apply Scanner.holds_ofOutcome
      rw [FixedBytes.copyFrom, if_pos fits]
      have hpost := found (FixedBytes.padTo size field) after
        (by rw [FixedBytes.take_padTo fits, hcoming]) (FixedBytes.padded_padTo fits)
      rwa [FixedBytes.take_padTo fits] at hpost

theorem runAt_boundedData {value : FixedBytes size} (padded : FixedBytes.Padded len value)
    {β : Type} (next : FixedBytes size → FieldScanner β) :
    (boundedData size len >>= next).runAt passed (value.toList.take len ++ after) =
      (next value).runAt (passed ++ value.toList.take len) after := by
  have hlength := FixedBytes.length_take value padded.1
  have hfits : ¬ len > size := not_lt.mpr padded.1
  have hcopy : FixedBytes.copyFrom size (value.toList.take len) = .ok value := by
    rw [FixedBytes.copyFrom, hlength, if_pos padded.1, FixedBytes.padTo_take padded]
  apply Scanner.runAt_bind
  rw [boundedData, if_neg hfits, Scanner.runAt_bind (Look.runAt_bytes hlength), hcopy]
  rfl

end BoundedData

/-! ## Agreement with the readers -/

section Follows

theorem follows_field {α : Type} (convert : ℕ → α) (width : ℕ) :
    Scanner.Follows (do pure (convert (leValue (← Look.get.bytes width))))
      (do pure (convert (← Reader.number PldmCodecError.bufferTooShort width))) := by
  have hreader : (do pure (convert (← Reader.number PldmCodecError.bufferTooShort width))) =
      (Reader.bytes PldmCodecError.bufferTooShort width >>= fun field =>
        pure (convert (leValue field))) := by
    simp only [Reader.number, bind_assoc, pure_bind]
  rw [hreader]
  exact Scanner.follows_bind Scanner.follows_get fun _ _ _ _ => Scanner.follows_pure _

theorem Look.follows_u8 : Look.get.u8.Follows Decoder.u8 := follows_field UInt8.ofNat 1

theorem Look.follows_u16 : Look.get.u16.Follows Decoder.u16 := follows_field UInt16.ofNat 2

theorem Look.follows_u32 : Look.get.u32.Follows Decoder.u32 := follows_field UInt32.ofNat 4

/-- One look at three bytes is three looks at one. -/
theorem Look.follows_header : Look.get.header.Follows PldmMsgHeader.reader := by
  have hreader : PldmMsgHeader.reader =
      (Reader.bytes PldmCodecError.bufferTooShort pldmMsgHeaderLen >>= fun field =>
        pure ⟨field.getD 0 0, field.getD 1 0, field.getD 2 0⟩) := by
    funext coming
    match coming with
    | [] => rfl
    | [_] => rfl
    | [_, _] => rfl
    | byte0 :: byte1 :: byte2 :: after =>
        simp [PldmMsgHeader.reader, Decoder.u8, Reader.number, Reader.bytes, leValue,
          pldmMsgHeaderLen, Reader.bind_apply, Reader.map_apply, Except.bind, Except.map]
        rfl
  rw [hreader]
  exact Scanner.follows_bind Scanner.follows_get fun _ _ _ _ => Scanner.follows_pure _

end Follows

/-! ## Encoders -/

/-- `write` fills the buffer behind the bytes `written` with `fields`, if there is room
for them, and returns `value`. -/
def Fills {α : Type} (write : Call (List UInt8) PldmCodecError α)
    (written fields : List UInt8) (value : α) : Prop :=
  ∀ tail, fields.length ≤ tail.length →
    write (written ++ tail) = (.ok value, (written ++ fields) ++ tail.drop fields.length)

namespace Fills

variable {α β : Type} {written fields more : List UInt8} {offset : ℕ}

theorem pure (value : α) : Fills (pure value) written [] value := by
  intro tail _
  simp only [List.append_nil, List.length_nil, List.drop_zero]
  rfl

theorem bind {first : Call (List UInt8) PldmCodecError α}
    {next : α → Call (List UInt8) PldmCodecError β} {value : α} {result : β}
    (fills : Fills first written fields value)
    (goesOn : Fills (next value) (written ++ fields) more result) :
    Fills (first >>= next) written (fields ++ more) result := by
  intro tail room
  rw [List.length_append] at room
  have hfirst := fills tail (by omega)
  have hnext := goesOn (tail.drop fields.length) (by rw [List.length_drop]; omega)
  show Call.bind first next (written ++ tail) = _
  rw [Call.bind, hfirst]
  dsimp only
  rw [hnext, List.drop_drop, List.append_assoc written fields more, List.length_append]

/-- The next write of an encoder. -/
theorem writeAt (here : offset = written.length) :
    Fills (writeAt offset fields) written fields ⟨⟩ := by
  subst here
  intro tail room
  have hroom : written.length + fields.length ≤ (written ++ tail).length := by
    rw [List.length_append]
    omega
  have hdrop : (written ++ tail).drop (written.length + fields.length) =
      tail.drop fields.length := List.drop_length_add_append _
  rw [Protocol.writeAt, if_pos hroom, List.take_left, hdrop]

/-- The valid part of an array. -/
theorem slicePrefix {data : List UInt8} {len : ℕ} (fits : len ≤ data.length) :
    Fills (slicePrefix data len) written [] (data.take len) := by
  rw [Protocol.slicePrefix, if_pos fits]
  exact Fills.pure _

/-- An entry of a table. -/
theorem ofOutcome (value : α) : Fills (Call.ofOutcome (.ok value)) written [] value :=
  Fills.pure value

/-- The same bytes and the same result, written otherwise. -/
theorem congr {write : Call (List UInt8) PldmCodecError α} {message : List UInt8}
    {value result : α} (fills : Fills write written fields value) (bytes : fields = message)
    (returned : value = result) : Fills write written message result := by
  subst bytes returned
  exact fills

end Fills

/-- An encoder that checks the size of its message and then writes it. -/
theorem encodes_of_fills {encode write : Encoder} {message : List UInt8}
    (checks : encode = do
      let buffer ← Call.get
      if buffer.length < message.length then Call.fail .bufferTooShort else write)
    (fills : Fills write [] message message.length) : encode = writeToPrefix message := by
  funext buffer
  have hencode : encode.wp (fun outcome final => (outcome, final) =
      writeToPrefix message buffer) buffer := by
    rw [checks, Call.wp_bind, Call.wp_get]
    simp only [Call.wp_ite, Call.wp_fail, writeToPrefix]
    by_cases short : buffer.length < message.length
    · simp only [short, ↓reduceIte, not_le.mpr short]
    · simp only [short, ↓reduceIte, not_lt.mp short]
      exact fills buffer (not_lt.mp short)
  exact hencode

/-- A packed part, and behind it the valid part of an array. -/
def encodeText {size : ℕ} (fixed : List UInt8) (data : FixedBytes size) (len : UInt8) :
    Encoder := do
  let buffer ← Call.get
  if buffer.length < fixed.length + len.toNat then
    Call.fail .bufferTooShort
  else do
    writeAt 0 fixed
    writeAt fixed.length (← slicePrefix data.toList len.toNat)
    pure (fixed.length + len.toNat)

theorem encodeText_eq {size : ℕ} (fixed : List UInt8) {data : FixedBytes size} {len : UInt8}
    (fits : len.toNat ≤ size) :
    encodeText fixed data len = writeToPrefix (fixed ++ data.toList.take len.toNat) := by
  have hlength : (fixed ++ data.toList.take len.toNat).length = fixed.length + len.toNat := by
    rw [List.length_append, FixedBytes.length_take data fits]
  apply encodes_of_fills (by rw [hlength]; rfl)
  apply Fills.congr
  · apply Fills.bind
    · exact Fills.writeAt rfl
    apply Fills.bind
    · exact Fills.slicePrefix (by rwa [List.Vector.toList_length])
    apply Fills.bind
    · exact Fills.writeAt (by simp)
    exact Fills.pure _
  · simp
  · rw [hlength]

/-! ## Encoding what was decoded -/

/-- The encoder writes `message` to every buffer that has room for it. -/
def Writes (encode : Encoder) (message : List UInt8) : Prop :=
  ∀ buffer, message.length ≤ buffer.length →
    encode buffer = (.ok message.length, message ++ buffer.drop message.length)

theorem writes_writeToPrefix (message : List UInt8) : Writes (writeToPrefix message) message :=
  fun _ room => writeToPrefix_of_le room

/-- The message that is written is determined by the encoder. -/
theorem writes_writeToPrefix_iff {message other : List UInt8} :
    Writes (writeToPrefix message) other ↔ message = other := by
  constructor
  · intro writes
    have hwrites := writes (other ++ message) (by simp)
    rw [writes_writeToPrefix message (other ++ message) (by simp)] at hwrites
    obtain ⟨hlength, hwritten⟩ := Prod.mk.inj hwrites
    exact (List.append_inj hwritten (Outcome.ok.inj hlength)).1
  · rintro rfl
    exact writes_writeToPrefix message

/-- What a decoder has read off the front of a message is what its encoder writes. -/
theorem encode_of_decode {α : Type} {decode : List UInt8 → Outcome PldmCodecError α}
    {encode : Encoder} {toBytes : α → List UInt8} {canonical : α → Prop}
    (spells : Scanner.Spells decode toBytes canonical) {message buffer : List UInt8} {value : α}
    (accepted : decode message = .ok value)
    (writes : canonical value → Writes encode (toBytes value))
    (room : message.length ≤ buffer.length) :
    (toBytes value).length ≤ message.length ∧
      encode buffer = (.ok (toBytes value).length,
        message.take (toBytes value).length ++ buffer.drop (toBytes value).length) := by
  obtain ⟨hcanonical, after, rfl⟩ := (spells message).of_ok accepted
  rw [List.length_append] at room ⊢
  rw [writes hcanonical buffer (by omega), List.take_left]
  exact ⟨by omega, rfl⟩

/-! ## What an encoder leaves for a decoder -/

/-- The encoder returns a size or an error, whatever the buffer. -/
def Safe (encode : Encoder) : Prop := ∀ buffer, (encode buffer).1 ≠ .panic

/-- What the encoder writes is accepted. -/
def Accepted (encode : Encoder) (accepts : List UInt8 → Prop) : Prop :=
  ∀ buffer size written, encode buffer = (.ok size, written) → accepts (written.take size)

theorem safe_writeToPrefix (message : List UInt8) : Safe (writeToPrefix message) := by
  intro buffer panicked
  exact writeToPrefix_ne_panic message buffer _ (Prod.ext panicked rfl)

theorem accepted_writeToPrefix {message : List UInt8} {accepts : List UInt8 → Prop} :
    Accepted (writeToPrefix message) accepts ↔ accepts message := by
  constructor
  · intro accepted
    have hwrites := writes_writeToPrefix message message le_rfl
    simpa using accepted _ _ _ hwrites
  · intro accepts buffer size written returned
    by_cases room : message.length ≤ buffer.length
    · rw [writeToPrefix_of_le room] at returned
      obtain ⟨hsize, rfl⟩ := Prod.mk.inj returned
      obtain rfl := Outcome.ok.inj hsize
      rwa [List.take_left]
    · rw [writeToPrefix, if_neg room] at returned
      cases returned

/-- The encoder and the decoder of a value agree: the encoder refuses a buffer that is too
short for the size, and else writes a message of this size that is read back. -/
structure Consistent {α : Type} (encode : Encoder) (size : ℕ)
    (decode : List UInt8 → Outcome PldmCodecError α) (value : α) : Prop where
  safe : Safe encode
  short : ∀ buffer, buffer.length < size → (encode buffer).1 = .err .bufferTooShort
  sized : ∀ buffer bytes written, encode buffer = (.ok bytes, written) → bytes = size
  accepted : Accepted encode fun message => decode message = .ok value

theorem consistent_writeToPrefix {α : Type} {message : List UInt8}
    {decode : List UInt8 → Outcome PldmCodecError α} {value : α}
    (reads : decode message = .ok value) :
    Consistent (writeToPrefix message) message.length decode value where
  safe := safe_writeToPrefix message
  short := fun buffer short => by rw [writeToPrefix, if_neg (not_le.mpr short)]
  sized := by
    intro buffer bytes written returned
    unfold writeToPrefix at returned
    split at returned
    · obtain ⟨hbytes, _⟩ := Prod.mk.inj returned
      exact (Outcome.ok.inj hbytes).symm
    · cases returned
  accepted := accepted_writeToPrefix.mpr reads

end PldmLib.Protocol
