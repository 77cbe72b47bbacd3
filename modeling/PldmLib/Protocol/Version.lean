/-
# Versions

A version is read from a text of two or three parts between dots, of which the
last two may end in a letter, and is encoded in a word with two decimal digits
in each of its bytes and the letter in the lowest one. A number below ten is
marked by a filled upper digit, and an update that is left out by a filled byte.

Which characters are letters is decided by the tables of Unicode. They are a
parameter here, and nothing below depends on them.
-/

import PldmLib.Machine.Text
import PldmLib.Protocol.Base

namespace PldmLib.Protocol

open PldmLib.Machine

/-- The update number is 255 where it is left out. -/
structure PldmVersion where
  alpha : UInt8
  update : UInt8
  minor : UInt8
  major : UInt8
  deriving DecidableEq, Repr

namespace PldmVersion

/-- The text that stands for an update that is left out. -/
def noUpdate : List Char := ['F', 'F']

section Reading

variable (isAlphabetic : Char → Bool)

/-- A part without the letter at its end, and the letter, or the one from before. -/
def splitAlpha (alpha : UInt8) (part : List Char) : Outcome PldmError (UInt8 × List Char) :=
  match part.getLast? with
  | some lastChar =>
      if isAlphabetic lastChar then do
        let rest ← sliceTo part (byteLength part - 1)
        pure (UInt8.ofNat lastChar.toNat, rest)
      else pure (alpha, part)
  | none => pure (alpha, part)

def parse (text : List Char) : Outcome PldmError UInt8 :=
  match parseU8 text with
  | some value => .ok value
  | none => .err .invalidProtocolVersion

def parseUpdate (updateStr : List Char) : Outcome PldmError UInt8 :=
  if updateStr = noUpdate then .ok 0xFF else parse updateStr

/-- The conversion of the parts of a text. -/
def ofParts (majorStr minorStr updateStr : List Char) : Outcome PldmError PldmVersion := do
  let (alpha, minorStr) ← splitAlpha isAlphabetic 0 minorStr
  let (alpha, updateStr) ←
    if updateStr ≠ noUpdate then splitAlpha isAlphabetic alpha updateStr
    else pure (alpha, updateStr)
  let major ← parse majorStr
  let minor ← parse minorStr
  let update ← parseUpdate updateStr
  pure ⟨alpha, update, minor, major⟩

def tryFrom (version : String) : Outcome PldmError PldmVersion :=
  match version.toList.splitOn '.' with
  | [majorStr, minorStr] => ofParts isAlphabetic majorStr minorStr noUpdate
  | [majorStr, minorStr, updateStr] => ofParts isAlphabetic majorStr minorStr updateStr
  | _ => .err .invalidProtocolVersion

end Reading

/-! ## The encoding -/

/-- Two decimal digits, or one behind a filled upper digit. The shift drops what
does not fit the upper digit. -/
def bcd (value : UInt8) : UInt8 :=
  if value < 10 then 0xF0 ||| value else (value / 10) <<< 4 ||| value % 10

def updateBcd (update : UInt8) : UInt8 := if update = 0xFF then 0xFF else bcd update

def bcdEncodeToVer32 (version : PldmVersion) : UInt32 :=
  (bcd version.major).toUInt32 <<< 24 ||| (bcd version.minor).toUInt32 <<< 16 |||
    (updateBcd version.update).toUInt32 <<< 8 ||| version.alpha.toUInt32

def ofBcd (byte : UInt8) : UInt8 :=
  if byte >>> 4 = 0xF then byte &&& 0x0F else (byte >>> 4) * 10 + (byte &&& 0x0F)

def updateOfBcd (byte : UInt8) : UInt8 := if byte = 0xFF then byte else ofBcd byte

def bcdDecodeFromVer32 (encodedVer32 : UInt32) : PldmVersion where
  alpha := (encodedVer32 &&& 0xFF).toUInt8
  update := updateOfBcd ((encodedVer32 >>> 8) &&& 0xFF).toUInt8
  minor := ofBcd ((encodedVer32 >>> 16) &&& 0xFF).toUInt8
  major := ofBcd ((encodedVer32 >>> 24) &&& 0xFF).toUInt8

example : (⟨0x61, 10, 7, 3⟩ : PldmVersion).bcdEncodeToVer32 = 0xF3F71061 := by decide
example : bcdDecodeFromVer32 0xF1F0FF62 = ⟨0x62, 0xFF, 0, 1⟩ := by decide

/-! ## Bytes of a word -/

/-- Four bytes in a word do not overlap. -/
theorem toNat_word (byte3 byte2 byte1 byte0 : UInt8) :
    (byte3.toUInt32 <<< 24 ||| byte2.toUInt32 <<< 16 ||| byte1.toUInt32 <<< 8 |||
      byte0.toUInt32).toNat =
      byte3.toNat * 2 ^ 24 + (byte2.toNat * 2 ^ 16 + (byte1.toNat * 2 ^ 8 + byte0.toNat)) := by
  have hbyte2 := byte2.toNat_lt
  have hbyte1 := byte1.toNat_lt
  have hbyte0 := byte0.toNat_lt
  have hshift (byte : UInt8) {count : ℕ} (small : count ≤ 24) :
      byte.toNat <<< count % 2 ^ 32 = byte.toNat <<< count := by
    rw [Nat.shiftLeft_eq]
    apply Nat.mod_eq_of_lt
    calc byte.toNat * 2 ^ count < 2 ^ 8 * 2 ^ count :=
          Nat.mul_lt_mul_of_pos_right byte.toNat_lt (Nat.two_pow_pos count)
      _ = 2 ^ (8 + count) := (Nat.pow_add 2 8 count).symm
      _ ≤ 2 ^ 32 := Nat.pow_le_pow_right (by decide) (by omega)
  have hlow : byte1.toNat <<< 8 ||| byte0.toNat = byte1.toNat * 2 ^ 8 + byte0.toNat := by
    rw [← Nat.shiftLeft_add_eq_or_of_lt hbyte0, Nat.shiftLeft_eq]
  have hmiddle : byte2.toNat <<< 16 ||| (byte1.toNat * 2 ^ 8 + byte0.toNat) =
      byte2.toNat * 2 ^ 16 + (byte1.toNat * 2 ^ 8 + byte0.toNat) := by
    rw [← Nat.shiftLeft_add_eq_or_of_lt (by omega), Nat.shiftLeft_eq]
  have hhigh : byte3.toNat <<< 24 ||| (byte2.toNat * 2 ^ 16 + (byte1.toNat * 2 ^ 8 + byte0.toNat)) =
      byte3.toNat * 2 ^ 24 + (byte2.toNat * 2 ^ 16 + (byte1.toNat * 2 ^ 8 + byte0.toNat)) := by
    rw [← Nat.shiftLeft_add_eq_or_of_lt (by omega), Nat.shiftLeft_eq]
  simp only [UInt32.toNat_or, UInt32.toNat_shiftLeft, UInt8.toNat_toUInt32, UInt32.reduceToNat,
    Nat.reduceMod, hshift byte3 (by decide : 24 ≤ 24), hshift byte2 (by decide : 16 ≤ 24),
    hshift byte1 (by decide : 8 ≤ 24), Nat.or_assoc, hlow, hmiddle, hhigh]

theorem toNat_lowByte (word : UInt32) : (word &&& 0xFF).toUInt8.toNat = word.toNat % 2 ^ 8 := by
  rw [UInt32.toNat_toUInt8, UInt32.toNat_and]
  show (word.toNat &&& 2 ^ 8 - 1) % 2 ^ 8 = _
  rw [Nat.and_two_pow_sub_one_eq_mod, Nat.mod_mod]

theorem toNat_byte (word : UInt32) (bits : ℕ) {count : UInt32} (counted : count.toNat = bits)
    (small : bits < 32) :
    ((word >>> count) &&& 0xFF).toUInt8.toNat = word.toNat / 2 ^ bits % 2 ^ 8 := by
  rw [toNat_lowByte, UInt32.toNat_shiftRight, counted, Nat.mod_eq_of_lt small,
    Nat.shiftRight_eq_div_pow]

/-- Each component is decoded from the byte it was encoded in. -/
theorem bcdDecode_bcdEncode (version : PldmVersion) : bcdDecodeFromVer32 version.bcdEncodeToVer32 =
    ⟨version.alpha, updateOfBcd (updateBcd version.update), ofBcd (bcd version.minor),
      ofBcd (bcd version.major)⟩ := by
  have hword := toNat_word (bcd version.major) (bcd version.minor) (updateBcd version.update)
    version.alpha
  rw [← bcdEncodeToVer32] at hword
  have hmajor := (bcd version.major).toNat_lt
  have hminor := (bcd version.minor).toNat_lt
  have hupdate := (updateBcd version.update).toNat_lt
  have halpha := version.alpha.toNat_lt
  have hbyte3 : ((version.bcdEncodeToVer32 >>> 24) &&& 0xFF).toUInt8 = bcd version.major := by
    rw [← UInt8.toNat_inj, toNat_byte _ 24 rfl (by decide)]
    omega
  have hbyte2 : ((version.bcdEncodeToVer32 >>> 16) &&& 0xFF).toUInt8 = bcd version.minor := by
    rw [← UInt8.toNat_inj, toNat_byte _ 16 rfl (by decide)]
    omega
  have hbyte1 : ((version.bcdEncodeToVer32 >>> 8) &&& 0xFF).toUInt8 =
      updateBcd version.update := by
    rw [← UInt8.toNat_inj, toNat_byte _ 8 rfl (by decide)]
    omega
  have hbyte0 : (version.bcdEncodeToVer32 &&& 0xFF).toUInt8 = version.alpha := by
    rw [← UInt8.toNat_inj, toNat_lowByte]
    omega
  rw [bcdDecodeFromVer32, hbyte3, hbyte2, hbyte1, hbyte0]

/-! ## What survives the encoding -/

/-- The digits of a number survive where the upper one is not taken for the mark. -/
theorem ofBcd_bcd_iff (value : UInt8) : ofBcd (bcd value) = value ↔ value < 150 := by
  have hall : ∀ number < 256, ofBcd (bcd (UInt8.ofNat number)) = UInt8.ofNat number ↔
      UInt8.ofNat number < 150 := by decide +kernel
  simpa only [UInt8.ofNat_toNat] using hall value.toNat value.toNat_lt

theorem updateOfBcd_updateBcd_iff (update : UInt8) :
    updateOfBcd (updateBcd update) = update ↔ update < 150 ∨ update = 0xFF := by
  have hall : ∀ number < 256, updateOfBcd (updateBcd (UInt8.ofNat number)) = UInt8.ofNat number ↔
      UInt8.ofNat number < 150 ∨ UInt8.ofNat number = 0xFF := by decide +kernel
  simpa only [UInt8.ofNat_toNat] using hall update.toNat update.toNat_lt

theorem roundTrips_iff (version : PldmVersion) :
    bcdDecodeFromVer32 version.bcdEncodeToVer32 = version ↔
      version.major < 150 ∧ version.minor < 150 ∧
        (version.update < 150 ∨ version.update = 0xFF) := by
  rw [bcdDecode_bcdEncode, ← ofBcd_bcd_iff version.major, ← ofBcd_bcd_iff version.minor,
    ← updateOfBcd_updateBcd_iff version.update]
  constructor
  · intro same
    exact ⟨congrArg major same, congrArg minor same, congrArg update same⟩
  · rintro ⟨hmajor, hminor, hupdate⟩
    rw [hmajor, hminor, hupdate]

/-! ## What is read -/

section Parts

variable (isAlphabetic : Char → Bool)

/-- A part ends in a letter of more than one byte. -/
def EndsWide (part : List Char) : Prop :=
  ∃ lastChar, part.getLast? = some lastChar ∧ isAlphabetic lastChar = true ∧
    lastChar.utf8Size ≠ 1

def withoutLetter (part : List Char) : List Char :=
  match part.getLast? with
  | some lastChar => if isAlphabetic lastChar then part.dropLast else part
  | none => part

/-- The digits of an update, from which no letter is cut where it is left out. -/
def updateText (updateStr : List Char) : List Char :=
  if updateStr = noUpdate then updateStr else withoutLetter isAlphabetic updateStr

/-- The number that the text of an update stands for. -/
def SpellsUpdate (text : List Char) (update : UInt8) : Prop :=
  if text = noUpdate then update = 0xFF else Spells text update.toNat

variable {isAlphabetic} {alpha major minor update : UInt8}
  {part majorStr minorStr updateStr : List Char}

theorem splitAlpha_of_wide (wide : EndsWide isAlphabetic part) :
    splitAlpha isAlphabetic alpha part = .panic := by
  obtain ⟨lastChar, last, letter, hwide⟩ := wide
  obtain ⟨before, rfl⟩ := List.getLast?_eq_some_iff.mp last
  rw [splitAlpha, last]
  dsimp only
  rw [if_pos letter, sliceTo_last, if_neg hwide]
  rfl

theorem splitAlpha_of_narrow (narrow : ¬ EndsWide isAlphabetic part) :
    ∃ letter,
      splitAlpha isAlphabetic alpha part = .ok (letter, withoutLetter isAlphabetic part) := by
  unfold splitAlpha withoutLetter
  cases last : part.getLast? with
  | none => exact ⟨alpha, rfl⟩
  | some lastChar =>
      by_cases letter : isAlphabetic lastChar = true
      · obtain ⟨before, rfl⟩ := List.getLast?_eq_some_iff.mp last
        have hone : lastChar.utf8Size = 1 := by
          by_contra wide
          exact narrow ⟨lastChar, last, letter, wide⟩
        refine ⟨UInt8.ofNat lastChar.toNat, ?_⟩
        dsimp only
        rw [if_pos letter, if_pos letter, sliceTo_last, if_pos hone, List.dropLast_concat]
        rfl
      · refine ⟨alpha, ?_⟩
        dsimp only
        rw [if_neg letter, if_neg letter]
        rfl

theorem parse_eq_ok_iff {text : List Char} {value : UInt8} :
    parse text = .ok value ↔ Spells text value.toNat := by
  rw [← parseU8_eq_some_iff, parse]
  cases parseU8 text <;> simp

theorem parse_ne_panic (text : List Char) : parse text ≠ .panic := by
  unfold parse
  split <;> simp

theorem parseUpdate_eq_ok_iff {text : List Char} :
    parseUpdate text = .ok update ↔ SpellsUpdate text update := by
  unfold parseUpdate SpellsUpdate
  split
  · rw [Outcome.ok.injEq, eq_comm]
  · exact parse_eq_ok_iff

theorem parseUpdate_ne_panic (text : List Char) : parseUpdate text ≠ .panic := by
  unfold parseUpdate
  split
  · simp
  · exact parse_ne_panic text

theorem ofParts_of_wide (wide : EndsWide isAlphabetic minorStr ∨
    updateStr ≠ noUpdate ∧ EndsWide isAlphabetic updateStr) :
    ofParts isAlphabetic majorStr minorStr updateStr = .panic := by
  by_cases hminor : EndsWide isAlphabetic minorStr
  · rw [ofParts, splitAlpha_of_wide hminor]
    rfl
  · obtain ⟨present, hupdate⟩ := wide.resolve_left hminor
    obtain ⟨letter, hletter⟩ := splitAlpha_of_narrow hminor
    rw [ofParts, hletter, Outcome.ok_bind]
    dsimp only
    rw [if_pos present, splitAlpha_of_wide hupdate]
    rfl

/-- Where no character is cut, the numbers are parsed behind the letters. -/
theorem ofParts_of_narrow (hminor : ¬ EndsWide isAlphabetic minorStr)
    (hupdate : updateStr ≠ noUpdate → ¬ EndsWide isAlphabetic updateStr) :
    ∃ alpha, ofParts isAlphabetic majorStr minorStr updateStr = (do
      let major ← parse majorStr
      let minor ← parse (withoutLetter isAlphabetic minorStr)
      let update ← parseUpdate (updateText isAlphabetic updateStr)
      pure ⟨alpha, update, minor, major⟩) := by
  obtain ⟨letter, hletter⟩ := @splitAlpha_of_narrow isAlphabetic 0 _ hminor
  rw [ofParts, hletter, Outcome.ok_bind]
  dsimp only
  by_cases absent : updateStr = noUpdate
  · refine ⟨letter, ?_⟩
    rw [if_neg (not_not.mpr absent), updateText, if_pos absent]
    rfl
  · obtain ⟨last, hlast⟩ := @splitAlpha_of_narrow isAlphabetic letter _ (hupdate absent)
    refine ⟨last, ?_⟩
    rw [if_pos absent, hlast, updateText, if_neg absent]
    rfl

/-- A version is read from three numbers. -/
theorem ofParts_eq_ok_iff (hminor : ¬ EndsWide isAlphabetic minorStr)
    (hupdate : updateStr ≠ noUpdate → ¬ EndsWide isAlphabetic updateStr) :
    (∃ alpha, ofParts isAlphabetic majorStr minorStr updateStr =
      .ok ⟨alpha, update, minor, major⟩) ↔
      Spells majorStr major.toNat ∧ Spells (withoutLetter isAlphabetic minorStr) minor.toNat ∧
        SpellsUpdate (updateText isAlphabetic updateStr) update := by
  obtain ⟨letter, hread⟩ := @ofParts_of_narrow isAlphabetic majorStr _ _ hminor hupdate
  simp only [hread, ← parse_eq_ok_iff, ← parseUpdate_eq_ok_iff, Outcome.bind_eq_ok,
    Outcome.pure_eq, Outcome.ok.injEq, mk.injEq]
  constructor
  · rintro ⟨_, _, hmajor, _, hminor, _, hupdate, rfl, rfl, rfl, rfl⟩
    exact ⟨hmajor, hminor, hupdate⟩
  · rintro ⟨hmajor, hminor, hupdate⟩
    exact ⟨letter, _, hmajor, _, hminor, _, hupdate, rfl, rfl, rfl, rfl⟩

theorem ofParts_ne_panic (hminor : ¬ EndsWide isAlphabetic minorStr)
    (hupdate : updateStr ≠ noUpdate → ¬ EndsWide isAlphabetic updateStr) :
    ofParts isAlphabetic majorStr minorStr updateStr ≠ .panic := by
  obtain ⟨letter, hread⟩ := @ofParts_of_narrow isAlphabetic majorStr _ _ hminor hupdate
  simp [hread, Outcome.bind_eq_panic, parse_ne_panic, parseUpdate_ne_panic]

/-- The version of a text survives: no character is cut, and if the parts are numbers,
their digits are not taken for marks. -/
structure PartsRepresentable (isAlphabetic : Char → Bool)
    (majorStr minorStr updateStr : List Char) : Prop where
  minor : ¬ EndsWide isAlphabetic minorStr
  update : updateStr ≠ noUpdate → ¬ EndsWide isAlphabetic updateStr
  numbers : ∀ major minor update : UInt8, Spells majorStr major.toNat →
    Spells (withoutLetter isAlphabetic minorStr) minor.toNat →
    SpellsUpdate (updateText isAlphabetic updateStr) update →
    major < 150 ∧ minor < 150 ∧ (update < 150 ∨ update = 0xFF)

def RoundTrips (version : PldmVersion) : Prop :=
  bcdDecodeFromVer32 version.bcdEncodeToVer32 = version

theorem ofParts_ensures_iff :
    (ofParts isAlphabetic majorStr minorStr updateStr).Ensures RoundTrips ↔
      PartsRepresentable isAlphabetic majorStr minorStr updateStr := by
  constructor
  · intro ensures
    have hpanic := ensures.ne_panic
    have hminor : ¬ EndsWide isAlphabetic minorStr := fun wide =>
      hpanic (ofParts_of_wide (.inl wide))
    have hupdate : updateStr ≠ noUpdate → ¬ EndsWide isAlphabetic updateStr := fun present wide =>
      hpanic (ofParts_of_wide (.inr ⟨present, wide⟩))
    refine ⟨hminor, hupdate, ?_⟩
    intro major minor update smajor sminor supdate
    obtain ⟨alpha, hread⟩ := (ofParts_eq_ok_iff hminor hupdate).mpr ⟨smajor, sminor, supdate⟩
    exact (roundTrips_iff _).mp (ensures.of_ok hread)
  · intro representable
    have hpanic := @ofParts_ne_panic isAlphabetic majorStr _ _ representable.minor
      representable.update
    cases hread : ofParts isAlphabetic majorStr minorStr updateStr with
    | panic => exact absurd hread hpanic
    | err error => trivial
    | ok version =>
        obtain ⟨smajor, sminor, supdate⟩ :=
          (ofParts_eq_ok_iff representable.minor representable.update).mp ⟨_, hread⟩
        exact (roundTrips_iff version).mpr (representable.numbers _ _ _ smajor sminor supdate)

end Parts

/-- A text of two or three parts is one whose version survives. -/
def Representable (isAlphabetic : Char → Bool) (version : String) : Prop :=
  match version.toList.splitOn '.' with
  | [majorStr, minorStr] => PartsRepresentable isAlphabetic majorStr minorStr noUpdate
  | [majorStr, minorStr, updateStr] => PartsRepresentable isAlphabetic majorStr minorStr updateStr
  | _ => True

theorem tryFrom_ensures_iff (isAlphabetic : Char → Bool) (version : String) :
    (tryFrom isAlphabetic version).Ensures RoundTrips ↔ Representable isAlphabetic version := by
  unfold tryFrom Representable
  split
  · exact ofParts_ensures_iff
  · exact ofParts_ensures_iff
  · exact Iff.rfl

end PldmVersion

end PldmLib.Protocol
