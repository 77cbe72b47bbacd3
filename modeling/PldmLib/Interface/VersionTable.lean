/-
# Versions in the table

An entry of the table keeps its version as a word, and a request names the version it
asks about as a word. So the table tells versions apart exactly as far as their words do,
and a version whose word stands for another one is taken for it.
-/

import PldmLib.Protocol.Version
import PldmLib.Interface.ControlContext

namespace PldmLib.Interface

open PldmLib.Machine PldmLib.Protocol

/-- An entry for a version that is given as a text. -/
def ProtocolCapability.new (isAlphabetic : Char → Bool) (pldmType : PldmSupportedType)
    (protocolVersion : String) (supportedCommands : List UInt8) :
    Outcome PldmError ProtocolCapability :=
  match PldmVersion.tryFrom isAlphabetic protocolVersion with
  | .ok ver => .ok ⟨pldmType, ver.bcdEncodeToVer32, supportedCommands⟩
  | .err _ => .err .invalidProtocolVersion
  | .panic => .panic

/-- The arguments from which an entry is built. -/
structure CapabilitySource where
  pldmType : PldmSupportedType
  protocolVersion : String
  supportedCommands : List UInt8

/-- A table with an entry for each of its sources. -/
def BuiltFrom (isAlphabetic : Char → Bool) (sources : List CapabilitySource)
    (caps : List ProtocolCapability) : Prop :=
  List.Forall₂ (fun source cap => ProtocolCapability.new isAlphabetic source.pldmType
    source.protocolVersion source.supportedCommands = .ok cap) sources caps

/-- The versions of a set of texts are read without a panic and survive the encoding,
have different words if they are different, and are told apart by every table of them. -/
structure VersionsSurvive (isAlphabetic : Char → Bool) (texts : Set String) : Prop where
  returns : ∀ text ∈ texts, PldmVersion.tryFrom isAlphabetic text ≠ .panic
  roundTrips : ∀ text ∈ texts, ∀ version, PldmVersion.tryFrom isAlphabetic text = .ok version →
    PldmVersion.bcdDecodeFromVer32 version.bcdEncodeToVer32 = version
  distinct : ∀ text ∈ texts, ∀ other ∈ texts, ∀ version otherVersion,
    PldmVersion.tryFrom isAlphabetic text = .ok version →
    PldmVersion.tryFrom isAlphabetic other = .ok otherVersion → version ≠ otherVersion →
      version.bcdEncodeToVer32 ≠ otherVersion.bcdEncodeToVer32
  supported : ∀ sources caps, (∀ source ∈ sources, source.protocolVersion ∈ texts) →
    BuiltFrom isAlphabetic sources caps → ∀ pldmType, ∀ text ∈ texts, ∀ version,
      PldmVersion.tryFrom isAlphabetic text = .ok version →
      ((ControlContext.new caps).isSupportedVersion pldmType version.bcdEncodeToVer32 = true ↔
        ∃ source ∈ sources, source.pldmType = pldmType ∧
          PldmVersion.tryFrom isAlphabetic source.protocolVersion = .ok version)

section Survival

variable {isAlphabetic : Char → Bool} {texts : Set String}

theorem of_new_eq_ok {pldmType : PldmSupportedType} {protocolVersion : String}
    {supportedCommands : List UInt8} {cap : ProtocolCapability}
    (built : ProtocolCapability.new isAlphabetic pldmType protocolVersion supportedCommands =
      .ok cap) :
    ∃ version, PldmVersion.tryFrom isAlphabetic protocolVersion = .ok version ∧
      cap = ⟨pldmType, version.bcdEncodeToVer32, supportedCommands⟩ := by
  unfold ProtocolCapability.new at built
  split at built
  · next version hread => exact ⟨version, hread, (Outcome.ok.inj built).symm⟩
  · cases built
  · cases built

/-- A table knows a word exactly when the version of a source has it. -/
theorem isSupportedVersion_builtFrom {sources : List CapabilitySource}
    {caps : List ProtocolCapability} (built : BuiltFrom isAlphabetic sources caps)
    {pldmType : PldmSupportedType} {word : UInt32} :
    (ControlContext.new caps).isSupportedVersion pldmType word = true ↔
      ∃ source ∈ sources, source.pldmType = pldmType ∧ ∃ version,
        PldmVersion.tryFrom isAlphabetic source.protocolVersion = .ok version ∧
          version.bcdEncodeToVer32 = word := by
  induction built with
  | nil => simp [ControlContext.isSupportedVersion, ControlContext.new]
  | @cons source cap sources caps hnew _ ih =>
      obtain ⟨version, hread, rfl⟩ := of_new_eq_ok hnew
      simp only [ControlContext.isSupportedVersion, ControlContext.new, List.any_cons,
        Bool.or_eq_true, Bool.and_eq_true, beq_iff_eq, List.exists_mem_cons_iff] at ih ⊢
      rw [ih]
      refine or_congr_left (and_congr_right fun _ => ?_)
      constructor
      · exact fun same => ⟨version, hread, same⟩
      · rintro ⟨read, hsame, same⟩
        obtain rfl := Outcome.ok.inj (hread.symm.trans hsame)
        exact same

/-- The versions of a set of texts survive exactly when the texts are representable. -/
theorem versionsSurvive_iff (isAlphabetic : Char → Bool) (texts : Set String) :
    VersionsSurvive isAlphabetic texts ↔
      ∀ text ∈ texts, PldmVersion.Representable isAlphabetic text := by
  constructor
  · intro survive text member
    rw [← PldmVersion.tryFrom_ensures_iff]
    have hreturns := survive.returns text member
    have hroundTrips := survive.roundTrips text member
    cases hread : PldmVersion.tryFrom isAlphabetic text with
    | ok version => exact hroundTrips version hread
    | err error => trivial
    | panic => exact hreturns hread
  · intro representable
    have hensures : ∀ text ∈ texts,
        (PldmVersion.tryFrom isAlphabetic text).Ensures PldmVersion.RoundTrips :=
      fun text member => (PldmVersion.tryFrom_ensures_iff _ _).mpr (representable text member)
    have hinjective : ∀ text ∈ texts, ∀ other ∈ texts, ∀ version otherVersion,
        PldmVersion.tryFrom isAlphabetic text = .ok version →
        PldmVersion.tryFrom isAlphabetic other = .ok otherVersion →
        version.bcdEncodeToVer32 = otherVersion.bcdEncodeToVer32 → version = otherVersion := by
      intro text member other otherMember version otherVersion hread hother same
      have hback := (hensures text member).of_ok hread
      have hotherBack := (hensures other otherMember).of_ok hother
      rw [PldmVersion.RoundTrips] at hback hotherBack
      rw [← hback, same, hotherBack]
    refine ⟨fun text member => (hensures text member).ne_panic,
      fun text member version hread => (hensures text member).of_ok hread, ?_, ?_⟩
    · intro text member other otherMember version otherVersion hread hother different same
      exact different (hinjective text member other otherMember _ _ hread hother same)
    · intro sources caps known built pldmType text member version hread
      rw [isSupportedVersion_builtFrom built]
      refine exists_congr fun source => and_congr_right fun hsource => and_congr_right fun _ => ?_
      constructor
      · rintro ⟨other, hother, same⟩
        rw [hinjective text member _ (known source hsource) _ _ hread hother same.symm]
        exact hother
      · exact fun same => ⟨version, same, rfl⟩

end Survival

/-- The letters among the characters of ISO 8859-1. -/
def latinLetter (char : Char) : Bool :=
  char.isAlpha || char == 'ª' || char == 'µ' || char == 'º' ||
    ('À' ≤ char && char ≤ 'ÿ' && char != '×' && char != '÷')

/-- A letter of two bytes is cut in the middle, and 150 is taken for zero. -/
theorem versions_lost :
    PldmVersion.tryFrom latinLetter "1.é" = .panic ∧
    PldmVersion.tryFrom latinLetter "1.150" = .ok ⟨0, 0xFF, 150, 1⟩ ∧
    PldmVersion.tryFrom latinLetter "1.0" = .ok ⟨0, 0xFF, 0, 1⟩ ∧
    PldmVersion.bcdDecodeFromVer32 (⟨0, 0xFF, 150, 1⟩ : PldmVersion).bcdEncodeToVer32 =
      ⟨0, 0xFF, 0, 1⟩ ∧
    (ControlContext.new [⟨.base, (⟨0, 0xFF, 0, 1⟩ : PldmVersion).bcdEncodeToVer32, []⟩]
      ).isSupportedVersion .base (⟨0, 0xFF, 150, 1⟩ : PldmVersion).bcdEncodeToVer32 = true ∧
    ¬ VersionsSurvive latinLetter Set.univ := by
  have hpanic : PldmVersion.tryFrom latinLetter "1.é" = .panic := by decide +kernel
  refine ⟨hpanic, by decide +kernel, by decide +kernel, by decide, by decide, ?_⟩
  intro survive
  exact survive.returns "1.é" (Set.mem_univ _) hpanic

end PldmLib.Interface
