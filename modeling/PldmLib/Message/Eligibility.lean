/-
# Eligibility of a component for an update

The check that a firmware device makes of a component that it is offered. The entry of
its own parameters with the same classification, identifier and index decides, first by
its comparison stamp and then by the version string of the active image.

Two things about the check are easy to overlook. The table is an array that the
constructor fills up with default entries, and the search runs over all of it. And a
version string is compared twice, for equality with the whole of its array and for
order with its text alone, where strings of different types have no order.
-/

import PldmLib.Message.InventoryCodec

namespace PldmLib.Protocol

open PldmLib.Machine

/-! ## The order of version strings -/

namespace PldmFirmwareString

variable {string other : PldmFirmwareString}

/-- `&self.str_data[..self.str_len]`, which panics past the end of the array. -/
def slice (string : PldmFirmwareString) : Outcome Empty (List UInt8) :=
  if string.strLen.toNat ≤ pldmFwupImageSetVerStrMaxLen then .ok string.text else .panic

def partialCmp (string other : PldmFirmwareString) : Outcome Empty (Option Ordering) :=
  if string.strType ≠ other.strType then
    .ok none
  else do
    let selfStr ← string.slice
    let otherStr ← other.slice
    pure (some (compare selfStr otherStr))

/-- Two strings of one type, of which the first one's text comes before the other's. -/
def Precedes (string other : PldmFirmwareString) : Prop :=
  string.strType = other.strType ∧ string.text < other.text

instance (string other : PldmFirmwareString) : Decidable (string.Precedes other) :=
  inferInstanceAs (Decidable (_ ∧ _))

/-- Two strings that neither comparison puts in order: they are of different types, or
of one text in two different arrays. -/
def Unordered (string other : PldmFirmwareString) : Prop :=
  string.strType ≠ other.strType ∨ string.text = other.text ∧ string ≠ other

/-- The same string, whatever stands behind its text. -/
structure Alike (string other : PldmFirmwareString) : Prop where
  strType : string.strType = other.strType
  strLen : string.strLen = other.strLen
  text : string.text = other.text

theorem Alike.refl (string : PldmFirmwareString) : string.Alike string := ⟨rfl, rfl, rfl⟩

theorem Alike.symm (alike : string.Alike other) : other.Alike string :=
  ⟨alike.strType.symm, alike.strLen.symm, alike.text.symm⟩

theorem compare_bytes_eq_lt {first second : List UInt8} :
    compare first second = .lt ↔ first < second := by
  induction first generalizing second with
  | nil => cases second <;> simp
  | cons byte tail ih =>
      cases second with
      | nil => simp
      | cons other rest =>
          rw [List.compare_cons_cons, List.cons_lt_cons_iff, ← ih, Ordering.then_eq_lt,
            Std.compare_eq_lt, Std.compare_eq_iff_eq]

/-- Two different texts are in one order or the other. -/
theorem lt_of_not_lt {first second : List UInt8} (different : first ≠ second)
    (later : ¬ first < second) : second < first := by
  rw [← compare_bytes_eq_lt] at later ⊢
  cases horder : compare first second with
  | lt => exact absurd horder later
  | eq => exact absurd (Std.compare_eq_iff_eq.mp horder) different
  | gt => exact Std.OrientedCmp.gt_iff_lt.mp horder

theorem Precedes.text_ne (precedes : string.Precedes other) : string.text ≠ other.text := by
  intro same
  have hearlier := precedes.2
  rw [same] at hearlier
  exact List.lt_irrefl _ hearlier

theorem unordered_iff : string.Unordered other ↔
    string ≠ other ∧ ¬ string.Precedes other ∧ ¬ other.Precedes string := by
  constructor
  · rintro (incomparable | ⟨text, different⟩)
    · exact ⟨fun same => incomparable (by rw [same]), fun earlier => incomparable earlier.1,
        fun later => incomparable later.1.symm⟩
    · exact ⟨different, fun earlier => earlier.text_ne text,
        fun later => later.text_ne text.symm⟩
  · rintro ⟨different, earlier, later⟩
    by_cases comparable : string.strType = other.strType
    · right
      refine ⟨?_, different⟩
      by_contra texts
      exact later ⟨comparable.symm, lt_of_not_lt texts fun before => earlier ⟨comparable, before⟩⟩
    · exact .inl comparable

/-- The comparisons of strings that are ordered do not see what is behind the texts. -/
theorem eq_of_alike {string' other' : PldmFirmwareString} (alike : string.Alike string')
    (otherAlike : other.Alike other') (ordered : ¬ string'.Unordered other')
    (same : string = other) : string' = other' := by
  subst same
  by_contra different
  exact ordered (.inr ⟨alike.text.symm.trans otherAlike.text, different⟩)

theorem precedes_iff_of_alike {string' other' : PldmFirmwareString} (alike : string.Alike string')
    (otherAlike : other.Alike other') : string.Precedes other ↔ string'.Precedes other' := by
  unfold Precedes
  rw [alike.strType, alike.text, otherAlike.strType, otherAlike.text]

theorem slice_of_fits (fits : string.Fits) : string.slice = .ok string.text := if_pos fits

theorem partialCmp_of_fits (fits : string.Fits) (otherFits : other.Fits) :
    string.partialCmp other =
      .ok (if string.strType = other.strType then some (compare string.text other.text)
        else none) := by
  unfold partialCmp
  rw [slice_of_fits fits, slice_of_fits otherFits]
  by_cases same : string.strType = other.strType
  · simp only [same, ne_eq, not_true_eq_false, ↓reduceIte, Outcome.ok_bind, Outcome.pure_eq]
  · simp only [same, ne_eq, not_false_eq_true, ↓reduceIte]

end PldmFirmwareString

def ComponentParameterEntry.getActiveFwVer (entry : ComponentParameterEntry) :
    PldmFirmwareString :=
  ⟨entry.compParamEntryFixed.activeCompVerStrType, entry.compParamEntryFixed.activeCompVerStrLen,
    entry.activeCompVerStr⟩

/-- Two entries that differ at most behind the text of their active version. -/
structure ComponentParameterEntry.Alike (entry other : ComponentParameterEntry) : Prop where
  compParamEntryFixed : entry.compParamEntryFixed = other.compParamEntryFixed
  active : entry.getActiveFwVer.Alike other.getActiveFwVer

theorem ComponentParameterEntry.Alike.refl (entry : ComponentParameterEntry) :
    entry.Alike entry := ⟨rfl, .refl _⟩

end PldmLib.Protocol

namespace PldmLib.Message

open PldmLib.Machine PldmLib.Protocol

/-- Two tables that differ at most behind the texts of the active versions. -/
def FirmwareParameters.Alike (fwParams others : FirmwareParameters) : Prop :=
  List.Forall₂ ComponentParameterEntry.Alike fwParams.compParamTable.toList
    others.compParamTable.toList

/-! ## The check -/

namespace FirmwareComponent

variable {component : FirmwareComponent} {fwParams : FirmwareParameters}
  {entry : ComponentParameterEntry}

/-- What the search looks for. -/
def names (component : FirmwareComponent) (entry : ComponentParameterEntry) : Bool :=
  entry.compParamEntryFixed.compClassification == component.compClassification &&
    entry.compParamEntryFixed.compIdentifier == component.compIdentifier &&
    entry.compParamEntryFixed.compClassificationIndex == component.compClassificationIndex

/-- What the entry that has been found decides. -/
def compareWith (component : FirmwareComponent) (entry : ComponentParameterEntry) :
    Outcome Empty ComponentResponseCode :=
  let activeCompComparisonStamp := entry.compParamEntryFixed.activeCompComparisonStamp
  if component.compComparisonStamp = activeCompComparisonStamp then
    .ok .compComparisonStampIdentical
  else if component.compComparisonStamp < activeCompComparisonStamp then
    .ok .compComparisonStampLower
  else if component.compVersion = entry.getActiveFwVer then
    .ok .compVerStrIdentical
  else do
    let order ← component.compVersion.partialCmp entry.getActiveFwVer
    if order = some .lt then
      pure .compVerStrLower
    else
      pure .compCanBeUpdated

def evaluateUpdateEligibility (component : FirmwareComponent) (fwParams : FirmwareParameters) :
    Outcome Empty ComponentResponseCode :=
  match fwParams.compParamTable.toList.find? component.names with
  | some entry => component.compareWith entry
  | none => .ok .compNotSupported

theorem evaluate_of_found
    (found : fwParams.compParamTable.toList.find? component.names = some entry) :
    component.evaluateUpdateEligibility fwParams = component.compareWith entry := by
  rw [evaluateUpdateEligibility, found]

theorem evaluate_of_missing
    (missing : fwParams.compParamTable.toList.find? component.names = none) :
    component.evaluateUpdateEligibility fwParams = .ok .compNotSupported := by
  rw [evaluateUpdateEligibility, missing]

/-- An entry that has been found is supported, whatever else it says. -/
theorem compareWith_ne_notSupported :
    component.compareWith entry ≠ .ok .compNotSupported := by
  intro unsupported
  unfold compareWith at unsupported
  cases horder : component.compVersion.partialCmp entry.getActiveFwVer with
  | ok order =>
      rw [horder] at unsupported
      simp only [Outcome.ok_bind, Outcome.pure_eq] at unsupported
      split_ifs at unsupported <;> cases unsupported
  | err error => cases error
  | panic =>
      rw [horder] at unsupported
      simp only [Outcome.panic_bind] at unsupported
      split_ifs at unsupported <;> cases unsupported

/-! ## Live entries -/

/-- The answer is that of the entries that are announced: the component is not supported
exactly when none of them names it, and the first one that does decides otherwise. -/
structure LooksAtLive (component : FirmwareComponent) (fwParams : FirmwareParameters) :
    Prop where
  notSupported : component.evaluateUpdateEligibility fwParams = .ok .compNotSupported ↔
    ∀ entry ∈ fwParams.entries, component.names entry = false
  decided : ∀ entry, fwParams.entries.find? component.names = some entry →
    component.evaluateUpdateEligibility fwParams = component.compareWith entry

/-- The table has been filled up with default entries, the component goes by their name
and no entry of the table does. -/
structure MatchesPadding (component : FirmwareComponent) (table : List ComponentParameterEntry) :
    Prop where
  compClassification : component.compClassification = 0
  compIdentifier : component.compIdentifier = 0
  compClassificationIndex : component.compClassificationIndex = 0
  padded : table.length < maxComponentCount
  absent : ∀ entry ∈ table, component.names entry = false

theorem names_default : component.names ComponentParameterEntry.default ↔
    component.compClassification = 0 ∧ component.compIdentifier = 0 ∧
      component.compClassificationIndex = 0 := by
  simp only [names, ComponentParameterEntry.default, Bool.and_eq_true, beq_iff_eq, and_assoc]
  exact and_congr eq_comm (and_congr eq_comm eq_comm)

/-- The search goes through the announced entries and then through the others. -/
theorem find_table : fwParams.compParamTable.toList.find? component.names =
    (fwParams.entries.find? component.names).or
      ((fwParams.compParamTable.toList.drop fwParams.compCount.toNat).find? component.names) := by
  rw [FirmwareParameters.entries, ← List.find?_append, List.take_append_drop]

/-- The entries that are not announced decide when one of them alone is named. -/
theorem looksAtLive_iff_find : component.LooksAtLive fwParams ↔
    (fwParams.entries.find? component.names = none →
      (fwParams.compParamTable.toList.drop fwParams.compCount.toNat).find? component.names =
        none) := by
  have hfind := @find_table component fwParams
  cases hlive : fwParams.entries.find? component.names with
  | some entry =>
      rw [hlive, Option.some_or] at hfind
      have hnames : component.names entry := List.find?_some hlive
      have hmem : entry ∈ fwParams.entries := List.mem_of_find?_eq_some hlive
      refine iff_of_true ⟨?_, ?_⟩ (fun missing => by cases missing)
      · rw [evaluate_of_found hfind]
        refine iff_of_false compareWith_ne_notSupported (fun absent => ?_)
        rw [absent entry hmem] at hnames
        cases hnames
      · intro first found
        obtain rfl := Option.some.inj (hlive.symm.trans found)
        exact evaluate_of_found hfind
  | none =>
      rw [hlive, Option.none_or] at hfind
      have habsent : ∀ entry ∈ fwParams.entries, component.names entry = false := by
        simpa using hlive
      cases hrest : (fwParams.compParamTable.toList.drop fwParams.compCount.toNat).find?
          component.names with
      | some entry =>
          rw [hrest] at hfind
          refine iff_of_false (fun live => ?_) (fun silent => by cases silent rfl)
          have hmissing := live.notSupported.mpr habsent
          rw [evaluate_of_found hfind] at hmissing
          exact compareWith_ne_notSupported hmissing
      | none =>
          rw [hrest] at hfind
          refine iff_of_true ⟨?_, ?_⟩ (fun _ => rfl)
          · exact iff_of_true (evaluate_of_missing hfind) habsent
          · intro first found
            rw [hlive] at found
            cases found

variable {capabilitiesDuringUpdate : UInt32} {compCount : UInt16}
  {active pending : PldmFirmwareString} {table : List ComponentParameterEntry}

/-- The constructor copies the table and goes on with default entries. -/
theorem table_new (few : table.length ≤ maxComponentCount) :
    (FirmwareParameters.new capabilitiesDuringUpdate compCount active pending
      table).compParamTable.toList =
        table ++ List.replicate (maxComponentCount - table.length)
          ComponentParameterEntry.default := by
  show (table ++ List.replicate maxComponentCount _).take maxComponentCount = _
  rw [List.take_append, List.take_of_length_le few, List.take_replicate,
    min_eq_left (Nat.sub_le _ _)]

/-- The check looks at live entries alone, unless a component goes by the name of the
entries that the table is filled up with. -/
theorem looksAtLive_iff (counted : compCount.toNat = table.length)
    (few : table.length ≤ maxComponentCount) :
    component.LooksAtLive
        (FirmwareParameters.new capabilitiesDuringUpdate compCount active pending table) ↔
      ¬ component.MatchesPadding table := by
  have htable := @table_new capabilitiesDuringUpdate compCount active pending _ few
  have hcount : (FirmwareParameters.new capabilitiesDuringUpdate compCount active pending
    table).compCount.toNat = table.length := counted
  rw [looksAtLive_iff_find, FirmwareParameters.entries, htable, hcount, List.take_left,
    List.drop_left, List.find?_replicate_eq_none_iff, Bool.not_eq_true', ← Bool.not_eq_true,
    names_default]
  constructor
  · intro silent matched
    have habsent : table.find? component.names = none := by
      simpa using matched.absent
    rcases silent habsent with full | different
    · have hpadded := matched.padded
      omega
    · exact different ⟨matched.compClassification, matched.compIdentifier,
        matched.compClassificationIndex⟩
  · intro unmatched absent
    by_cases full : maxComponentCount - table.length = 0
    · exact .inl full
    · right
      rintro ⟨classification, identifier, index⟩
      exact unmatched ⟨classification, identifier, index, by omega, by simpa using absent⟩

/-- An entry for component 1 of class 10, and the component at a later stamp. -/
def liveEntry : ComponentParameterEntry :=
  { ComponentParameterEntry.default with
    compParamEntryFixed := { ComponentParameterEntry.default.compParamEntryFixed with
      compClassification := 10
      compIdentifier := 1 } }

def liveComponent : FirmwareComponent :=
  { FirmwareComponent.default with
    compClassification := 10
    compIdentifier := 1
    compComparisonStamp := 1 }

/-- The component is found in its entry, and not behind it. -/
theorem looksAtLive_iff_live :
    liveComponent.names liveEntry = true ∧
    (liveComponent.LooksAtLive
        (FirmwareParameters.new 0 1 PldmFirmwareString.default PldmFirmwareString.default
          [liveEntry]) ↔
      ¬ liveComponent.MatchesPadding [liveEntry]) :=
  ⟨by decide, looksAtLive_iff rfl (by decide)⟩

/-- A device without components takes the all-zero component for one of its own. -/
theorem unknown_component_identical :
    FirmwareComponent.default.evaluateUpdateEligibility
        (FirmwareParameters.new 0 0 PldmFirmwareString.default PldmFirmwareString.default []) =
      .ok .compComparisonStampIdentical ∧
    ¬ FirmwareComponent.default.LooksAtLive
        (FirmwareParameters.new 0 0 PldmFirmwareString.default PldmFirmwareString.default []) := by
  have hidentical : FirmwareComponent.default.evaluateUpdateEligibility
      (FirmwareParameters.new 0 0 PldmFirmwareString.default PldmFirmwareString.default []) =
        .ok .compComparisonStampIdentical := by decide
  refine ⟨hidentical, fun live => ?_⟩
  have hmissing := live.notSupported.mpr (by decide)
  rw [hidentical] at hmissing
  cases hmissing

/-! ## Rollback -/

/-- A component that can be updated is newer than the active one, by its stamp and by its
version string. -/
def NoRollback (component : FirmwareComponent) (fwParams : FirmwareParameters) : Prop :=
  component.evaluateUpdateEligibility fwParams = .ok .compCanBeUpdated →
    ∃ entry, fwParams.compParamTable.toList.find? component.names = some entry ∧
      entry.compParamEntryFixed.activeCompComparisonStamp < component.compComparisonStamp ∧
      entry.getActiveFwVer.Precedes component.compVersion

/-- Two components that differ at most behind the text of their version. -/
structure Alike (component other : FirmwareComponent) : Prop where
  fields : other = { component with compVersion := other.compVersion }
  compVersion : component.compVersion.Alike other.compVersion

/-- The entry is older by its stamp, but its version and the component's are not in any
order. -/
def RollsBack (component : FirmwareComponent) (fwParams : FirmwareParameters) : Prop :=
  ∃ entry, fwParams.compParamTable.toList.find? component.names = some entry ∧
    entry.compParamEntryFixed.activeCompComparisonStamp < component.compComparisonStamp ∧
    component.compVersion.Unordered entry.getActiveFwVer

/-- The lengths of the strings that are compared are within their arrays. -/
structure VersionsFit (component : FirmwareComponent) (fwParams : FirmwareParameters) :
    Prop where
  component : component.compVersion.Fits
  entries : ∀ entry ∈ fwParams.compParamTable.toList, entry.getActiveFwVer.Fits

theorem compareWith_of_fits (fits : component.compVersion.Fits)
    (entryFits : entry.getActiveFwVer.Fits) :
    component.compareWith entry = .ok
      (if component.compComparisonStamp =
          entry.compParamEntryFixed.activeCompComparisonStamp then
        .compComparisonStampIdentical
      else if component.compComparisonStamp <
          entry.compParamEntryFixed.activeCompComparisonStamp then
        .compComparisonStampLower
      else if component.compVersion = entry.getActiveFwVer then
        .compVerStrIdentical
      else if component.compVersion.Precedes entry.getActiveFwVer then
        .compVerStrLower
      else
        .compCanBeUpdated) := by
  have horder : (if component.compVersion.strType = entry.getActiveFwVer.strType then
      some (compare component.compVersion.text entry.getActiveFwVer.text) else none) =
        some .lt ↔ component.compVersion.Precedes entry.getActiveFwVer := by
    by_cases same : component.compVersion.strType = entry.getActiveFwVer.strType
    · rw [if_pos same, Option.some_inj, PldmFirmwareString.compare_bytes_eq_lt]
      exact ⟨fun earlier => ⟨same, earlier⟩, And.right⟩
    · rw [if_neg same]
      exact iff_of_false (fun impossible => by cases impossible) fun precedes => same precedes.1
  unfold compareWith
  rw [PldmFirmwareString.partialCmp_of_fits fits entryFits]
  simp only [Outcome.ok_bind, horder, Outcome.pure_eq]
  split_ifs <;> rfl

/-- The stamp and the version string are all that speaks for an update. -/
theorem canBeUpdated_iff (fit : component.VersionsFit fwParams) :
    component.evaluateUpdateEligibility fwParams = .ok .compCanBeUpdated ↔
      ∃ entry, fwParams.compParamTable.toList.find? component.names = some entry ∧
        entry.compParamEntryFixed.activeCompComparisonStamp < component.compComparisonStamp ∧
        component.compVersion ≠ entry.getActiveFwVer ∧
        ¬ component.compVersion.Precedes entry.getActiveFwVer := by
  cases hfind : fwParams.compParamTable.toList.find? component.names with
  | none =>
      rw [evaluate_of_missing hfind]
      refine iff_of_false (fun impossible => by cases impossible) ?_
      rintro ⟨entry, found, _⟩
      cases found
  | some entry =>
      have hentry := fit.entries entry (List.mem_of_find?_eq_some hfind)
      rw [evaluate_of_found hfind, compareWith_of_fits fit.component hentry]
      constructor
      · intro updated
        refine ⟨entry, rfl, ?_⟩
        split_ifs at updated with same older identical earlier
        · cases updated
        · cases updated
        · cases updated
        · cases updated
        · exact ⟨UInt32.lt_of_le_of_ne (UInt32.not_lt.mp older) (Ne.symm same), identical,
            earlier⟩
      · rintro ⟨first, found, newer, different, later⟩
        obtain rfl := Option.some.inj found
        rw [if_neg (UInt32.ne_of_lt newer).symm, if_neg (UInt32.lt_asymm newer), if_neg different,
          if_neg later]

theorem noRollback_iff (fit : component.VersionsFit fwParams) :
    component.NoRollback fwParams ↔ ¬ component.RollsBack fwParams := by
  unfold NoRollback
  rw [canBeUpdated_iff fit]
  constructor
  · rintro safe ⟨entry, found, newer, unordered⟩
    obtain ⟨different, earlier, later⟩ := PldmFirmwareString.unordered_iff.mp unordered
    obtain ⟨first, again, _, precedes⟩ := safe ⟨entry, found, newer, different, earlier⟩
    obtain rfl := Option.some.inj (found.symm.trans again)
    exact later precedes
  · rintro ordered ⟨entry, found, newer, different, earlier⟩
    refine ⟨entry, found, newer, ?_⟩
    by_contra later
    exact ordered ⟨entry, found, newer,
      PldmFirmwareString.unordered_iff.mpr ⟨different, earlier, later⟩⟩

/-- A search for the same name in a table that is alike finds an entry that is alike. -/
theorem find_alike {table others : List ComponentParameterEntry}
    (alike : List.Forall₂ ComponentParameterEntry.Alike table others)
    {other : FirmwareComponent} (same : component.Alike other) :
    Option.Rel ComponentParameterEntry.Alike (table.find? component.names)
      (others.find? other.names) := by
  induction alike with
  | nil => exact .none
  | @cons first second _ _ head _ ih =>
      have hnames : other.names second = component.names first := by
        rw [same.fields]
        simp only [names, head.compParamEntryFixed]
      rw [List.find?_cons, List.find?_cons, hnames]
      cases component.names first with
      | true => exact .some head
      | false => exact ih

/-- What stands behind the texts does not matter to strings that are ordered. -/
theorem compareWith_alike {other : FirmwareComponent} {counterpart : ComponentParameterEntry}
    (same : component.Alike other) (alike : entry.Alike counterpart)
    (fits : component.compVersion.Fits) (entryFits : entry.getActiveFwVer.Fits)
    (ordered : entry.compParamEntryFixed.activeCompComparisonStamp <
      component.compComparisonStamp →
        ¬ component.compVersion.Unordered entry.getActiveFwVer ∧
          ¬ other.compVersion.Unordered counterpart.getActiveFwVer) :
    component.compareWith entry = other.compareWith counterpart := by
  have hfits : other.compVersion.Fits := by
    have hlen := fits
    rwa [PldmFirmwareString.Fits, same.compVersion.strLen] at hlen
  have hentryFits : counterpart.getActiveFwVer.Fits := by
    have hlen := entryFits
    rwa [PldmFirmwareString.Fits, alike.active.strLen] at hlen
  have hstamp : other.compComparisonStamp = component.compComparisonStamp := by rw [same.fields]
  have hprecedes := PldmFirmwareString.precedes_iff_of_alike same.compVersion alike.active
  rw [compareWith_of_fits fits entryFits, compareWith_of_fits hfits hentryFits, hstamp,
    ← alike.compParamEntryFixed]
  by_cases identical : component.compComparisonStamp =
      entry.compParamEntryFixed.activeCompComparisonStamp
  · rw [if_pos identical, if_pos identical]
  · by_cases older : component.compComparisonStamp <
        entry.compParamEntryFixed.activeCompComparisonStamp
    · simp only [older, ↓reduceIte]
    · obtain ⟨hordered, hotherOrdered⟩ := ordered
        (UInt32.lt_of_le_of_ne (UInt32.not_lt.mp older) (Ne.symm identical))
      have hsame : component.compVersion = entry.getActiveFwVer ↔
          other.compVersion = counterpart.getActiveFwVer :=
        ⟨PldmFirmwareString.eq_of_alike same.compVersion alike.active hotherOrdered,
          PldmFirmwareString.eq_of_alike same.compVersion.symm alike.active.symm hordered⟩
      simp only [identical, older, hsame, hprecedes, ↓reduceIte]

theorem evaluate_alike (fit : component.VersionsFit fwParams) {other : FirmwareComponent}
    {otherParams : FirmwareParameters} (same : component.Alike other)
    (alike : fwParams.Alike otherParams) (ordered : ¬ component.RollsBack fwParams)
    (otherOrdered : ¬ other.RollsBack otherParams) :
    component.evaluateUpdateEligibility fwParams =
      other.evaluateUpdateEligibility otherParams := by
  have hrel := find_alike alike same
  cases hfind : fwParams.compParamTable.toList.find? component.names with
  | none =>
      cases hother : otherParams.compParamTable.toList.find? other.names with
      | none => rw [evaluate_of_missing hfind, evaluate_of_missing hother]
      | some counterpart =>
          rw [hfind, hother] at hrel
          cases hrel
  | some entry =>
      cases hother : otherParams.compParamTable.toList.find? other.names with
      | none =>
          rw [hfind, hother] at hrel
          cases hrel
      | some counterpart =>
          rw [hfind, hother] at hrel
          obtain ⟨hentry⟩ := hrel
          have hstamp : other.compComparisonStamp = component.compComparisonStamp := by
            rw [same.fields]
          rw [evaluate_of_found hfind, evaluate_of_found hother]
          apply compareWith_alike same hentry fit.component
            (fit.entries entry (List.mem_of_find?_eq_some hfind))
          intro newer
          refine ⟨fun unordered => ordered ⟨entry, hfind, newer, unordered⟩,
            fun unordered => otherOrdered ⟨counterpart, hother, ?_, unordered⟩⟩
          rwa [hstamp, ← hentry.compParamEntryFixed]

/-- The check lets no older version in and sees nothing but texts, of two inputs that
differ at most behind the texts, unless one of them is not in any order with the entry
that it is compared with. -/
theorem noRollback_alike_iff (fit : component.VersionsFit fwParams) {other : FirmwareComponent}
    {otherParams : FirmwareParameters} (otherFit : other.VersionsFit otherParams)
    (same : component.Alike other) (alike : fwParams.Alike otherParams) :
    (component.NoRollback fwParams ∧ other.NoRollback otherParams ∧
      component.evaluateUpdateEligibility fwParams =
        other.evaluateUpdateEligibility otherParams) ↔
      ¬ component.RollsBack fwParams ∧ ¬ other.RollsBack otherParams := by
  rw [noRollback_iff fit, noRollback_iff otherFit]
  constructor
  · rintro ⟨ordered, otherOrdered, _⟩
    exact ⟨ordered, otherOrdered⟩
  · rintro ⟨ordered, otherOrdered⟩
    exact ⟨ordered, otherOrdered, evaluate_alike fit same alike ordered otherOrdered⟩

/-- A device with one component, at stamp 1 and with a version of one byte. -/
def runningParams (version : PldmFirmwareString) : FirmwareParameters :=
  .new 0 1 PldmFirmwareString.default PldmFirmwareString.default
    [{ ComponentParameterEntry.default with
      compParamEntryFixed := { ComponentParameterEntry.default.compParamEntryFixed with
        activeCompComparisonStamp := 1
        activeCompVerStrType := version.strType
        activeCompVerStrLen := version.strLen }
      activeCompVerStr := version.strData }]

/-- The same component at stamp 2. -/
def offered (version : PldmFirmwareString) : FirmwareComponent :=
  { FirmwareComponent.default with compComparisonStamp := 2, compVersion := version }

theorem versionsFit_offered {version running : PldmFirmwareString} (fits : version.Fits)
    (runningFits : running.Fits) : (offered version).VersionsFit (runningParams running) := by
  refine ⟨fits, fun entry member => ?_⟩
  obtain announced | rfl := mem_filled member
  · obtain rfl := List.mem_singleton.mp announced
    exact runningFits
  · exact Nat.zero_le _

theorem alike_runningParams {version other : PldmFirmwareString} (alike : version.Alike other) :
    (runningParams version).Alike (runningParams other) := by
  have few (entry : ComponentParameterEntry) : [entry].length ≤ maxComponentCount :=
    List.length_singleton.trans_le (by decide)
  rw [FirmwareParameters.Alike, runningParams, runningParams, table_new (few _),
    table_new (few _)]
  refine .cons ⟨?_, alike⟩ (List.forall₂_same.mpr fun entry _ => .refl entry)
  rw [alike.strType, alike.strLen]

/-- A version "1.x" with something behind it in its array. -/
def release (digit : UInt8) (behind : List UInt8) : PldmFirmwareString :=
  ⟨1, 3, .padTo _ (0x31 :: 0x2E :: digit :: behind)⟩

theorem fits_release (digit : UInt8) (behind : List UInt8) : (release digit behind).Fits :=
  show 3 ≤ pldmFwupImageSetVerStrMaxLen by decide

/-- Version 1.1 replaces version 1.0, whatever stands behind the two of them. -/
theorem noRollback_alike_iff_release :
    (offered (release 0x31 [])).evaluateUpdateEligibility (runningParams (release 0x30 [])) =
      .ok .compCanBeUpdated ∧
    ((offered (release 0x31 [])).NoRollback (runningParams (release 0x30 [])) ∧
      (offered (release 0x31 [7])).NoRollback (runningParams (release 0x30 [8, 9])) ∧
      (offered (release 0x31 [])).evaluateUpdateEligibility (runningParams (release 0x30 [])) =
        (offered (release 0x31 [7])).evaluateUpdateEligibility
          (runningParams (release 0x30 [8, 9])) ↔
      ¬ (offered (release 0x31 [])).RollsBack (runningParams (release 0x30 [])) ∧
        ¬ (offered (release 0x31 [7])).RollsBack (runningParams (release 0x30 [8, 9]))) := by
  refine ⟨by decide, noRollback_alike_iff ?_ ?_ ⟨rfl, rfl, rfl, by decide⟩ ?_⟩
  · exact versionsFit_offered (fits_release _ _) (fits_release _ _)
  · exact versionsFit_offered (fits_release _ _) (fits_release _ _)
  · exact alike_runningParams ⟨rfl, rfl, by decide⟩

/-- The ASCII version "A" replaces the UTF-8 version "B". And whether it replaces itself
depends on what stands behind the text. -/
theorem unordered_version_accepted :
    ¬ (offered ⟨1, 1, .padTo _ [0x41]⟩).NoRollback (runningParams ⟨2, 1, .padTo _ [0x42]⟩) ∧
      (offered ⟨1, 1, .padTo _ [0x41]⟩).Alike (offered ⟨1, 1, .padTo _ [0x41, 0x30]⟩) ∧
      (offered ⟨1, 1, .padTo _ [0x41]⟩).evaluateUpdateEligibility
        (runningParams ⟨1, 1, .padTo _ [0x41]⟩) = .ok .compVerStrIdentical ∧
      (offered ⟨1, 1, .padTo _ [0x41, 0x30]⟩).evaluateUpdateEligibility
        (runningParams ⟨1, 1, .padTo _ [0x41]⟩) = .ok .compCanBeUpdated := by
  refine ⟨fun safe => ?_, ⟨rfl, ⟨rfl, rfl, by decide⟩⟩, by decide, by decide⟩
  obtain ⟨_, found, _, precedes⟩ := safe (by decide)
  obtain rfl := Option.some.inj found
  exact absurd precedes.1 (by decide)

end FirmwareComponent

end PldmLib.Message
