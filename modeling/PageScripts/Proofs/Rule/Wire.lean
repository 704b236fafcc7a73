import PageScripts.Proofs.Rule.Agreement

/-!
# The wire format of rules loses nothing

A rule set is read from an object and written as one.  On the wire the mode stands beside the
conditions under a key of its own, so it matters that no condition is written under that key,
and that different conditions are written under different keys.

* `RuleSet.Faithful`: the rule sets of which this holds, and whose mode is one that is read.
* `faithful_ofFields`: a rule set that is read from an object is faithful.
* `wire_of_faithful`, `ofFields_wire`: a faithful rule set is written with its conditions in order
  and the mode last, and reading undoes writing.
* `wire_lossless`: an object is read and written with all its members, whatever they are.
-/

namespace PageScripts
namespace RuleSet

section Defs

/-- The conditions as they are written. -/
def conditionMembers (rules : RuleSet) : Fields :=
  rules.conditions.map fun entry => (entry.1.wire, entry.2)

/-- The member of the mode, if there is one. -/
def modeMembers (rules : RuleSet) : Fields :=
  if rules.explicitMode then [(modeKey, rules.mode.toJson)] else []

/-- Each condition has a key of its own on the wire, other than that of the mode, and the mode is
one that is read. -/
structure Faithful (rules : RuleSet) : Prop where
  distinct : rules.conditions.Distinct
  readBack : ∀ key ∈ rules.conditions.keys, ConditionKey.parse key.wire = key
  apart : ∀ key ∈ rules.conditions.keys, key.wire ≠ modeKey
  mode : Mode.ofJson rules.mode.toJson = rules.mode
  implicit : rules.explicitMode = false → rules.mode = .any

end Defs

section Writing

variable {rules : RuleSet}

theorem keys_conditionMembers (rules : RuleSet) :
    rules.conditionMembers.keys = rules.conditions.keys.map ConditionKey.wire := by
  simp [conditionMembers, Listing.keys]

theorem distinct_conditionMembers (faithful : rules.Faithful) :
    rules.conditionMembers.Distinct := by
  unfold Listing.Distinct
  rw [keys_conditionMembers]
  -- Keys that are written alike are read back as one.
  refine faithful.distinct.map_on ?_
  intro first hfirst second hsecond heq
  rw [← faithful.readBack first hfirst, heq, faithful.readBack second hsecond]

theorem modeKey_not_mem (faithful : rules.Faithful) :
    modeKey ∉ rules.conditionMembers.keys := by
  rw [keys_conditionMembers, List.mem_map]
  rintro ⟨key, hkey, heq⟩
  exact faithful.apart key hkey heq

/-- The conditions come first and in order, the mode last. -/
theorem wire_of_faithful (faithful : rules.Faithful) :
    rules.wire = rules.conditionMembers ++ rules.modeMembers := by
  have hconditions := Listing.ofEntries_of_distinct (distinct_conditionMembers faithful)
  have hput := Listing.put_of_not_mem rules.mode.toJson (modeKey_not_mem faithful)
  unfold conditionMembers at hconditions hput
  unfold wire modeMembers conditionMembers
  simp only [hconditions, hput]
  cases rules.explicitMode with
  | true =>
      rfl
  | false =>
      simp

theorem distinct_wire (rules : RuleSet) :
    rules.wire.Distinct := by
  unfold wire
  have hconditions := Listing.distinct_ofEntries rules.conditionMembers
  cases rules.explicitMode with
  | true =>
      exact Listing.distinct_put hconditions modeKey rules.mode.toJson
  | false =>
      exact hconditions

end Writing

section Reading

variable {rules : RuleSet}

theorem wireConditions_wire (faithful : rules.Faithful) :
    wireConditions rules.wire = rules.conditionMembers := by
  have hkept : rules.conditionMembers.filter (fun entry => entry.1 != modeKey) =
      rules.conditionMembers := by
    refine List.filter_eq_self.mpr fun entry hentry => bne_iff_ne.mpr ?_
    rintro heq
    exact modeKey_not_mem faithful (heq ▸ List.mem_map_of_mem hentry)
  have hleft : rules.modeMembers.filter (fun entry => entry.1 != modeKey) = [] := by
    unfold modeMembers
    cases rules.explicitMode <;> rfl
  unfold wireConditions
  rw [wire_of_faithful faithful, List.filter_append, hkept, hleft, List.append_nil]

theorem value?_modeKey_wire (faithful : rules.Faithful) :
    rules.wire.value? modeKey = if rules.explicitMode then some rules.mode.toJson else none := by
  have hnone := (Listing.value?_eq_none_iff modeKey _).mpr (modeKey_not_mem faithful)
  rw [wire_of_faithful faithful, Listing.value?_append, hnone]
  unfold modeMembers
  cases rules.explicitMode <;> rfl

/-- Reading undoes writing. -/
theorem ofFields_wire (faithful : rules.Faithful) :
    ofFields rules.wire = rules := by
  have hconditions : (ofFields rules.wire).conditions = rules.conditions := by
    rw [conditions_ofFields (distinct_wire rules), wireConditions_wire faithful,
      conditionMembers, List.map_map]
    refine (List.map_congr_left fun entry hentry => ?_).trans (List.map_id _)
    have hkey := faithful.readBack entry.1 (List.mem_map_of_mem hentry)
    simp [hkey]
  have hstored := value?_modeKey_wire faithful
  obtain ⟨conditions, mode, explicitMode⟩ := rules
  unfold ofFields at hconditions ⊢
  simp only [hstored] at hconditions ⊢
  rw [hconditions]
  cases explicitMode with
  | true =>
      simpa using faithful.mode
  | false =>
      simpa using (faithful.implicit rfl).symm

/-- A condition that is read stands for the text it was read from. -/
theorem key_of_ofFields
    {fields : Fields}
    {key : ConditionKey}
    (h : key ∈ (ofFields fields).conditions.keys) :
    key.wire ∈ fields.keys ∧ key.wire ≠ modeKey ∧ ConditionKey.parse key.wire = key := by
  rw [ofFields, Listing.mem_keys_ofEntries, Listing.keys, conditionEntries, List.map_map,
    List.mem_map] at h
  obtain ⟨⟨raw, argument⟩, hentry, rfl⟩ := h
  obtain ⟨hmem, hraw⟩ := List.mem_filter.mp hentry
  have hwire := ConditionKey.wire_parse raw
  refine ⟨hwire.symm ▸ List.mem_map_of_mem hmem, ?_, congrArg ConditionKey.parse hwire⟩
  simpa [hwire] using hraw

/-- What is read from an object is faithful. -/
theorem faithful_ofFields (fields : Fields) :
    (ofFields fields).Faithful where
  distinct := Listing.distinct_ofEntries (conditionEntries fields)
  readBack := fun _ hkey => (key_of_ofFields hkey).2.2
  apart := fun _ hkey => (key_of_ofFields hkey).2.1
  mode := by
    unfold ofFields
    cases Listing.value? modeKey fields with
    | none =>
        rfl
    | some stored =>
        simp
  implicit := by
    unfold ofFields
    cases Listing.value? modeKey fields with
    | none =>
        exact fun _ => rfl
    | some stored =>
        intro h
        cases h

end Reading

end RuleSet

section Lossless

open RuleSet

variable {payload : Fields}

theorem conditionMembers_ofFields (distinct : Listing.Distinct payload) :
    (ofFields payload).conditionMembers = wireConditions payload := by
  rw [conditionMembers, conditions_ofFields distinct, List.map_map]
  refine (List.map_congr_left fun entry _ => ?_).trans (List.map_id _)
  simp

theorem modeMembers_ofFields (payload : Fields) :
    (ofFields payload).modeMembers =
      ((payload.value? modeKey).map fun mode => (modeKey, mode)).toList := by
  unfold modeMembers ofFields
  cases Listing.value? modeKey payload with
  | none =>
      rfl
  | some mode =>
      simp

/-- Rules are read and written without loss.  Whatever an object holds, it is read as a rule set,
and written again it has the same members: the conditions in their order, and the mode last if it
was there.  Reading what was written gives the same rule set. -/
theorem wire_lossless (distinct : Listing.Distinct payload) :
    ∃ rules,
      RuleSet.ofJson (.obj payload) = .ok rules ∧
      rules.wire =
        wireConditions payload ++
          ((payload.value? modeKey).map fun mode => (modeKey, mode)).toList ∧
      rules.wire.Perm payload ∧
      RuleSet.ofJson (.obj rules.wire) = .ok rules := by
  have hfaithful := faithful_ofFields payload
  have hwire : (ofFields payload).wire =
      wireConditions payload ++
        ((payload.value? modeKey).map fun mode => (modeKey, mode)).toList := by
    rw [wire_of_faithful hfaithful, conditionMembers_ofFields distinct, modeMembers_ofFields]
  refine ⟨ofFields payload, rfl, hwire, ?_, congrArg Except.ok (ofFields_wire hfaithful)⟩
  -- What is written are the members that are not under the key of the mode, and then those that are.
  rw [hwire, ← Listing.filter_key distinct]
  have hsplit := List.filter_append_perm (fun entry : String × Json => entry.1 != modeKey) payload
  simpa [wireConditions, bne] using hsplit

/-- The mode is a list and stands among the conditions; the keys of two of them begin with the mark
of a negation twice, or are nothing else. -/
def tangledPayload : Fields :=
  [ ("__neg:__neg:is_home", .obj [("__mode", .null)]), ("__mode", .arr [.str "any"]),
    ("__neg:", .bool false), ("", .null), ("__neg:__mode", .int 3) ]

/-- All five members come back, the mode behind the others. -/
theorem wire_lossless_tangled :
    Listing.Distinct tangledPayload ∧
    ∃ rules,
      RuleSet.ofJson (.obj tangledPayload) = .ok rules ∧
      rules.wire =
        [ ("__neg:__neg:is_home", .obj [("__mode", .null)]), ("__neg:", .bool false),
          ("", .null), ("__neg:__mode", .int 3), ("__mode", .arr [.str "any"]) ] ∧
      RuleSet.ofJson (.obj rules.wire) = .ok rules := by
  have hdistinct : Listing.Distinct tangledPayload := by
    unfold Listing.Distinct
    decide
  obtain ⟨rules, hread, hwire, -, hagain⟩ := wire_lossless hdistinct
  exact ⟨hdistinct, rules, hread, hwire, hagain⟩

end Lossless
end PageScripts
