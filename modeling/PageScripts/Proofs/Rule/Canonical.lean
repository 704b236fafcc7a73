import PageScripts.Catalog.Transitions
import PageScripts.Proofs.Rule.Wire
import PageScripts.Proofs.Text.Blank

/-!
# Accepted rules are in canonical form

What is stored of an accepted payload is not the payload but its normal form, read as a rule set
and written again.  A second round through normal form, check, reading and writing changes nothing
more.

* `normalArgument_normalArgument`, `normalEntry_of_mem`: what is in normal form stays in it.
* `normalRules_wire`: so do the rules of an accepted payload, as they are written.
* `Canonical`: a stored value with which nothing happens any more; `canonical_of_valid` and
  `canonical_defaultRules` are the two ways in which rules come to be stored.
-/

namespace PageScripts

variable {m : Type → Type}
variable {γ : Type}

section NormalForm

@[simp]
theorem normalArgument_normalArgument (argument : Json) :
    normalArgument (normalArgument argument) = normalArgument argument := by
  cases argument with
  | str s =>
      simp [normalArgument]
  | arr items =>
      simp only [normalArgument, List.map_map, Json.arr.injEq]
      refine List.map_congr_left fun item _ => ?_
      cases item <;> simp
  | _ =>
      rfl

/-- A condition of a normal form is its own normal form. -/
theorem normalEntry_of_mem
    {fields : Fields}
    {entry : String × Json}
    (hmem : entry ∈ normalRules fields)
    (hcondition : entry.1 ≠ modeKey) :
    normalEntry entry = entry := by
  rcases Listing.mem_putAll hmem with hnone | hmem
  · cases hnone
  · obtain ⟨⟨raw, argument⟩, -, rfl⟩ := List.mem_map.mp hmem
    unfold normalEntry at hcondition ⊢
    by_cases hmode : Text.trim raw = modeKey
    · simp only [if_pos hmode] at hcondition
      exact absurd hmode hcondition
    · simp [hmode]

/-- So is a known mode. -/
theorem normalEntry_mode
    {mode : Mode}
    (h : mode = .any ∨ mode = .all) :
    normalEntry (modeKey, mode.toJson) = (modeKey, mode.toJson) := by
  rcases h with rfl | rfl <;> decide +kernel

end NormalForm

section Canonical

/-- The rules are accepted as they are stored: check and normal form leave them, and so do reading
and writing. -/
structure Canonical
    (registry : Registry m γ)
    (stored : Fields) : Prop where
  valid : (checkRules registry (.obj stored)).isValid = true
  normal : normalRules stored = stored
  written : (RuleSet.ofFields stored).wire = stored

variable {registry : Registry m γ}
variable {fields : Fields}

theorem faithful_normalRuleSet (fields : Fields) :
    (normalRuleSet fields).Faithful :=
  RuleSet.faithful_ofFields (normalRules fields)

/-- The rules of a payload with a known mode are written in normal form. -/
theorem normalRules_wire
    (hmode : (normalRuleSet fields).mode = .any ∨ (normalRuleSet fields).mode = .all) :
    normalRules (normalRuleSet fields).wire = (normalRuleSet fields).wire := by
  have hdistinct := distinct_normalRules fields
  have hconditions : ∀ entry ∈ (normalRuleSet fields).conditionMembers,
      normalEntry entry = entry := by
    intro entry hentry
    unfold normalRuleSet at hentry
    rw [conditionMembers_ofFields hdistinct] at hentry
    obtain ⟨hmem, hcondition⟩ := List.mem_filter.mp hentry
    exact normalEntry_of_mem hmem (bne_iff_ne.mp hcondition)
  have hmembers : ∀ entry ∈ (normalRuleSet fields).modeMembers, normalEntry entry = entry := by
    intro entry hentry
    unfold RuleSet.modeMembers at hentry
    split at hentry
    · rw [List.mem_singleton.mp hentry]
      exact normalEntry_mode hmode
    · cases hentry
  -- Each member is its own normal form, and as the keys differ none takes the place of another.
  have hfixed : (normalRuleSet fields).wire.map normalEntry = (normalRuleSet fields).wire := by
    rw [RuleSet.wire_of_faithful (faithful_normalRuleSet fields)]
    refine (List.map_congr_left fun entry hentry => ?_).trans (List.map_id _)
    exact (List.mem_append.mp hentry).elim (hconditions entry) (hmembers entry)
  unfold normalRules at hfixed ⊢
  rw [hfixed]
  exact Listing.ofEntries_of_distinct (RuleSet.distinct_wire _)

/-- What is stored of an accepted payload is canonical. -/
theorem canonical_of_valid
    (orderly : registry.Orderly)
    (hvalid : (checkRules registry (.obj fields)).isValid = true) :
    Canonical registry (normalRuleSet fields).wire := by
  have hread : RuleSet.ofFields (normalRuleSet fields).wire = normalRuleSet fields :=
    RuleSet.ofFields_wire (faithful_normalRuleSet fields)
  obtain ⟨hmode, hcalls⟩ := (isValid_checkFields_iff orderly fields).mp hvalid
  have hnormal := normalRules_wire hmode
  have hsame : normalRuleSet (normalRuleSet fields).wire = normalRuleSet fields := by
    rw [normalRuleSet, hnormal, hread]
  refine ⟨(isValid_checkFields_iff orderly _).mpr ?_, hnormal, congrArg RuleSet.wire hread⟩
  rw [hsame]
  exact ⟨hmode, hcalls⟩

/-- So are the rules that a removed script gets at first. -/
theorem canonical_defaultRules :
    Canonical Vocabulary.registry Catalog.defaultRules where
  valid := by decide +kernel
  normal := by decide +kernel
  written := by decide +kernel

end Canonical

end PageScripts
