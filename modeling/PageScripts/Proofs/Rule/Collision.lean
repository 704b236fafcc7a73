import PageScripts.Proofs.Catalog.Stamped
import PageScripts.Proofs.Rule.Canonical

/-!
# Keys that become the same

The keys of a payload are trimmed before its rules are checked and stored.  Keys that differ only in
the blanks around them become one key, and all but the last of their values are lost; the check looks
at the normal form alone and does not notice.

**Normal form.**
* `Kept`: the normal form has all that the payload gives.
* `Apart`: the payload gives nothing twice.
* `wireConditions_normalRules`, `value?_normalRules_last`: the conditions and the values of the normal
  form.
* `kept_iff_apart`: nothing is lost exactly if nothing is given twice.

**Saving.**  `saved_of_setRules`: what is stored of rules that are set is their normal form.

**Result.**  `saved_rules_kept`, and `condition_replaced` for a condition that is lost.
-/

namespace PageScripts

open Catalog

variable {m : Type → Type}
variable {γ : Type}

section Defs

/-- The members of a payload that give a condition. -/
def givenConditions (fields : Fields) : Fields :=
  fields.filter fun entry => Text.trim entry.1 != modeKey

/-- A normal form has every condition of a payload, with the argument that is given for it, and no
other, and it has the mode that is given. -/
structure Kept (fields normal : Fields) : Prop where
  conditions : ∀ entry ∈ givenConditions fields,
    normal.value? (Text.trim entry.1) = some (normalArgument entry.2)
  count : (wireConditions normal).length = (givenConditions fields).length
  mode : ∀ entry ∈ fields, Text.trim entry.1 = modeKey →
    normal.value? modeKey = some (normalMode entry.2)

/-- No two conditions of a payload have the same trimmed key, and all modes that it gives are the
same. -/
structure Apart (fields : Fields) : Prop where
  conditions : ((givenConditions fields).keys.map Text.trim).Nodup
  mode : ∀ first ∈ fields, ∀ second ∈ fields,
    Text.trim first.1 = modeKey → Text.trim second.1 = modeKey →
    normalMode first.2 = normalMode second.2

end Defs

section NormalForm

variable {fields : Fields}

theorem normalEntry_of_condition
    {entry : String × Json}
    (h : Text.trim entry.1 ≠ modeKey) :
    normalEntry entry = (Text.trim entry.1, normalArgument entry.2) := by
  simp [normalEntry, h]

theorem normalEntry_of_mode
    {entry : String × Json}
    (h : Text.trim entry.1 = modeKey) :
    normalEntry entry = (modeKey, normalMode entry.2) := by
  simp [normalEntry, h]

theorem mem_givenConditions_iff (entry : String × Json) :
    entry ∈ givenConditions fields ↔ entry ∈ fields ∧ Text.trim entry.1 ≠ modeKey := by
  simp [givenConditions]

theorem keys_map_normalEntry (fields : Fields) :
    Listing.keys (fields.map normalEntry) = fields.keys.map Text.trim := by
  simp [Listing.keys, key_normalEntry]

/-- The conditions of the normal form are those that the payload gives, written one after another. -/
theorem wireConditions_normalRules (fields : Fields) :
    wireConditions (normalRules fields) =
      Listing.ofEntries ((givenConditions fields).map normalEntry) := by
  unfold wireConditions normalRules givenConditions
  rw [Listing.filter_ofEntries (· != modeKey), List.filter_map]
  simp only [Function.comp_def, key_normalEntry]

/-- Under a trimmed key stands what the last of its members gives. -/
theorem value?_normalRules_last
    {before after : Fields}
    {entry : String × Json}
    (hlast : ∀ later ∈ after, Text.trim later.1 ≠ Text.trim entry.1) :
    (normalRules (before ++ entry :: after)).value? (Text.trim entry.1) =
      some (normalEntry entry).2 := by
  have hafter : Listing.value? (Text.trim entry.1) (after.map normalEntry).reverse = none := by
    rw [Listing.value?_eq_none_iff]
    simpa [Listing.keys, key_normalEntry] using fun key value hmem => hlast (key, value) hmem
  have hsplit : ((before ++ entry :: after).map normalEntry).reverse =
      (after.map normalEntry).reverse ++
        (normalEntry entry :: (before.map normalEntry).reverse) := by
    simp
  have hentry : normalEntry entry = (Text.trim entry.1, (normalEntry entry).2) :=
    Prod.ext (key_normalEntry entry) rfl
  unfold normalRules
  rw [Listing.value?_ofEntries, hsplit, Listing.value?_append, hafter, hentry]
  simp [Listing.value?]

/-- The mode of the normal form is one that the payload gives. -/
theorem exists_mode_of_value?
    {value : Json}
    (h : (normalRules fields).value? modeKey = some value) :
    ∃ entry ∈ fields, Text.trim entry.1 = modeKey ∧ normalMode entry.2 = value := by
  rcases Listing.mem_putAll (Listing.mem_of_value? h) with hnone | hmem
  · cases hnone
  · obtain ⟨entry, hentry, heq⟩ := List.mem_map.mp hmem
    have hmode : Text.trim entry.1 = modeKey := by rw [← key_normalEntry, heq]
    rw [normalEntry_of_mode hmode] at heq
    exact ⟨entry, hentry, hmode, congrArg Prod.snd heq⟩

theorem value?_of_mem_givenConditions
    (apart : Apart fields)
    {entry : String × Json}
    (hmem : entry ∈ givenConditions fields) :
    (normalRules fields).value? (Text.trim entry.1) = some (normalArgument entry.2) := by
  have hdistinct : Listing.Distinct ((givenConditions fields).map normalEntry) := by
    unfold Listing.Distinct
    rw [keys_map_normalEntry]
    exact apart.conditions
  have hcondition := ((mem_givenConditions_iff entry).mp hmem).2
  have hwire : normalEntry entry ∈ wireConditions (normalRules fields) := by
    rw [wireConditions_normalRules, Listing.ofEntries_of_distinct hdistinct]
    exact List.mem_map_of_mem hmem
  rw [normalEntry_of_condition hcondition] at hwire
  exact (Listing.value?_eq_some_iff (distinct_normalRules fields)).mpr
    (List.mem_of_mem_filter hwire)

/-- Nothing is lost exactly if nothing is given twice. -/
theorem kept_iff_apart (fields : Fields) :
    Kept fields (normalRules fields) ↔ Apart fields := by
  have hcount : (wireConditions (normalRules fields)).length = (givenConditions fields).length ↔
      ((givenConditions fields).keys.map Text.trim).Nodup := by
    have hlength := Listing.length_ofEntries_iff ((givenConditions fields).map normalEntry)
    unfold Listing.Distinct at hlength
    rwa [← wireConditions_normalRules, List.length_map, keys_map_normalEntry] at hlength
  constructor
  · intro kept
    refine ⟨hcount.mp kept.count, fun first hfirst second hsecond hone hother => ?_⟩
    exact Option.some.inj ((kept.mode first hfirst hone).symm.trans (kept.mode second hsecond hother))
  · intro apart
    refine ⟨fun entry hentry => value?_of_mem_givenConditions apart hentry,
      hcount.mpr apart.conditions, fun entry hentry hmode => ?_⟩
    have hkey : modeKey ∈ (normalRules fields).keys := by
      rw [normalRules, Listing.mem_keys_ofEntries, keys_map_normalEntry]
      exact List.mem_map.mpr ⟨entry.1, List.mem_map_of_mem hentry, hmode⟩
    obtain ⟨value, hvalue⟩ := Listing.exists_value?_of_mem_keys hkey
    obtain ⟨other, hother, hothers, rfl⟩ := exists_mode_of_value? hvalue
    rw [hvalue, apart.mode other hother entry hentry hothers hmode]

end NormalForm

section Saving

variable {registry : Registry m γ}
variable {session : Session}
variable {catalog : ManagedCatalog}
variable {handle : String}
variable {fields : Fields}
variable {rules : RuleSet}

/-- Rules that are set are those of the normal form, and they stand in the record afterwards. -/
theorem saved_of_setRules
    (hset :
      ((setRules registry catalog.name handle (.obj fields)).run session).1 = .ok rules) :
    rules = normalRuleSet fields ∧
    ∃ records record : Fields,
      ((setRules registry catalog.name handle (.obj fields)).run session).2.shelves catalog.name =
        .ok records ∧
      records.value? handle = some (.obj record) ∧
      record.value? "rules" = some (.obj rules.wire) := by
  have hfollows := follows_setRules registry catalog.name handle (.obj fields)
  obtain ⟨reads, notices, -, hrun⟩ := hfollows session
  rw [hrun] at hset
  obtain ⟨changes, hplan⟩ := Session.ok_of_settle hset
  obtain ⟨owner, given, all, record, howner, hgiven, -, rfl, hall, -, rfl⟩ :=
    found_of_setRulesPlan hplan
  obtain rfl := ManagedCatalog.name_injective howner
  cases hgiven
  obtain ⟨-, hshelves, -⟩ := run_of_replace hfollows (Session.intact_of_shelf hall) hplan
  let ruled := record.put "rules" (.obj (normalRuleSet fields).wire)
  refine ⟨rfl, all.put handle (.obj ruled), ruled, ?_, ?_, ?_⟩
  · rw [hshelves]
    exact if_pos rfl
  · rw [Listing.value?_put, if_pos rfl]
  · rw [Listing.value?_put, if_pos rfl]

end Saving

section Result

/-- Saving keeps what is not given twice.  Of every payload that is an object:
* The report comes with its normal form, the keys of which are the trimmed keys of the payload, each
  once in the order of first mention.
* Under each of them stands the normal form of the last value that the payload gives for it.
* The normal form has every condition with its argument, as many as are given, and the mode that is
  given, exactly if no two conditions have the same trimmed key and no two modes differ.
* If no two members have the same trimmed key, it has all of them in order.
* If the rules are set, the members of the normal form are stored. -/
theorem saved_rules_kept
    (registry : Registry m γ)
    (fields : Fields) :
    let normal := normalRules fields
    (checkRules registry (.obj fields)).normalized = some normal ∧
    normal.keys = (fields.keys.map Text.trim).eraseDups ∧
    (∀ before entry after, fields = before ++ entry :: after →
      (∀ later ∈ after, Text.trim later.1 ≠ Text.trim entry.1) →
      normal.value? (Text.trim entry.1) = some (normalEntry entry).2) ∧
    (Kept fields normal ↔ Apart fields) ∧
    ((fields.keys.map Text.trim).Nodup → normal = fields.map normalEntry) ∧
    ∀ (session : Session) (catalog : ManagedCatalog) (handle : String) (rules : RuleSet),
      let done := (setRules registry catalog.name handle (.obj fields)).run session
      done.1 = .ok rules →
      rules.wire.Perm normal ∧
      ∃ records record : Fields,
        done.2.shelves catalog.name = .ok records ∧
        records.value? handle = some (.obj record) ∧
        record.value? "rules" = some (.obj rules.wire) := by
  intro normal
  refine ⟨rfl, ?_, ?_, kept_iff_apart fields, ?_, ?_⟩
  · have hkeys := Listing.keys_ofEntries (fields.map normalEntry)
    rwa [keys_map_normalEntry] at hkeys
  · rintro before entry after heq hlast
    rw [show normal = normalRules (before ++ entry :: after) from congrArg normalRules heq]
    exact value?_normalRules_last hlast
  · intro hnodup
    refine Listing.ofEntries_of_distinct ?_
    unfold Listing.Distinct
    rwa [keys_map_normalEntry]
  · intro session catalog handle rules done hset
    obtain ⟨rfl, hstored⟩ := saved_of_setRules hset
    obtain ⟨read, hread, -, hperm, -⟩ := wire_lossless (distinct_normalRules fields)
    cases hread
    exact ⟨hperm, hstored⟩

/-- A manual script of which the rules are set. -/
def ruledSession : Session :=
  { options := [("psa_manual_scripts", .obj [("map", .obj [("src", .str "https://a.b/m.js")])])] }

/-- The loose payload gives nothing twice: its normal form has all three members, and these are
stored. -/
theorem saved_rules_kept_loose :
    normalRules loosePayload = loosePayload.map normalEntry ∧
    ∃ rules : RuleSet,
      ((setRules Vocabulary.registry .manual "map" (.obj loosePayload)).run ruledSession).1 =
        .ok rules ∧
      rules.wire.Perm (loosePayload.map normalEntry) := by
  obtain ⟨-, -, -, -, hall, hsaved⟩ := saved_rules_kept Vocabulary.registry loosePayload
  have hnormal := hall (by decide)
  have hset : ((setRules Vocabulary.registry .manual "map" (.obj loosePayload)).run
      ruledSession).1 = .ok (normalRuleSet loosePayload) := by
    decide +kernel
  refine ⟨hnormal, normalRuleSet loosePayload, hset, ?_⟩
  rw [← hnormal]
  exact (hsaved ruledSession .manual "map" _ hset).1

/-- Two conditions that differ in a blank before the predicate. -/
def doubledPayload : Fields :=
  [("is_singular", .str "post"), (" is_singular", .str "page")]

/-- One of them is lost: the payload is accepted, and only the later condition is stored. -/
theorem condition_replaced :
    Listing.Distinct doubledPayload ∧
    (checkRules Vocabulary.registry (.obj doubledPayload)).isValid = true ∧
    ¬ Kept doubledPayload (normalRules doubledPayload) ∧
    ((setRules Vocabulary.registry .manual "map" (.obj doubledPayload)).run ruledSession).1.map
        RuleSet.wire =
      .ok [("is_singular", .str "page")] := by
  refine ⟨?_, by decide +kernel, ?_, by decide +kernel⟩
  · unfold Listing.Distinct
    decide
  · intro kept
    have hcount : (wireConditions (normalRules doubledPayload)).length = 2 := kept.count
    revert hcount
    decide +kernel

end Result

end PageScripts
