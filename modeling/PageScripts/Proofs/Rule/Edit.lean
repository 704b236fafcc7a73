import PageScripts.Name
import PageScripts.Proofs.Rule.Wire

/-!
# Edited rule sets

Conditions are added to a rule set, get new arguments, and are left out again.  A predicate may be
named like the key of the mode, and a plain condition on it is written where the mode stands.

* `RuleSet.edited` is a rule set after edits, and `Edit.said` what they say of a condition in the
  end; `value?_edited`: that is how it is.
* `parse_wire_of_isPredicateName`: a condition on a well named predicate is read back as it was
  written, negated or not.
* `wire_eq_modeKey_iff`: one condition only is written under the key of the mode.
* `Legible`, `legible_edited`: edits keep all that a faithful rule set needs, but that this
  condition is not there; `faithful_iff`.

**Result.**  `edits_lossless`: an edited rule set is written and read without loss exactly if that
condition is not left in it by the edits.
-/

namespace PageScripts

section Names

/-- The characters of a predicate name, but for a line feed at its end. -/
theorem isPredicateChar_of_mem
    {name : String}
    (h : isPredicateName name = true)
    {c : Char}
    (hmem : c ∈ name.toList) :
    c = '\n' ∨ isPredicateChar c = true := by
  have hbody : ∀ d ∈ chomp name.toList, isPredicateChar d = true := by
    unfold isPredicateName at h
    cases hchars : chomp name.toList with
    | nil =>
        exact List.forall_mem_nil _
    | cons first rest =>
        simp only [hchars, Bool.and_eq_true, List.all_eq_true] at h
        refine List.forall_mem_cons.mpr ⟨?_, h.2⟩
        rw [isPredicateChar, h.1, Bool.true_or]
  unfold chomp at hbody
  split at hbody
  · next hlast =>
      rw [← List.dropLast_append_getLast? '\n' hlast, List.mem_append] at hmem
      rcases hmem with hmem | hmem
      · exact .inr (hbody c hmem)
      · exact .inl (List.mem_singleton.mp hmem)
  · exact .inr (hbody c hmem)

/-- No predicate name begins with the mark of a negation. -/
theorem not_tag_of_isPredicateName
    {name : String}
    (h : isPredicateName name = true) :
    ConditionKey.tag.isPrefixOf name.toList = false := by
  by_contra hprefix
  rw [Bool.not_eq_false, List.isPrefixOf_iff_prefix] at hprefix
  have hcolon : ':' ∈ name.toList := hprefix.subset (by decide)
  rcases isPredicateChar_of_mem h hcolon with heq | hchar
  · exact absurd heq (by decide)
  · exact absurd hchar (by decide)

/-- A condition on a well named predicate is read back as it was written. -/
theorem parse_wire_of_isPredicateName
    {key : ConditionKey}
    (h : isPredicateName key.predicate = true) :
    ConditionKey.parse key.wire = key :=
  key.parse_wire (.inr (not_tag_of_isPredicateName h))

/-- The plain condition on the predicate that is named like the key of the mode. -/
def modeCondition : ConditionKey :=
  ⟨modeKey, false⟩

theorem wire_eq_modeKey_iff (key : ConditionKey) :
    key.wire = modeKey ↔ key = modeCondition := by
  obtain ⟨predicate, negated⟩ := key
  cases negated with
  | false =>
      simp [ConditionKey.wire, modeCondition]
  | true =>
      constructor
      · intro hwire
        -- behind the underscores the key of the mode goes on with `m`, the tag with `n`
        have hchars := congrArg (fun s : String => s.toList[2]?) hwire
        simp only [ConditionKey.wire, if_true, String.toList_ofList] at hchars
        cases hchars
      · intro heq
        cases heq

end Names

namespace RuleSet

section Defs

/-- An edit of the conditions: one is added or gets a new argument, or one is left out. -/
inductive Edit
  | add (key : ConditionKey) (argument : Json)
  | leave (key : ConditionKey)

namespace Edit

/-- The condition that an edit is about. -/
def key : Edit → ConditionKey
  | add key _ => key
  | leave key => key

/-- The argument of the condition after the edit, if it is there. -/
def argument? : Edit → Option Json
  | add _ argument => some argument
  | leave _ => none

/-- What edits say of a condition in the end, if they say anything. -/
def said (key : ConditionKey) : List Edit → Option (Option Json)
  | [] => none
  | edit :: rest =>
      (said key rest).or (if edit.key = key then some edit.argument? else none)

end Edit

/-- The rule set after an edit. -/
def edit (rules : RuleSet) : Edit → RuleSet
  | .add key argument => rules.withCondition key argument
  | .leave key => rules.withoutCondition key

/-- The rule set after edits. -/
def edited
    (rules : RuleSet)
    (edits : List Edit) :
    RuleSet :=
  edits.foldl edit rules

/-- All that a faithful rule set needs, but for the condition that is written under the key of the
mode. -/
structure Legible (rules : RuleSet) : Prop where
  distinct : rules.conditions.Distinct
  readBack : ∀ key ∈ rules.conditions.keys, ConditionKey.parse key.wire = key
  mode : Mode.ofJson rules.mode.toJson = rules.mode
  implicit : rules.explicitMode = false → rules.mode = .any

end Defs

section Edits

variable {rules : RuleSet}

theorem value?_edit
    (rules : RuleSet)
    (edit : Edit)
    (key : ConditionKey) :
    (rules.edit edit).conditions.value? key =
      if edit.key = key then edit.argument? else rules.conditions.value? key := by
  cases edit with
  | add changed argument =>
      exact Listing.value?_put changed key argument rules.conditions
  | leave changed =>
      exact Listing.value?_without changed key rules.conditions

/-- After edits a condition is as they say in the end, and else as it was. -/
theorem value?_edited
    (rules : RuleSet)
    (edits : List Edit)
    (key : ConditionKey) :
    (rules.edited edits).conditions.value? key =
      (Edit.said key edits).getD (rules.conditions.value? key) := by
  induction edits generalizing rules with
  | nil =>
      rfl
  | cons edit rest ih =>
      have hrest := ih (rules.edit edit)
      rw [value?_edit] at hrest
      refine hrest.trans ?_
      rw [Edit.said]
      cases Edit.said key rest with
      | some argument =>
          rfl
      | none =>
          by_cases hkey : edit.key = key <;> simp [hkey]

/-- An edit leaves the mode. -/
theorem legible_edit
    (legible : rules.Legible)
    {edit : Edit}
    (hnamed : isPredicateName edit.key.predicate = true) :
    (rules.edit edit).Legible := by
  cases edit with
  | add changed argument =>
      refine ⟨Listing.distinct_put legible.distinct changed argument, fun key hkey => ?_,
        legible.mode, legible.implicit⟩
      rcases (Listing.mem_keys_put changed key argument rules.conditions).mp hkey with rfl | hold
      · exact parse_wire_of_isPredicateName hnamed
      · exact legible.readBack key hold
  | leave changed =>
      refine ⟨Listing.distinct_without legible.distinct changed, fun key hkey => ?_,
        legible.mode, legible.implicit⟩
      exact legible.readBack key
        ((Listing.mem_keys_without changed key rules.conditions).mp hkey).2

theorem legible_edited
    (legible : rules.Legible)
    {edits : List Edit}
    (hnamed : ∀ edit ∈ edits, isPredicateName edit.key.predicate = true) :
    (rules.edited edits).Legible := by
  induction edits generalizing rules with
  | nil =>
      exact legible
  | cons edit rest ih =>
      obtain ⟨hfirst, hrest⟩ := List.forall_mem_cons.mp hnamed
      exact ih (legible_edit legible hfirst) hrest

/-- What is read from an object has no condition on the key of the mode. -/
theorem modeCondition_not_mem (fields : Fields) :
    modeCondition ∉ (ofFields fields).conditions.keys := by
  intro hmem
  exact (key_of_ofFields hmem).2.1 rfl

theorem legible_ofFields (fields : Fields) :
    (ofFields fields).Legible :=
  have hfaithful := faithful_ofFields fields
  ⟨hfaithful.distinct, hfaithful.readBack, hfaithful.mode, hfaithful.implicit⟩

theorem faithful_iff (legible : rules.Legible) :
    rules.Faithful ↔ modeCondition ∉ rules.conditions.keys := by
  constructor
  · intro faithful hmem
    exact faithful.apart modeCondition hmem rfl
  · intro hfree
    refine ⟨legible.distinct, legible.readBack, fun key hkey hmode => ?_, legible.mode,
      legible.implicit⟩
    exact hfree ((wire_eq_modeKey_iff key).mp hmode ▸ hkey)

/-- The edits of a rule set that was read are alone in bringing the condition in. -/
theorem modeCondition_mem_iff
    (fields : Fields)
    (edits : List Edit) :
    modeCondition ∈ ((ofFields fields).edited edits).conditions.keys ↔
      ∃ argument, Edit.said modeCondition edits = some (some argument) := by
  have hnone := (Listing.value?_eq_none_iff modeCondition _).mpr (modeCondition_not_mem fields)
  rw [← Listing.has_iff_mem_keys, Listing.has, value?_edited, hnone]
  rcases Edit.said modeCondition edits with _ | _ | argument <;> simp

end Edits

section Lossless

variable (payload : Fields)

/-- Edited rules are written without loss, but for one condition.  Whatever an object holds, it is
read as a rule set; let conditions of well named predicates be added to it and left out again.
* The plain condition that is named like the key of the mode is there exactly if the edits say so in
  the end.
* If it is not there, each condition is written as one member, in order, and the mode behind them
  if it was given; the keys of all these are different, and they are read as the same rule set.
* If it is there, it is lost: what is written is read as a rule set without it. -/
theorem edits_lossless
    {edits : List Edit}
    (hnamed : ∀ edit ∈ edits, isPredicateName edit.key.predicate = true) :
    ∃ rules, ofJson (.obj payload) = .ok rules ∧
      let after := rules.edited edits
      (modeCondition ∈ after.conditions.keys ↔
        ∃ argument, Edit.said modeCondition edits = some (some argument)) ∧
      (modeCondition ∉ after.conditions.keys →
        after.wire = after.conditionMembers ++ after.modeMembers ∧
        after.wire.Distinct ∧
        ofJson (.obj after.wire) = .ok after) ∧
      (modeCondition ∈ after.conditions.keys →
        ∃ read, ofJson (.obj after.wire) = .ok read ∧
          modeCondition ∉ read.conditions.keys) := by
  refine ⟨ofFields payload, rfl, ?_⟩
  intro after
  have hlegible : after.Legible := legible_edited (legible_ofFields payload) hnamed
  refine ⟨modeCondition_mem_iff payload edits, fun hfree => ?_, fun _ => ?_⟩
  · have hfaithful := (faithful_iff hlegible).mpr hfree
    exact ⟨wire_of_faithful hfaithful, distinct_wire after,
      congrArg Except.ok (ofFields_wire hfaithful)⟩
  · exact ⟨ofFields after.wire, rfl, modeCondition_not_mem after.wire⟩

/-- Two conditions are added that are named like the key of the mode, one of them negated; the
plain one is left out again, and the condition that was there gets a list. -/
def busyEdits : List Edit :=
  [ .add ⟨"__mode", true⟩ (.int 3), .add ⟨"__mode", false⟩ .null, .leave ⟨"__mode", false⟩,
    .add ⟨"is_home", false⟩ (.arr [.str "any"]) ]

/-- The negated condition stays apart from the mode. -/
theorem edits_lossless_negated :
    (∀ edit ∈ busyEdits, isPredicateName edit.key.predicate = true) ∧
    ∃ rules,
      ofJson (.obj [("__mode", .str "all"), ("is_home", .bool true)]) = .ok rules ∧
      (rules.edited busyEdits).wire =
        [("is_home", .arr [.str "any"]), ("__neg:__mode", .int 3), ("__mode", .str "all")] ∧
      ofJson (.obj (rules.edited busyEdits).wire) = .ok (rules.edited busyEdits) := by
  have hnamed : ∀ edit ∈ busyEdits, isPredicateName edit.key.predicate = true := by
    decide
  obtain ⟨rules, hread, hmem, hkept, -⟩ :=
    edits_lossless [("__mode", .str "all"), ("is_home", .bool true)] hnamed
  have hfree : modeCondition ∉ (rules.edited busyEdits).conditions.keys := by
    rw [hmem]
    rintro ⟨argument, hsaid⟩
    cases hsaid
  obtain ⟨hwire, -, hagain⟩ := hkept hfree
  refine ⟨hnamed, rules, hread, ?_, hagain⟩
  cases hread
  exact hwire

/-- A condition on a well named predicate is lost: two conditions and an explicit mode are written
as two members, and these are read as a rule set with another meaning. -/
theorem condition_lost_to_mode :
    let rules := ofFields [("__mode", .str "all"), ("is_home", .bool true)]
    let after := rules.withCondition ⟨"__mode", false⟩ (.str "any")
    isPredicateName "__mode" = true ∧
    after.conditions.length = 2 ∧
    after.explicitMode = true ∧
    after.wire = [("is_home", .bool true), ("__mode", .str "all")] ∧
    (ofFields after.wire).sameAs after = false := by
  decide +kernel

end Lossless

end RuleSet
end PageScripts
