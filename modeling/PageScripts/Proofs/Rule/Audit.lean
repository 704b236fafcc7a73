import PageScripts.Proofs.Rule.Agreement
import PageScripts.Proofs.Rule.Pointer

/-!
# The report is complete

The report on a payload lists the flaws of its normal form, the mode's first and then those of the
conditions in their order.  It breaks off when there are twenty and says so if there is a condition
that it has not looked at.

**Flaws.**
* `Registry.Faulty`: the flaw that a member of the normal form has.
* `Registry.Audit`: all flaws of some members, one for each that has one.
* `audit_iff`: there is just one such list.
* `Registry.Faulty.path`, `distinct_paths`: each flaw points to its member.

**The break.**  `flaws_collectFlaws`, `cut_collectFlaws_iff`: what is listed, and when a condition is
left out.

**Warnings.**  `mem_contradictions_iff`, `sorted_contradictions`, `contradictions_congr`: the
contradictions, in the order of code points and whatever the order of the payload.

**Result.**  `report_complete`.
-/

namespace PageScripts

variable {m : Type → Type}
variable {γ : Type}

section Defs

/-- The argument is true, null, a scalar or a list of scalars. -/
def WellShaped (argument : Json) : Prop :=
  argument = .bool true ∨ argument = .null ∨ argument.isScalar = true ∨
    ∃ items, argument = .arr items ∧ ∀ item ∈ items, item.isScalar = true

/-- The most arguments that the flaw of a refused argument speaks of. -/
def Predicate.namedLimit (predicate : Predicate m γ) : Int :=
  if predicate.arity = .variadic then predicate.maxArgs else 1

/-- A member of a normal form has a flaw: a mode that is not known; or a condition without a name,
with a name that is not in the registry, with an argument that has no shape of one, or with one that
the predicate does not take. -/
inductive Registry.Faulty (registry : Registry m γ) : String × Json → Flaw → Prop
  | mode
      {value : Json}
      (hany : value ≠ .str "any")
      (hall : value ≠ .str "all") :
      Faulty registry (modeKey, value) (.mode value)
  | nameless
      {raw : String}
      {argument : Json}
      (hcondition : raw ≠ modeKey)
      (hname : (ConditionKey.parse raw).predicate = "") :
      Faulty registry (raw, argument) (.emptyKey (.parse raw))
  | unknown
      {raw : String}
      {argument : Json}
      (hcondition : raw ≠ modeKey)
      (hname : (ConditionKey.parse raw).predicate ≠ "")
      (hknown : registry.resolve? (ConditionKey.parse raw).predicate = none) :
      Faulty registry (raw, argument) (.unknownPredicate (.parse raw))
  | malformed
      {raw : String}
      {argument : Json}
      {predicate : Predicate m γ}
      (hcondition : raw ≠ modeKey)
      (hname : (ConditionKey.parse raw).predicate ≠ "")
      (hknown : registry.resolve? (ConditionKey.parse raw).predicate = some predicate)
      (hshape : ¬ WellShaped argument) :
      Faulty registry (raw, argument) (.argumentShape (.parse raw) argument.kind)
  | refused
      {raw : String}
      {argument : Json}
      {predicate : Predicate m γ}
      (hcondition : raw ≠ modeKey)
      (hname : (ConditionKey.parse raw).predicate ≠ "")
      (hknown : registry.resolve? (ConditionKey.parse raw).predicate = some predicate)
      (hshape : WellShaped argument)
      (hrefused : predicate.positional? argument = none) :
      Faulty registry (raw, argument)
        (.arity (.parse raw) predicate.arity predicate.namedLimit argument)

/-- The flaws of some members: one for each member that has one, in order. -/
inductive Registry.Audit (registry : Registry m γ) : Fields → List Flaw → Prop
  | nil : Audit registry [] []
  | sound
      {entry : String × Json}
      {rest : Fields}
      {flaws : List Flaw}
      (hsound : ∀ flaw, ¬ registry.Faulty entry flaw)
      (hrest : Audit registry rest flaws) :
      Audit registry (entry :: rest) flaws
  | faulty
      {entry : String × Json}
      {rest : Fields}
      {flaw : Flaw}
      {flaws : List Flaw}
      (hfaulty : registry.Faulty entry flaw)
      (hrest : Audit registry rest flaws) :
      Audit registry (entry :: rest) (flaw :: flaws)

/-- The members in the order in which they are looked at: the mode first. -/
def modeFirst (rules : Fields) : Fields :=
  (rules.filter fun entry => entry.1 == modeKey) ++ wireConditions rules

/-- A condition with this name, negated or not. -/
def HasCondition
    (rules : Fields)
    (name : String)
    (negated : Bool) : Prop :=
  ∃ raw ∈ rules.keys, raw ≠ modeKey ∧ ConditionKey.parse raw = ⟨name, negated⟩

/-- A report on a normal form goes with all its flaws, with the names that contradict each other, and
with a mark that says whether it breaks off.  The first twenty flaws are listed. -/
structure Report.Complete
    (registry : Registry m γ)
    (normal : Fields)
    (report : Report)
    (flaws : List Flaw)
    (names : List String)
    (cut : Bool) : Prop where
  normalized : report.normalized = some normal
  audit_iff : ∀ others, registry.Audit (modeFirst normal) others ↔ others = flaws
  listed : report.flaws = flaws.take 20
  valid_iff : report.isValid = true ↔ flaws = []
  pointed : ∀ flaw ∈ flaws, ∃ entry ∈ normal,
    registry.Faulty entry flaw ∧ pointerTokens? flaw.path = some [entry.1]
  distinct_paths : (flaws.map Flaw.path).Nodup
  warnings : report.warnings =
    (if cut then [.truncated 20] else []) ++ names.map .contradiction ++
      (if (wireConditions normal).isEmpty then [.noConditions] else [])
  cut_iff : cut = true ↔
    ∃ before entry after firsts flaw, modeFirst normal = before ++ entry :: after ∧
      registry.Audit before firsts ∧ firsts.length = 19 ∧
      registry.Faulty entry flaw ∧ after ≠ []
  sorted : names.Pairwise (· < ·)
  mem_names_iff : ∀ name, name ∈ names ↔
    HasCondition normal name false ∧ HasCondition normal name true

end Defs

section Flaws

variable {registry : Registry m γ}

theorem isArgumentShape_iff (argument : Json) :
    isArgumentShape argument = true ↔ WellShaped argument := by
  unfold WellShaped
  cases argument with
  | bool b =>
      cases b <;> simp [isArgumentShape, Json.isScalar]
  | _ =>
      simp [isArgumentShape, Json.isScalar]

/-- The flaw of a member, if it has one. -/
def memberFlaw?
    (registry : Registry m γ)
    (entry : String × Json) :
    Option Flaw :=
  if entry.1 = modeKey then
    if (Mode.ofJson entry.2).isKnown then none else some (.mode entry.2)
  else
    conditionFlaw? registry entry.1 entry.2

theorem isKnown_ofJson_iff (value : Json) :
    (Mode.ofJson value).isKnown = true ↔ value = .str "any" ∨ value = .str "all" := by
  unfold Mode.ofJson
  split <;> simp_all [Mode.isKnown]

/-- A condition with a flaw has one of four. -/
theorem faulty_of_conditionFlaw?
    {raw : String}
    {argument : Json}
    {flaw : Flaw}
    (hcondition : raw ≠ modeKey)
    (hflaw : conditionFlaw? registry raw argument = some flaw) :
    registry.Faulty (raw, argument) flaw := by
  unfold conditionFlaw? at hflaw
  by_cases hname : (ConditionKey.parse raw).predicate = ""
  · simp only [hname, if_true] at hflaw
    cases hflaw
    exact .nameless hcondition hname
  · simp only [if_neg hname] at hflaw
    cases hknown : registry.resolve? (ConditionKey.parse raw).predicate with
    | none =>
        simp only [hknown] at hflaw
        cases hflaw
        exact .unknown hcondition hname hknown
    | some predicate =>
        simp only [hknown] at hflaw
        by_cases hshape : isArgumentShape argument = true
        · cases htakes : predicate.positional? argument with
          | none =>
              simp only [hshape, htakes] at hflaw
              cases hflaw
              exact .refused hcondition hname hknown ((isArgumentShape_iff argument).mp hshape)
                htakes
          | some arguments =>
              simp [hshape, htakes] at hflaw
        · simp only [hshape] at hflaw
          cases hflaw
          exact .malformed hcondition hname hknown (mt (isArgumentShape_iff argument).mpr hshape)

theorem faulty_iff
    (entry : String × Json)
    (flaw : Flaw) :
    registry.Faulty entry flaw ↔ memberFlaw? registry entry = some flaw := by
  obtain ⟨raw, argument⟩ := entry
  constructor
  · intro hfaulty
    cases hfaulty with
    | mode hany hall =>
        have hknown := mt (isKnown_ofJson_iff argument).mp (not_or.mpr ⟨hany, hall⟩)
        simp [memberFlaw?, hknown]
    | nameless hcondition hname =>
        simp [memberFlaw?, conditionFlaw?, hcondition, hname]
    | unknown hcondition hname hknown =>
        simp [memberFlaw?, conditionFlaw?, hcondition, hname, hknown]
    | malformed hcondition hname hknown hshape =>
        have hshape := mt (isArgumentShape_iff argument).mp hshape
        simp [memberFlaw?, conditionFlaw?, hcondition, hname, hknown, hshape]
    | refused hcondition hname hknown hshape hrefused =>
        have hshape := (isArgumentShape_iff argument).mpr hshape
        simp [memberFlaw?, conditionFlaw?, hcondition, hname, hknown, hshape, hrefused,
          Predicate.namedLimit]
  · intro hflaw
    unfold memberFlaw? at hflaw
    by_cases hmode : raw = modeKey
    · subst hmode
      simp only [if_true] at hflaw
      split at hflaw
      · cases hflaw
      · next hknown =>
          cases hflaw
          obtain ⟨hany, hall⟩ := not_or.mp (mt (isKnown_ofJson_iff argument).mpr hknown)
          exact .mode hany hall
    · simp only [if_neg hmode] at hflaw
      exact faulty_of_conditionFlaw? hmode hflaw

/-- There is just one list of the flaws of some members. -/
theorem audit_iff
    (members : Fields)
    (flaws : List Flaw) :
    registry.Audit members flaws ↔ members.filterMap (memberFlaw? registry) = flaws := by
  constructor
  · intro haudit
    induction haudit with
    | nil =>
        rfl
    | @sound entry rest flaws hsound hrest ih =>
        have hnone : memberFlaw? registry entry = none :=
          Option.eq_none_iff_forall_ne_some.mpr fun flaw hflaw =>
            hsound flaw ((faulty_iff entry flaw).mpr hflaw)
        rw [List.filterMap_cons_none hnone, ih]
    | faulty hfaulty hrest ih =>
        rw [List.filterMap_cons_some ((faulty_iff _ _).mp hfaulty), ih]
  · rintro rfl
    induction members with
    | nil =>
        exact .nil
    | cons entry rest ih =>
        cases hflaw : memberFlaw? registry entry with
        | none =>
            rw [List.filterMap_cons_none hflaw]
            refine .sound (fun flaw hfaulty => ?_) ih
            rw [(faulty_iff entry flaw).mp hfaulty] at hflaw
            cases hflaw
        | some flaw =>
            rw [List.filterMap_cons_some hflaw]
            exact .faulty ((faulty_iff entry flaw).mpr hflaw) ih

theorem Registry.Faulty.path
    {entry : String × Json}
    {flaw : Flaw}
    (hfaulty : registry.Faulty entry flaw) :
    flaw.path = pointer entry.1 := by
  cases hfaulty with
  | mode hany hall =>
      rfl
  | nameless | unknown | malformed | refused =>
      simp [Flaw.path]

/-- Each flaw is that of a member. -/
theorem Registry.Audit.exists_faulty
    {members : Fields}
    {flaws : List Flaw}
    (haudit : registry.Audit members flaws)
    {flaw : Flaw}
    (hmem : flaw ∈ flaws) :
    ∃ entry ∈ members, registry.Faulty entry flaw := by
  rw [← (audit_iff members flaws).mp haudit] at hmem
  obtain ⟨entry, hentry, hflaw⟩ := List.mem_filterMap.mp hmem
  exact ⟨entry, hentry, (faulty_iff entry flaw).mpr hflaw⟩

/-- Flaws of members with different keys have different places. -/
theorem Registry.Audit.distinct_paths
    {members : Fields}
    {flaws : List Flaw}
    (haudit : registry.Audit members flaws)
    (distinct : members.Distinct) :
    (flaws.map Flaw.path).Nodup := by
  have hsub : (flaws.map Flaw.path).Sublist (members.keys.map pointer) := by
    induction haudit with
    | nil =>
        exact .slnil
    | sound hsound hrest ih =>
        exact (ih (List.nodup_cons.mp distinct).2).cons _
    | faulty hfaulty hrest ih =>
        rw [List.map_cons, hfaulty.path]
        exact (ih (List.nodup_cons.mp distinct).2).cons_cons _
  exact (distinct.map pointer_injective).sublist hsub

end Flaws

section Break

variable (registry : Registry m γ)

/-- The flaw of a condition, in the order in which the report looks at conditions. -/
def conditionFlaws (conditions : List (String × Json)) : List Flaw :=
  conditions.filterMap fun entry => conditionFlaw? registry entry.1 entry.2

theorem conditionFlaws_cons
    (entry : String × Json)
    (rest : List (String × Json)) :
    conditionFlaws registry (entry :: rest) =
      (conditionFlaw? registry entry.1 entry.2).toList ++ conditionFlaws registry rest := by
  unfold conditionFlaws
  cases hflaw : conditionFlaw? registry entry.1 entry.2 <;> simp [hflaw]

theorem length_append_flaw_le
    {flaws : List Flaw}
    (hroom : ¬ maxFlaws ≤ flaws.length)
    (flaw : Option Flaw) :
    (flaws ++ flaw.toList).length ≤ maxFlaws := by
  cases flaw <;> simp <;> omega

/-- The report lists the first twenty flaws. -/
theorem flaws_collectFlaws
    {flaws : List Flaw}
    (hlength : flaws.length ≤ maxFlaws)
    (conditions : List (String × Json)) :
    (collectFlaws registry flaws conditions).1 =
      (flaws ++ conditionFlaws registry conditions).take maxFlaws := by
  induction conditions generalizing flaws with
  | nil =>
      simp [collectFlaws, conditionFlaws, List.take_of_length_le hlength]
  | cons entry rest ih =>
      unfold collectFlaws
      by_cases hfull : maxFlaws ≤ flaws.length
      · simp only [if_pos hfull]
        exact (List.take_left' (Nat.le_antisymm hlength hfull)).symm
      · simp only [if_neg hfull]
        rw [ih (length_append_flaw_le hfull _), conditionFlaws_cons, List.append_assoc]

/-- It breaks off if there is a condition with twenty flaws before it. -/
theorem cut_collectFlaws_iff
    (flaws : List Flaw)
    (conditions : List (String × Json)) :
    (collectFlaws registry flaws conditions).2 = true ↔
      ∃ before entry after, conditions = before ++ entry :: after ∧
        maxFlaws ≤ (flaws ++ conditionFlaws registry before).length := by
  induction conditions generalizing flaws with
  | nil =>
      simp [collectFlaws]
  | cons entry rest ih =>
      unfold collectFlaws
      by_cases hfull : maxFlaws ≤ flaws.length
      · simp only [if_pos hfull, true_iff]
        exact ⟨[], entry, rest, rfl, by simpa [conditionFlaws] using hfull⟩
      · simp only [if_neg hfull]
        rw [ih]
        constructor
        · rintro ⟨before, other, after, rfl, hlong⟩
          refine ⟨entry :: before, other, after, rfl, ?_⟩
          rwa [conditionFlaws_cons, ← List.append_assoc]
        · rintro ⟨before, other, after, heq, hlong⟩
          cases before with
          | nil =>
              simp [conditionFlaws] at hlong
              exact absurd hlong hfull
          | cons first before =>
              obtain ⟨rfl, rfl⟩ := List.cons.inj heq
              refine ⟨before, other, after, rfl, ?_⟩
              rwa [conditionFlaws_cons, ← List.append_assoc] at hlong

/-- A list with more than `n` flaws has a member with the one after the first `n`. -/
theorem exists_nth_flaw
    {n : Nat}
    {members : Fields}
    (h : n < (members.filterMap (memberFlaw? registry)).length) :
    ∃ before entry flaw after, members = before ++ entry :: after ∧
      (before.filterMap (memberFlaw? registry)).length = n ∧
      memberFlaw? registry entry = some flaw := by
  induction members generalizing n with
  | nil =>
      cases h
  | cons first rest ih =>
      cases hflaw : memberFlaw? registry first with
      | none =>
          rw [List.filterMap_cons_none hflaw] at h
          obtain ⟨before, entry, flaw, after, rfl, hlength, hentry⟩ := ih h
          refine ⟨first :: before, entry, flaw, after, rfl, ?_, hentry⟩
          rw [List.filterMap_cons_none hflaw, hlength]
      | some flaw =>
          rw [List.filterMap_cons_some hflaw, List.length_cons] at h
          cases n with
          | zero =>
              exact ⟨[], first, flaw, rest, rfl, rfl, hflaw⟩
          | succ n =>
              obtain ⟨before, entry, other, after, rfl, hlength, hentry⟩ :=
                ih (Nat.lt_of_succ_lt_succ h)
              refine ⟨first :: before, entry, other, after, rfl, ?_, hentry⟩
              rw [List.filterMap_cons_some hflaw, List.length_cons, hlength]

/-- Something comes after more than `n` flaws if it comes after a member with the one after the first
`n`. -/
theorem exists_after_flaws_iff
    (n : Nat)
    (members : Fields) :
    (∃ before entry after, members = before ++ entry :: after ∧
        n < (before.filterMap (memberFlaw? registry)).length) ↔
      ∃ before entry after firsts flaw, members = before ++ entry :: after ∧
        registry.Audit before firsts ∧ firsts.length = n ∧
        registry.Faulty entry flaw ∧ after ≠ [] := by
  constructor
  · rintro ⟨long, next, rest, rfl, hlong⟩
    obtain ⟨before, entry, flaw, after, rfl, hlength, hflaw⟩ := exists_nth_flaw registry hlong
    refine ⟨before, entry, after ++ next :: rest, _, flaw, by simp, (audit_iff before _).mpr rfl,
      hlength, (faulty_iff entry flaw).mpr hflaw, by simp⟩
  · rintro ⟨before, entry, after, firsts, flaw, rfl, haudit, hlength, hfaulty, hafter⟩
    obtain ⟨next, rest, rfl⟩ := List.exists_cons_of_ne_nil hafter
    refine ⟨before ++ [entry], next, rest, by simp, ?_⟩
    rw [List.filterMap_append, (audit_iff before firsts).mp haudit,
      List.filterMap_cons_some ((faulty_iff entry flaw).mp hfaulty), List.length_append, hlength]
    simp

end Break

section Inspection

variable (registry : Registry m γ)
variable {rules : Fields}

theorem modeFirst_eq (distinct : rules.Distinct) :
    modeFirst rules =
      ((rules.value? modeKey).map fun mode => (modeKey, mode)).toList ++ wireConditions rules := by
  rw [modeFirst, Listing.filter_key distinct]

theorem modeFirst_perm (rules : Fields) :
    (modeFirst rules).Perm rules := by
  have hsplit := List.filter_append_perm (fun entry : String × Json => entry.1 == modeKey) rules
  simpa [modeFirst, wireConditions, bne] using hsplit

theorem filterMap_conditions
    {conditions : List (String × Json)}
    (h : ∀ entry ∈ conditions, entry.1 ≠ modeKey) :
    conditions.filterMap (memberFlaw? registry) = conditionFlaws registry conditions := by
  refine List.filterMap_congr fun entry hentry => ?_
  simp [memberFlaw?, h entry hentry]

theorem condition_of_mem
    {entry : String × Json}
    (h : entry ∈ wireConditions rules) :
    entry.1 ≠ modeKey :=
  bne_iff_ne.mp (List.mem_filter.mp h).2

theorem filterMap_mode (rules : Fields) :
    ((rules.value? modeKey).map fun mode => (modeKey, mode)).toList.filterMap
        (memberFlaw? registry) =
      (modeFlaw? rules).toList := by
  unfold modeFlaw?
  cases Listing.value? modeKey rules with
  | none =>
      rfl
  | some mode =>
      cases hknown : (Mode.ofJson mode).isKnown <;> simp [memberFlaw?, hknown]

/-- The flaws of a normal form are those of the mode and then those of the conditions. -/
theorem audit_modeFirst (distinct : rules.Distinct) :
    registry.Audit (modeFirst rules)
      ((modeFlaw? rules).toList ++ conditionFlaws registry (wireConditions rules)) := by
  rw [audit_iff, modeFirst_eq distinct, List.filterMap_append, filterMap_mode,
    filterMap_conditions registry fun entry => condition_of_mem]

theorem length_modeFlaw_le (rules : Fields) :
    (modeFlaw? rules).toList.length ≤ maxFlaws := by
  cases modeFlaw? rules <;> simp [maxFlaws]

/-- A condition is left out if it comes after the member with the twentieth flaw. -/
theorem cut_iff (distinct : rules.Distinct) :
    (collectFlaws registry (modeFlaw? rules).toList (wireConditions rules)).2 = true ↔
      ∃ before entry after firsts flaw, modeFirst rules = before ++ entry :: after ∧
        registry.Audit before firsts ∧ firsts.length = 19 ∧
        registry.Faulty entry flaw ∧ after ≠ [] := by
  rw [cut_collectFlaws_iff, ← exists_after_flaws_iff, modeFirst_eq distinct]
  have hmode := filterMap_mode registry rules
  have hconditions : ∀ entry ∈ wireConditions rules, entry.1 ≠ modeKey :=
    fun entry => condition_of_mem
  generalize wireConditions rules = conditions at hconditions ⊢
  constructor
  · rintro ⟨before, entry, after, rfl, hlong⟩
    refine ⟨_ ++ before, entry, after, (List.append_assoc ..).symm, ?_⟩
    rw [List.filterMap_append, hmode, filterMap_conditions registry fun other hother =>
      hconditions other (List.mem_append_left _ hother)]
    exact hlong
  · rintro ⟨long, entry, after, heq, hlong⟩
    rcases List.append_eq_append_iff.mp heq with ⟨before, rfl, rfl⟩ | ⟨rest, hshort, -⟩
    · refine ⟨before, entry, after, rfl, ?_⟩
      rw [List.filterMap_append, hmode, filterMap_conditions registry fun other hother =>
        hconditions other (List.mem_append_left _ hother)] at hlong
      exact hlong
    · -- The mode alone does not have so many flaws.
      have hfew := List.length_filterMap_le (memberFlaw? registry) long
      have hone : ((rules.value? modeKey).map fun mode => (modeKey, mode)).toList.length ≤ 1 :=
        Option.length_toList_le
      rw [hshort, List.length_append] at hone
      omega

end Inspection

section Order

theorem perm_sortTexts (texts : List String) :
    (sortTexts texts).Perm texts :=
  List.mergeSort_perm texts _

/-- Different texts are sorted strictly. -/
theorem sorted_sortTexts
    {texts : List String}
    (hnodup : texts.Nodup) :
    (sortTexts texts).Pairwise (· < ·) := by
  have hle : (sortTexts texts).Pairwise (· ≤ ·) := by
    have hsorted : (sortTexts texts).Pairwise fun a b => decide (a ≤ b) = true :=
      List.pairwise_mergeSort
        (fun a b c hab hbc => by
          simpa using String.le_trans (by simpa using hab) (by simpa using hbc))
        (fun a b => by simpa using String.le_total a b) texts
    simpa using hsorted
  have hne : (sortTexts texts).Nodup := (perm_sortTexts texts).nodup_iff.mpr hnodup
  refine (hle.and hne).imp fun {a b} hboth => String.not_le.mp fun hba => ?_
  exact hboth.2 (String.le_antisymm hboth.1 hba)

/-- Texts that are sorted strictly are given by which they are. -/
theorem eq_of_sorted
    {first second : List String}
    (hfirst : first.Pairwise (· < ·))
    (hsecond : second.Pairwise (· < ·))
    (hmem : ∀ text, text ∈ first ↔ text ∈ second) :
    first = second := by
  have hnodup {texts : List String} (h : texts.Pairwise (· < ·)) : texts.Nodup :=
    h.imp fun hlt => String.ne_of_lt hlt
  have hperm := (List.perm_ext_iff_of_nodup (hnodup hfirst) (hnodup hsecond)).mpr hmem
  exact hperm.eq_of_pairwise (fun a b _ _ hab hba => absurd hab (String.lt_asymm hba)) hfirst
    hsecond

end Order

section Warnings

variable (rules : Fields)

theorem mem_conditionKeys_iff (key : ConditionKey) :
    key ∈ (wireConditions rules).map (fun entry => ConditionKey.parse entry.1) ↔
      HasCondition rules key.predicate key.negated := by
  simp only [HasCondition, List.mem_map, wireConditions, List.mem_filter, Listing.keys]
  constructor
  · rintro ⟨entry, ⟨hmem, hcondition⟩, rfl⟩
    exact ⟨entry.1, ⟨entry, hmem, rfl⟩, bne_iff_ne.mp hcondition, rfl⟩
  · rintro ⟨_, ⟨entry, hmem, rfl⟩, hcondition, hkey⟩
    exact ⟨entry, ⟨hmem, bne_iff_ne.mpr hcondition⟩, hkey⟩

/-- A contradiction is a predicate that is there both plain and negated. -/
theorem mem_contradictions_iff (name : String) :
    name ∈ contradictions rules ↔
      HasCondition rules name false ∧ HasCondition rules name true := by
  have hplain := mem_conditionKeys_iff rules ⟨name, false⟩
  have hnegated := mem_conditionKeys_iff rules ⟨name, true⟩
  unfold contradictions
  generalize (wireConditions rules).map (fun entry => ConditionKey.parse entry.1) = keys
    at hplain hnegated ⊢
  rw [(perm_sortTexts _).mem_iff, List.mem_filter, List.mem_eraseDups, ← hplain, ← hnegated,
    and_comm, List.contains_iff_mem]
  refine and_congr_right fun _ => ?_
  simp only [List.mem_map, List.mem_filter]
  constructor
  · rintro ⟨⟨_, _⟩, ⟨hmem, rfl⟩, rfl⟩
    exact hmem
  · intro hmem
    exact ⟨⟨name, true⟩, ⟨hmem, rfl⟩, rfl⟩

theorem sorted_contradictions :
    (contradictions rules).Pairwise (· < ·) :=
  sorted_sortTexts ((nodup_eraseDups _).filter _)

variable {rules}

/-- They depend on the keys only, in whatever order. -/
theorem contradictions_congr
    {other : Fields}
    (hkeys : ∀ key, key ∈ rules.keys ↔ key ∈ other.keys) :
    contradictions rules = contradictions other := by
  refine eq_of_sorted (sorted_contradictions rules) (sorted_contradictions other) fun name => ?_
  simp only [mem_contradictions_iff, HasCondition, hkeys]

end Warnings

section Result

variable (registry : Registry m γ)

/-- The flaws of what a payload stands for. -/
def allFlaws (fields : Fields) : List Flaw :=
  (modeFlaw? (normalRules fields)).toList ++
    conditionFlaws registry (wireConditions (normalRules fields))

theorem flaws_checkFields (fields : Fields) :
    (checkFields registry fields).flaws = (allFlaws registry fields).take maxFlaws :=
  flaws_collectFlaws registry (length_modeFlaw_le _) _

theorem complete_checkFields (fields : Fields) :
    Report.Complete registry (normalRules fields) (checkFields registry fields)
      (allFlaws registry fields)
      (contradictions (normalRules fields))
      (collectFlaws registry (modeFlaw? (normalRules fields)).toList
        (wireConditions (normalRules fields))).2 := by
  have hdistinct := distinct_normalRules fields
  have haudit : registry.Audit (modeFirst (normalRules fields)) (allFlaws registry fields) :=
    audit_modeFirst registry hdistinct
  have hpaths : Listing.Distinct (modeFirst (normalRules fields)) :=
    ((modeFirst_perm _).map Prod.fst).nodup_iff.mpr hdistinct
  refine
    { normalized := rfl
      audit_iff := fun others => ?_
      listed := flaws_checkFields registry fields
      valid_iff := ?_
      pointed := fun flaw hflaw => ?_
      distinct_paths := haudit.distinct_paths hpaths
      warnings := rfl
      cut_iff := cut_iff registry hdistinct
      sorted := sorted_contradictions _
      mem_names_iff := mem_contradictions_iff _ }
  · rw [audit_iff, (audit_iff _ _).mp haudit]
    exact eq_comm
  · rw [Report.isValid, flaws_checkFields, List.isEmpty_iff, List.take_eq_nil_iff]
    simp [maxFlaws]
  · obtain ⟨entry, hentry, hfaulty⟩ := haudit.exists_faulty hflaw
    refine ⟨entry, (modeFirst_perm _).mem_iff.mp hentry, hfaulty, ?_⟩
    rw [hfaulty.path, pointerTokens?_pointer]

/-- The report is complete, and bounded.  Of every payload that is an object:
* There is just one list of the flaws of its normal form, the mode's first and then one for each
  condition that has one, in order.  The report lists the first twenty of them, and the payload is
  valid exactly if there are none.
* The place of each flaw is a pointer that is read back as the key of a member with this flaw, and no
  two flaws have the same place.
* The report warns that it has broken off exactly if something comes after the member with the
  twentieth flaw.
* It warns of the predicates that are there both plain and negated, each once and in the order of code
  points; these are the same for every payload of which the normal form has the same keys.
* It warns of a normal form without conditions. -/
theorem report_complete (fields : Fields) :
    ∃ flaws names cut,
      Report.Complete registry (normalRules fields) (checkRules registry (.obj fields))
        flaws names cut ∧
      ∀ other : Fields,
        (∀ key, key ∈ (normalRules fields).keys ↔ key ∈ (normalRules other).keys) →
        ∃ others late,
          Report.Complete registry (normalRules other) (checkRules registry (.obj other))
            others names late := by
  refine ⟨_, _, _, complete_checkFields registry fields, fun other hkeys => ?_⟩
  have hother := complete_checkFields registry other
  rw [← contradictions_congr hkeys] at hother
  exact ⟨_, _, hother⟩

end Result

end PageScripts
