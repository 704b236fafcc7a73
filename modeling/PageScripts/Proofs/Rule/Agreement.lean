import Mathlib.Data.List.Forall2
import PageScripts.Proofs.Registry
import PageScripts.Proofs.Rule.Meaning
import PageScripts.Rule.Check

/-!
# The check of rules agrees with the verdict

The check and the verdict look at a rule set separately: the check at the shape of an argument
and at the limit of its predicate, the verdict at the arguments that the predicate takes.  Here
they are shown to accept the same conditions.

**The condition as a call.**  `Registry.call?` is the question that a condition stands for.

**Results.**
* `conditionFlaw?_eq_none_iff`: a condition has no flaw exactly when it stands for a call.
* `collectFlaws_eq_nil_iff`: the limit on the list of flaws does not hide the last one.
* `isValid_checkFields_iff`: a payload is valid exactly when its mode is known and each of its
  conditions stands for a call.
* `anyHolds_of_calls`, `allHold_of_calls`: then the verdict only asks the calls.
* `checkRules_agrees`: the two sides in one place.
-/

namespace PageScripts

variable {m : Type → Type}
variable {γ : Type}

section Defs

/-- A question with its arguments, and whether it is negated. -/
structure Call (m : Type → Type) (γ : Type) where
  predicate : Predicate m γ
  arguments : List Json
  negated : Bool

/-- Asks a call. -/
def Call.ask
    [Monad m]
    (context : γ)
    (call : Call m γ) :
    m Bool := do
  let result ← call.predicate.ask context call.arguments
  pure (result != call.negated)

/-- The answer of a call, inverted if it is negated. -/
def Call.answer
    (answer : Predicate m γ → γ → List Json → Bool)
    (context : γ)
    (call : Call m γ) :
    Bool :=
  answer call.predicate context call.arguments != call.negated

/-- The call that a condition stands for, if its predicate is known and takes the argument. -/
def Registry.call?
    (registry : Registry m γ)
    (entry : ConditionKey × Json) :
    Option (Call m γ) :=
  match registry.resolve? entry.1.predicate with
  | none => none
  | some predicate =>
      (predicate.positional? entry.2).map fun arguments =>
        ⟨predicate, arguments, entry.1.negated⟩

/-- The calls that conditions stand for, one after another. -/
abbrev Registry.Calls
    (registry : Registry m γ) :
    List (ConditionKey × Json) → List (Call m γ) → Prop :=
  List.Forall₂ fun entry call => registry.call? entry = some call

/-- The rules that the normal form of a payload stands for. -/
def normalRuleSet (fields : Fields) : RuleSet :=
  RuleSet.ofFields (normalRules fields)

end Defs

section Conditions

theorem call?_isSome_iff
    (registry : Registry m γ)
    (entry : ConditionKey × Json) :
    (registry.call? entry).isSome = true ↔
      ∃ predicate,
        registry.resolve? entry.1.predicate = some predicate ∧
        (predicate.positional? entry.2).isSome = true := by
  unfold Registry.call?
  cases registry.resolve? entry.1.predicate with
  | none =>
      simp
  | some predicate =>
      simp

/-- An argument that some predicate takes has the shape of an argument. -/
theorem isArgumentShape_of_positional?
    {predicate : Predicate m γ}
    {argument : Json}
    {arguments : List Json}
    (h : predicate.positional? argument = some arguments) :
    isArgumentShape argument = true := by
  unfold Predicate.positional? Arity.positional? at h
  cases argument with
  | null | int | float | str =>
      rfl
  | bool b =>
      cases b with
      | true =>
          rfl
      | false =>
          simp [Json.isScalar] at h
  | arr items =>
      simp only [Option.ite_none_right_eq_some] at h
      obtain ⟨⟨-, -, hscalars⟩, -⟩ := h
      exact hscalars
  | obj fields =>
      simp [Json.isScalar] at h

/-- A condition has no flaw exactly when it stands for a call. -/
theorem conditionFlaw?_eq_none_iff
    {registry : Registry m γ}
    (orderly : registry.Orderly)
    (raw : String)
    (argument : Json) :
    conditionFlaw? registry raw argument = none ↔
      (registry.call? (ConditionKey.parse raw, argument)).isSome = true := by
  rw [call?_isSome_iff]
  unfold conditionFlaw?
  by_cases hempty : (ConditionKey.parse raw).predicate = ""
  · simp [hempty, Registry.resolve?_empty orderly]
  · cases hknown : registry.resolve? (ConditionKey.parse raw).predicate with
    | none =>
        simp [hempty, hknown]
    | some predicate =>
        cases htakes : predicate.positional? argument with
        | none =>
            cases isArgumentShape argument <;> simp [hempty, hknown, htakes]
        | some arguments =>
            have hshape := isArgumentShape_of_positional? htakes
            simp [hempty, hknown, htakes, hshape]

/-- The list of flaws stays empty only if there are none; the limit is never met before. -/
theorem collectFlaws_eq_nil_iff
    (registry : Registry m γ)
    (flaws : List Flaw)
    (conditions : List (String × Json)) :
    (collectFlaws registry flaws conditions).1 = [] ↔
      flaws = [] ∧
      ∀ entry ∈ conditions, conditionFlaw? registry entry.1 entry.2 = none := by
  induction conditions generalizing flaws with
  | nil =>
      simp [collectFlaws]
  | cons entry rest ih =>
      obtain ⟨raw, argument⟩ := entry
      unfold collectFlaws
      by_cases hfull : maxFlaws ≤ flaws.length
      · have hne : flaws ≠ [] := by
          rintro rfl
          exact absurd hfull (by decide)
        simp [hfull, hne]
      · simp only [hfull, if_false]
        rw [ih, List.append_eq_nil_iff, Option.toList_eq_nil_iff]
        simp [and_assoc]

end Conditions

section Payloads

/-- Different texts are different keys. -/
theorem parse_injective :
    Function.Injective ConditionKey.parse := by
  intro raw other h
  rw [← ConditionKey.wire_parse raw, h, ConditionKey.wire_parse]

/-- The conditions of a payload with distinct keys are its members, in order. -/
theorem conditions_ofFields
    {fields : Fields}
    (distinct : Listing.Distinct fields) :
    (RuleSet.ofFields fields).conditions =
      (wireConditions fields).map fun entry => (ConditionKey.parse entry.1, entry.2) := by
  apply Listing.ofEntries_of_distinct
  have hkeys :
      Listing.keys (RuleSet.conditionEntries fields) =
        ((wireConditions fields).map Prod.fst).map ConditionKey.parse := by
    simp [Listing.keys, RuleSet.conditionEntries, wireConditions, Function.comp_def]
  have hsub : ((wireConditions fields).map Prod.fst).Nodup :=
    distinct.sublist (List.Sublist.map Prod.fst List.filter_sublist)
  unfold Listing.Distinct
  rw [hkeys]
  exact hsub.map parse_injective

theorem key_normalEntry (entry : String × Json) :
    (normalEntry entry).1 = Text.trim entry.1 := by
  unfold normalEntry
  dsimp only
  split <;> rfl

theorem distinct_normalRules (fields : Fields) :
    Listing.Distinct (normalRules fields) :=
  Listing.distinct_ofEntries (fields.map normalEntry)

theorem modeFlaw?_eq_none_iff (fields : Fields) :
    modeFlaw? fields = none ↔
      (RuleSet.ofFields fields).mode = .any ∨ (RuleSet.ofFields fields).mode = .all := by
  unfold modeFlaw? RuleSet.ofFields
  cases Listing.value? modeKey fields with
  | none =>
      simp
  | some stored =>
      cases hmode : Mode.ofJson stored <;> simp [hmode, Mode.isKnown]

/-- A payload is valid exactly when its mode is known and its conditions stand for calls. -/
theorem isValid_checkFields_iff
    {registry : Registry m γ}
    (orderly : registry.Orderly)
    (fields : Fields) :
    (checkFields registry fields).isValid = true ↔
      ((normalRuleSet fields).mode = .any ∨ (normalRuleSet fields).mode = .all) ∧
      ∀ entry ∈ (normalRuleSet fields).conditions, (registry.call? entry).isSome = true := by
  have hconditions := conditions_ofFields (distinct_normalRules fields)
  have hflaws :
      (checkFields registry fields).isValid = true ↔
        (collectFlaws registry (modeFlaw? (normalRules fields)).toList
          (wireConditions (normalRules fields))).1 = [] := by
    simp [checkFields, Report.isValid]
  rw [hflaws, collectFlaws_eq_nil_iff, Option.toList_eq_nil_iff, modeFlaw?_eq_none_iff]
  refine and_congr_right fun _ => ?_
  unfold normalRuleSet
  rw [hconditions, List.forall_mem_map]
  refine forall₂_congr fun entry _ => ?_
  exact conditionFlaw?_eq_none_iff orderly entry.1 entry.2

end Payloads

section Verdicts

variable {registry : Registry m γ}
variable {conditions : List (ConditionKey × Json)}
variable {calls : List (Call m γ)}

/-- Where every condition stands for a call, the calls can be listed. -/
theorem exists_calls
    (h : ∀ entry ∈ conditions, (registry.call? entry).isSome = true) :
    ∃ calls, registry.Calls conditions calls := by
  induction conditions with
  | nil =>
      exact ⟨[], .nil⟩
  | cons entry rest ih =>
      obtain ⟨hentry, hrest⟩ := List.forall_mem_cons.mp h
      obtain ⟨call, hcall⟩ := Option.isSome_iff_exists.mp hentry
      obtain ⟨calls, hcalls⟩ := ih hrest
      exact ⟨call :: calls, .cons hcall hcalls⟩

theorem call?_eq_some_iff
    {entry : ConditionKey × Json}
    {call : Call m γ} :
    registry.call? entry = some call ↔
      registry.resolve? entry.1.predicate = some call.predicate ∧
      call.predicate.positional? entry.2 = some call.arguments ∧
      call.negated = entry.1.negated := by
  obtain ⟨predicate, arguments, negated⟩ := call
  unfold Registry.call?
  cases registry.resolve? entry.1.predicate with
  | none =>
      simp
  | some known =>
      simp only [Option.map_eq_some_iff, Call.mk.injEq, Option.some.injEq]
      constructor
      · rintro ⟨taken, htaken, rfl, rfl, rfl⟩
        exact ⟨rfl, htaken, rfl⟩
      · rintro ⟨rfl, htaken, rfl⟩
        exact ⟨arguments, htaken, rfl, rfl, rfl⟩

variable [Monad m]

/-- A condition that stands for a call only asks it. -/
theorem condition_of_call
    {entry : ConditionKey × Json}
    {call : Call m γ}
    (h : registry.call? entry = some call)
    (context : γ) :
    registry.resolve? entry.1.predicate = some call.predicate ∧
    call.predicate.condition entry.1.negated entry.2 context = call.ask context := by
  obtain ⟨hknown, htakes, hnegated⟩ := call?_eq_some_iff.mp h
  refine ⟨hknown, ?_⟩
  unfold Predicate.condition Call.ask
  rw [htakes, hnegated]

/-- In mode `any`, the loop is the disjunction of the calls. -/
theorem anyHolds_of_calls
    (h : registry.Calls conditions calls)
    (context : γ) :
    anyHolds registry context conditions = calls.anyM (Call.ask context) := by
  induction h with
  | nil =>
      rfl
  | cons hcall _ ih =>
      obtain ⟨hknown, hcondition⟩ := condition_of_call hcall context
      simp only [anyHolds, hknown, hcondition, List.anyM, ih]
      refine congrArg _ (funext fun result => ?_)
      cases result <;> rfl

/-- In mode `all`, it is their conjunction. -/
theorem allHold_of_calls
    (h : registry.Calls conditions calls)
    (context : γ) :
    allHold registry context conditions = calls.allM (Call.ask context) := by
  induction h with
  | nil =>
      rfl
  | cons hcall _ ih =>
      obtain ⟨hknown, hcondition⟩ := condition_of_call hcall context
      simp only [allHold, hknown, hcondition, List.allM, ih]
      refine congrArg _ (funext fun result => ?_)
      cases result <;> rfl

variable [LawfulMonad m]

/-- Calls of predicates that answer are answered. -/
theorem ask_eq_answer
    {answer : Predicate m γ → γ → List Json → Bool}
    (answers : registry.Answers answer)
    {entry : ConditionKey × Json}
    {call : Call m γ}
    (h : registry.call? entry = some call)
    (context : γ) :
    call.ask context = pure (call.answer answer context) := by
  obtain ⟨hknown, -, -⟩ := call?_eq_some_iff.mp h
  unfold Call.ask Call.answer
  rw [answers _ _ hknown, pure_bind]

theorem anyM_ask_eq_any
    {answer : Predicate m γ → γ → List Json → Bool}
    (answers : registry.Answers answer)
    (h : registry.Calls conditions calls)
    (context : γ) :
    calls.anyM (Call.ask context) = pure (calls.any (Call.answer answer context)) := by
  induction h with
  | nil =>
      rfl
  | @cons _ call _ others hcall _ ih =>
      rw [List.anyM_cons, ask_eq_answer answers hcall, pure_bind, List.any_cons]
      cases call.answer answer context with
      | true =>
          rfl
      | false =>
          exact ih

theorem allM_ask_eq_all
    {answer : Predicate m γ → γ → List Json → Bool}
    (answers : registry.Answers answer)
    (h : registry.Calls conditions calls)
    (context : γ) :
    calls.allM (Call.ask context) = pure (calls.all (Call.answer answer context)) := by
  induction h with
  | nil =>
      rfl
  | @cons _ call _ others hcall _ ih =>
      rw [List.allM_cons, ask_eq_answer answers hcall, pure_bind, List.all_cons]
      cases call.answer answer context with
      | true =>
          exact ih
      | false =>
          rfl

end Verdicts

section Agreement

variable [Monad m]

/-- The verdict of rules whose conditions stand for calls. -/
theorem verdict_of_calls
    {registry : Registry m γ}
    {rules : RuleSet}
    {calls : List (Call m γ)}
    (hcalls : registry.Calls rules.conditions calls)
    (hsome : rules.conditions ≠ [])
    (absent : γ → Bool)
    (context : γ) :
    (rules.mode = .any →
      verdict registry absent context (some rules) = calls.anyM (Call.ask context)) ∧
    (rules.mode = .all →
      verdict registry absent context (some rules) = calls.allM (Call.ask context)) := by
  have hempty : rules.isEmpty = false := by
    simpa [RuleSet.isEmpty] using hsome
  constructor
  · intro hmode
    simp only [verdict, hempty, hmode, Bool.false_eq_true, if_false]
    exact anyHolds_of_calls hcalls context
  · intro hmode
    simp only [verdict, hempty, hmode, Bool.false_eq_true, if_false]
    exact allHold_of_calls hcalls context

/-- The check and the verdict agree on what good rules are.  A payload is valid exactly when its
rules have a known mode and each of their conditions a known predicate that takes the argument.
Then each condition stands for a call, and the verdict of one condition or more is the
disjunction or the conjunction of the calls, and of their answers where the predicates answer. -/
theorem checkRules_agrees
    [LawfulMonad m]
    {registry : Registry m γ}
    (built : registry.Built)
    (fields : Fields) :
    (checkRules registry (.obj fields)).normalized = some (normalRules fields) ∧
    ((checkRules registry (.obj fields)).isValid = true ↔
      ((normalRuleSet fields).mode = .any ∨ (normalRuleSet fields).mode = .all) ∧
      ∀ entry ∈ (normalRuleSet fields).conditions,
        ∃ predicate,
          registry.resolve? entry.1.predicate = some predicate ∧
          (predicate.positional? entry.2).isSome = true) ∧
    ((checkRules registry (.obj fields)).isValid = true →
      ∃ calls,
        registry.Calls (normalRuleSet fields).conditions calls ∧
        ((normalRuleSet fields).conditions ≠ [] →
          ∀ absent context,
            ((normalRuleSet fields).mode = .any →
              verdict registry absent context (some (normalRuleSet fields)) =
                calls.anyM (Call.ask context)) ∧
            ((normalRuleSet fields).mode = .all →
              verdict registry absent context (some (normalRuleSet fields)) =
                calls.allM (Call.ask context)) ∧
            ∀ answer,
              registry.Answers answer →
              verdict registry absent context (some (normalRuleSet fields)) =
                pure (if (normalRuleSet fields).mode = .any
                  then calls.any (Call.answer answer context)
                  else calls.all (Call.answer answer context)))) := by
  have hvalid := isValid_checkFields_iff (Registry.orderly_of_built built) fields
  refine ⟨rfl, ?_, ?_⟩
  · simpa only [checkRules, call?_isSome_iff] using hvalid
  · intro haccepted
    obtain ⟨hmode, hconditions⟩ := hvalid.mp haccepted
    obtain ⟨calls, hcalls⟩ := exists_calls hconditions
    refine ⟨calls, hcalls, ?_⟩
    intro hsome absent context
    obtain ⟨hany, hall⟩ := verdict_of_calls hcalls hsome absent context
    refine ⟨hany, hall, ?_⟩
    intro answer answers
    rcases hmode with hmode | hmode
    · rw [hany hmode, if_pos hmode]
      exact anyM_ask_eq_any answers hcalls context
    · have hnot : (normalRuleSet fields).mode ≠ .any := by
        rw [hmode]
        decide
      rw [hall hmode, if_neg hnot]
      exact allM_ask_eq_all answers hcalls context

/-- A payload with the mode in capitals, a name between blanks and a negated condition. -/
def loosePayload : Fields :=
  [ ("__mode", .str "ALL"),
    (" is_home ", .bool true),
    ("__neg:is_tax", .arr [.str "category", .str " news"]) ]

/-- The vocabulary takes the loose payload, and asks two questions for it. -/
theorem checkRules_agrees_vocabulary :
    Vocabulary.registry.Built ∧
    (checkRules Vocabulary.registry (.obj loosePayload)).isValid = true ∧
    ∃ first second,
      Vocabulary.registry.Calls (normalRuleSet loosePayload).conditions [first, second] := by
  have hconditions :
      (normalRuleSet loosePayload).conditions =
        [ (⟨"is_home", false⟩, .bool true),
          (⟨"is_tax", true⟩, .arr [.str "category", .str "news"]) ] := by
    rfl
  obtain ⟨-, hvalid, haccepted⟩ := checkRules_agrees Registry.built_vocabulary loosePayload
  have hgood : (checkRules Vocabulary.registry (.obj loosePayload)).isValid = true := by
    rw [hvalid, hconditions]
    refine ⟨.inr rfl, ?_⟩
    rintro entry hentry
    rcases List.mem_pair.mp hentry with rfl | rfl
    · exact ⟨_, rfl, rfl⟩
    · exact ⟨_, rfl, rfl⟩
  obtain ⟨calls, hcalls, -⟩ := haccepted hgood
  rw [hconditions] at hcalls ⊢
  obtain ⟨hlength, -⟩ := List.forall₂_iff_zip.mp hcalls
  obtain ⟨first, second, rfl⟩ := List.length_eq_two.mp hlength.symm
  exact ⟨Registry.built_vocabulary, hgood, first, second, hcalls⟩

end Agreement

end PageScripts
