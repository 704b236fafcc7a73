import Mathlib.Data.List.Basic
import PageScripts.Proofs.Listing
import PageScripts.Rule.Purpose

/-!
# What rules mean

A condition *holds* when its predicate is known, takes its argument, and answers what the
condition asks for.  From this the meaning of rules is said without an order of questions:
there are conditions, and any of them holds, or all of them do.

**Assumption.**  `Registry.Answers`: the predicates of the registry answer, without a fault
and without an effect.

**Results.**
* `anyHolds_eq` and `allHold_eq`: the two loops that stop early, as `List.any` and `List.all`.
* `verdict_eq_decide`: the verdict is the meaning of the rules.
* `askAll_eq_decide`: so is what comes out when every condition is asked.
* `verdict_meaning`: all of this in one place, with what follows from it: neither the order of
  the conditions nor the default of a purpose changes the verdict of rules.
-/

namespace PageScripts

variable {m : Type → Type}
variable {γ : Type}

section Defs

/-- The predicates of a registry answer, as a function of the request and the arguments. -/
def Registry.Answers
    [Monad m]
    (registry : Registry m γ)
    (answer : Predicate m γ → γ → List Json → Bool) : Prop :=
  ∀ name predicate,
    registry.resolve? name = some predicate →
    ∀ context arguments,
      predicate.ask context arguments = pure (answer predicate context arguments)

/-- What comes out of one condition: false for an argument that the predicate does not take,
else its answer, inverted if the condition is negated. -/
def Predicate.result
    (answer : Predicate m γ → γ → List Json → Bool)
    (predicate : Predicate m γ)
    (negated : Bool)
    (argument : Json)
    (context : γ) :
    Bool :=
  match predicate.positional? argument with
  | none => false
  | some arguments => answer predicate context arguments != negated

/-- A condition holds: its predicate is known, and true comes out of it. -/
def ConditionHolds
    (registry : Registry m γ)
    (answer : Predicate m γ → γ → List Json → Bool)
    (context : γ)
    (entry : ConditionKey × Json) : Prop :=
  ∃ predicate,
    registry.resolve? entry.1.predicate = some predicate ∧
    predicate.result answer entry.1.negated entry.2 context = true

/-- What a mode asks of the conditions: any of them, or all.  No other mode is ever met. -/
def Mode.Met
    {α : Type}
    (mode : Mode)
    (conditions : List α)
    (holds : α → Prop) : Prop :=
  match mode with
  | any => ∃ condition ∈ conditions, holds condition
  | all => ∀ condition ∈ conditions, holds condition
  | other _ => False

/-- Rules hold: there are conditions, and they meet the mode. -/
def RulesHold
    (registry : Registry m γ)
    (answer : Predicate m γ → γ → List Json → Bool)
    (context : γ)
    (rules : RuleSet) : Prop :=
  rules.conditions ≠ [] ∧
  rules.mode.Met rules.conditions (ConditionHolds registry answer context)

/-- Joins the results of all conditions. -/
def Mode.join (mode : Mode) (results : List Bool) : Bool :=
  match mode with
  | any => results.any id
  | all => !results.isEmpty && results.all id
  | other _ => false

/-- Asks every condition, whatever comes out of the others, and joins the results; an unknown
predicate counts as false. -/
def askAll
    [Monad m]
    (registry : Registry m γ)
    (context : γ)
    (rules : RuleSet) :
    m Bool := do
  let results ← (conditionResults registry context rules).mapM fun entry =>
    entry.2.getD (pure false)
  pure (rules.mode.join results)

end Defs

section Decidable

variable (registry : Registry m γ)
variable (answer : Predicate m γ → γ → List Json → Bool)
variable (context : γ)

instance (entry : ConditionKey × Json) :
    Decidable (ConditionHolds registry answer context entry) :=
  match h : registry.resolve? entry.1.predicate with
  | none => .isFalse fun ⟨_, known, _⟩ => nomatch h.symm.trans known
  | some predicate =>
      decidable_of_iff (predicate.result answer entry.1.negated entry.2 context = true)
        ⟨fun out => ⟨predicate, h, out⟩,
          fun ⟨_, known, out⟩ => Option.some.inj (h.symm.trans known) ▸ out⟩

instance {α : Type} (mode : Mode) (conditions : List α) (holds : α → Prop)
    [DecidablePred holds] :
    Decidable (mode.Met conditions holds) :=
  match mode with
  | .any => inferInstanceAs (Decidable (∃ condition ∈ conditions, holds condition))
  | .all => inferInstanceAs (Decidable (∀ condition ∈ conditions, holds condition))
  | .other _ => inferInstanceAs (Decidable False)

instance (rules : RuleSet) :
    Decidable (RulesHold registry answer context rules) :=
  inferInstanceAs (Decidable (_ ∧ _))

end Decidable

section Loops

variable {registry : Registry m γ}

theorem conditionHolds_of_known
    (answer : Predicate m γ → γ → List Json → Bool)
    (context : γ)
    {key : ConditionKey}
    {predicate : Predicate m γ}
    (known : registry.resolve? key.predicate = some predicate)
    (argument : Json) :
    ConditionHolds registry answer context (key, argument) ↔
      predicate.result answer key.negated argument context = true := by
  constructor
  · rintro ⟨other, hother, out⟩
    rw [known] at hother
    cases hother
    exact out
  · intro out
    exact ⟨predicate, known, out⟩

theorem not_conditionHolds_of_unknown
    (answer : Predicate m γ → γ → List Json → Bool)
    (context : γ)
    {key : ConditionKey}
    (unknown : registry.resolve? key.predicate = none)
    (argument : Json) :
    ¬ ConditionHolds registry answer context (key, argument) := by
  rintro ⟨predicate, known, -⟩
  rw [unknown] at known
  cases known

variable [Monad m] [LawfulMonad m]
variable {answer : Predicate m γ → γ → List Json → Bool}

/-- One condition, asked. -/
theorem condition_eq
    (answers : registry.Answers answer)
    {name : String}
    {predicate : Predicate m γ}
    (known : registry.resolve? name = some predicate)
    (negated : Bool)
    (argument : Json)
    (context : γ) :
    predicate.condition negated argument context =
      pure (predicate.result answer negated argument context) := by
  unfold Predicate.condition Predicate.result
  cases predicate.positional? argument with
  | none =>
      rfl
  | some arguments =>
      simp only [answers name predicate known, pure_bind]

/-- The loop of mode `any` finds the conditions that hold and passes the others over, those
with unknown predicates too. -/
theorem anyHolds_eq
    (answers : registry.Answers answer)
    (context : γ)
    (conditions : List (ConditionKey × Json)) :
    anyHolds registry context conditions =
      pure (conditions.any fun entry =>
        decide (ConditionHolds registry answer context entry)) := by
  induction conditions with
  | nil =>
      rfl
  | cons entry rest ih =>
      obtain ⟨key, argument⟩ := entry
      cases known : registry.resolve? key.predicate with
      | none =>
          have hnot := not_conditionHolds_of_unknown answer context known argument
          simp only [anyHolds, known, ih, List.any_cons, hnot, decide_false, Bool.false_or]
      | some predicate =>
          have hiff := conditionHolds_of_known answer context known argument
          simp only [anyHolds, known, condition_eq answers known, pure_bind, List.any_cons, hiff]
          cases predicate.result answer key.negated argument context with
          | true =>
              simp
          | false =>
              simp [ih]

/-- The loop of mode `all` stops at a condition that does not hold. -/
theorem allHold_eq
    (answers : registry.Answers answer)
    (context : γ)
    (conditions : List (ConditionKey × Json)) :
    allHold registry context conditions =
      pure (conditions.all fun entry =>
        decide (ConditionHolds registry answer context entry)) := by
  induction conditions with
  | nil =>
      rfl
  | cons entry rest ih =>
      obtain ⟨key, argument⟩ := entry
      cases known : registry.resolve? key.predicate with
      | none =>
          have hnot := not_conditionHolds_of_unknown answer context known argument
          simp only [allHold, known, List.all_cons, hnot, decide_false, Bool.false_and]
      | some predicate =>
          have hiff := conditionHolds_of_known answer context known argument
          simp only [allHold, known, condition_eq answers known, pure_bind, List.all_cons, hiff]
          cases predicate.result answer key.negated argument context with
          | true =>
              simp [ih]
          | false =>
              simp

end Loops

section Verdicts

variable {registry : Registry m γ}
variable {answer : Predicate m γ → γ → List Json → Bool}

/-- The results of all conditions, joined, are the meaning of the rules. -/
theorem join_eq_decide
    (context : γ)
    (rules : RuleSet) :
    rules.mode.join (rules.conditions.map fun entry =>
        decide (ConditionHolds registry answer context entry)) =
      decide (RulesHold registry answer context rules) := by
  rw [Bool.eq_iff_iff, decide_eq_true_iff]
  unfold Mode.join RulesHold Mode.Met
  cases rules.mode with
  | any =>
      simp only [List.any_map, List.any_eq_true, Function.comp_apply, id_eq, decide_eq_true_eq]
      constructor
      · rintro ⟨entry, hmem, hholds⟩
        exact ⟨List.ne_nil_of_mem hmem, entry, hmem, hholds⟩
      · rintro ⟨-, entry, hmem, hholds⟩
        exact ⟨entry, hmem, hholds⟩
  | all =>
      simp
  | other value =>
      simp

/-- The meaning does not depend on the order of the conditions. -/
theorem rulesHold_perm
    {rules : RuleSet}
    {conditions : Listing ConditionKey Json}
    (order : rules.conditions.Perm conditions)
    (context : γ) :
    RulesHold registry answer context { rules with conditions } ↔
      RulesHold registry answer context rules := by
  have hmem :
      ∀ entry, entry ∈ conditions ↔ entry ∈ rules.conditions := by
    intro entry
    exact order.mem_iff.symm
  have hnil : conditions = [] ↔ rules.conditions = [] := by
    rw [← List.length_eq_zero_iff, ← order.length_eq, List.length_eq_zero_iff]
  unfold RulesHold Mode.Met
  cases rules.mode <;> simp only [hmem, hnil, ne_eq]

variable [Monad m] [LawfulMonad m]

/-- The verdict of rules is their meaning. -/
theorem verdict_eq_decide
    (answers : registry.Answers answer)
    (absent : γ → Bool)
    (context : γ)
    (rules : RuleSet) :
    verdict registry absent context (some rules) =
      pure (decide (RulesHold registry answer context rules)) := by
  rw [← join_eq_decide]
  obtain ⟨conditions, mode, explicitMode⟩ := rules
  cases conditions with
  | nil =>
      cases mode <;> rfl
  | cons entry rest =>
      cases mode with
      | any =>
          have hloop := anyHolds_eq answers context (entry :: rest)
          simpa [verdict, RuleSet.isEmpty, Mode.join] using hloop
      | all =>
          have hloop := allHold_eq answers context (entry :: rest)
          simpa [verdict, RuleSet.isEmpty, Mode.join] using hloop
      | other value =>
          rfl

/-- So is what comes out when every condition is asked. -/
theorem askAll_eq_decide
    (answers : registry.Answers answer)
    (context : γ)
    (rules : RuleSet) :
    askAll registry context rules =
      pure (decide (RulesHold registry answer context rules)) := by
  have hask :
      ∀ entry : ConditionKey × Json,
        (((registry.resolve? entry.1.predicate).map fun predicate =>
            predicate.condition entry.1.negated entry.2 context).getD (pure false)) =
          pure (decide (ConditionHolds registry answer context entry)) := by
    rintro ⟨key, argument⟩
    cases known : registry.resolve? key.predicate with
    | none =>
        have hnot := not_conditionHolds_of_unknown answer context known argument
        simp only [Option.map_none, Option.getD_none, hnot, decide_false]
    | some predicate =>
        have hiff := conditionHolds_of_known answer context known argument
        simp [condition_eq answers known, hiff]
  rw [← join_eq_decide]
  unfold askAll conditionResults
  simp [List.mapM_map, Function.comp_def, hask]

/-- The verdict against its meaning.  What a condition comes out as, the default where there are
no rules, the meaning where there are, and three consequences: asking every condition gives the
same verdict, and so does another order of the conditions, and so does another purpose. -/
theorem verdict_meaning
    (answers : registry.Answers answer)
    (context : γ) :
    (∀ name predicate,
      registry.resolve? name = some predicate →
      ∀ negated argument,
        predicate.condition negated argument context =
          pure (predicate.result answer negated argument context)) ∧
    (∀ absent, verdict registry absent context none = pure (absent context)) ∧
    (∀ absent rules,
      verdict registry absent context (some rules) =
        pure (decide (RulesHold registry answer context rules))) ∧
    (∀ absent rules,
      verdict registry absent context (some rules) = askAll registry context rules) ∧
    (∀ absent (rules : RuleSet) conditions,
      rules.conditions.Perm conditions →
      verdict registry absent context (some { rules with conditions }) =
        verdict registry absent context (some rules)) ∧
    (∀ absent other rules,
      verdict registry absent context (some rules) =
        verdict registry other context (some rules)) ∧
    (∀ vocabulary rules request,
      Purpose.removal.verdict vocabulary (some rules) request =
        Purpose.addition.verdict vocabulary (some rules) request) := by
  refine ⟨?_, ?_, ?_, ?_, ?_, ?_, ?_⟩
  · intro name predicate known negated argument
    exact condition_eq answers known negated argument context
  · intro absent
    rfl
  · intro absent rules
    exact verdict_eq_decide answers absent context rules
  · intro absent rules
    rw [verdict_eq_decide answers, askAll_eq_decide answers]
  · intro absent rules conditions order
    rw [verdict_eq_decide answers, verdict_eq_decide answers]
    exact congrArg pure (decide_eq_decide.mpr (rulesHold_perm order context))
  · intro absent other rules
    rfl
  · intro vocabulary rules request
    rfl

end Verdicts

section Witness

/-- A registry of two questions that may fail, but do not. -/
def guardedRegistry : Registry (Except Fault) Request :=
  { entries :=
      [ ("is_admin",
          { name := "is_admin", arity := .nullary, ask := fun request _ => .ok request.isAdmin }),
        ("is_singular",
          { name := "is_singular", arity := .unary,
            ask := fun request arguments => .ok (arguments.contains request.postType) }) ] }

/-- What the questions of the guarded registry answer. -/
def guardedAnswer
    (predicate : Predicate (Except Fault) Request)
    (request : Request)
    (arguments : List Json) :
    Bool :=
  match predicate.ask request arguments with
  | .ok answer => answer
  | .error _ => false

theorem guardedRegistry_answers :
    guardedRegistry.Answers guardedAnswer := by
  intro name predicate known context arguments
  have hmem : (name, predicate) ∈ guardedRegistry.entries := Listing.mem_of_value? known
  simp only [guardedRegistry, List.mem_cons, List.not_mem_nil, or_false, Prod.mk.injEq] at hmem
  rcases hmem with ⟨-, rfl⟩ | ⟨-, rfl⟩ <;> rfl

/-- Conditions with an unknown predicate, with an argument that is not taken, and one that
holds negated. -/
def guardedRules : RuleSet :=
  { conditions :=
      [ (⟨"is_home", false⟩, .bool true),
        (⟨"is_admin", true⟩, .str "panel"),
        (⟨"is_singular", true⟩, .str "page") ] }

/-- The last condition holds, and in mode `any` what comes before it is passed over; in mode
`all` it is not. -/
theorem verdict_meaning_guarded :
    guardedRegistry.Answers guardedAnswer ∧
    verdict guardedRegistry (fun _ => false) { postType := .str "post" } (some guardedRules) =
      pure true ∧
    askAll guardedRegistry { postType := .str "post" } { guardedRules with mode := .all } =
      pure false := by
  obtain ⟨-, -, hverdict, hall, -⟩ :=
    verdict_meaning guardedRegistry_answers { postType := .str "post" }
  refine ⟨guardedRegistry_answers, ?_, ?_⟩
  · have hholds :
        RulesHold guardedRegistry guardedAnswer { postType := .str "post" } guardedRules := by
      decide
    rw [hverdict, decide_eq_true hholds]
  · have hnot :
        ¬ RulesHold guardedRegistry guardedAnswer { postType := .str "post" }
          { guardedRules with mode := .all } := by
      decide
    rw [← hall (fun _ => false), hverdict, decide_eq_false hnot]

end Witness

end PageScripts
