import PageScripts.Proofs.Script.Form

/-!
# The check of manual data reports what is wrong

The check brings the data into normal form and looks at four fields of it.  Here it is said of the
data as they were given when each of these fields is in order, without the normal form.

* `Field.Sound`: a field is in order.
* `accepts_iff_sound`: just then it is accepted in normal form.
* `flaws_normalFields`: the flaws are one for each field that is not in order, in turn.

**Result.**  `check_exact`: so says the report, and there is one unless the strategy is a list or an
object.
-/

namespace PageScripts
namespace Manual

section Defs

/-- A field that is checked. -/
inductive Field
  | handle
  | source
  | dependencies
  | strategy
  deriving DecidableEq, Repr

namespace Field

/-- The fields in the order of the report. -/
def all : List Field :=
  [handle, source, dependencies, strategy]

/-- The name of the field. -/
def name : Field → String
  | handle => "handle"
  | source => "src"
  | dependencies => "deps"
  | strategy => "strategy"

/-- What may stand in the field once the data are in normal form. -/
def accepts : Field → Json → Bool
  | handle => isHandleValue
  | source => isSourceValue
  | dependencies => isDependencyValue
  | strategy => isStrategyValue

/-- The flaw of the field, where the normal form has a value. -/
def flaw : Field → Json → Flaw
  | handle, value => .handle value
  | source, value => .source value
  | dependencies, _ => .dependencies
  | strategy, value => .strategy value

/-- The field is in order: a text that names a script when it is trimmed; one that is the address of a
page script; a text or a list of texts, or nothing; a text that is the word for a strategy when it is
trimmed and in lower case, or empty, or nothing. -/
def Sound (data : Fields) : Field → Prop
  | handle =>
      ∃ s, data.value? "handle" = some (.str s) ∧ isHandle (Text.trim s) = true
  | source =>
      ∃ s, data.value? "src" = some (.str s) ∧ Url.isSourceUrl (Text.trim s) = true
  | dependencies =>
      data.value? "deps" = none ∨
        (∃ s, data.value? "deps" = some (.str s)) ∨
        ∃ handles : List String, data.value? "deps" = some (.arr (handles.map Json.str))
  | strategy =>
      data.value? "strategy" = none ∨
        ∃ s, data.value? "strategy" = some (.str s) ∧
          Text.lower (Text.trim s) ∈ ["", "none", "async", "defer"]

end Field

/-- What the normal form has in a field. -/
def formOf
    (data : Fields)
    (field : Field) : Json :=
  ((normalFields data).value? field.name).getD .null

end Defs

section Fields

variable {data : Fields}

theorem mem_all (field : Field) :
    field ∈ Field.all := by
  cases field <;> decide

/-- The flaw of a field points to it. -/
theorem path_flaw
    (field : Field)
    (value : Json) :
    (field.flaw value).path = pointer field.name := by
  cases field with
  | handle =>
      exact (by decide : "/handle" = pointer "handle")
  | source =>
      exact (by decide : "/src" = pointer "src")
  | dependencies =>
      exact (by decide : "/deps" = pointer "deps")
  | strategy =>
      exact (by decide : "/strategy" = pointer "strategy")

/-- A field has what was given in it, in normal form, or what is put there for nothing. -/
theorem formOf_eq (field : Field) :
    formOf data field =
      (((data.value? field.name).map (settled field.name)).or (initial? field.name)).getD .null := by
  unfold formOf
  rw [value?_normalFields]

theorem isDependencyValue_arr_iff (items : List Json) :
    isDependencyValue (.arr items) = true ↔ ∃ handles : List String, items = handles.map Json.str := by
  simp only [isDependencyValue, List.all_eq_true]
  constructor
  · intro h
    refine ⟨items.filterMap Json.text?, ?_⟩
    induction items with
    | nil =>
        rfl
    | cons item rest ih =>
        obtain ⟨hitem, hrest⟩ := List.forall_mem_cons.mp h
        cases item with
        | str s =>
            exact congrArg (Json.str s :: ·) (ih hrest)
        | _ =>
            cases hitem
  · rintro ⟨handles, rfl⟩ item hitem
    obtain ⟨handle, -, rfl⟩ := List.mem_map.mp hitem
    rfl

/-- The words for the strategies, the empty one standing for the plain one. -/
theorem isStrategyValue_word_iff (word : String) :
    isStrategyValue (.str (if word = "" then LoadStrategy.plain.word else word)) = true ↔
      word ∈ ["", "none", "async", "defer"] := by
  by_cases hempty : word = ""
  · subst hempty
    decide
  · rw [if_neg hempty]
    constructor
    · intro h
      obtain ⟨strategy, hword⟩ := word_of_isStrategyValue h
      obtain rfl := Json.str.inj hword
      cases strategy <;> decide
    · intro h
      simp only [List.mem_cons, List.not_mem_nil, or_false, hempty, false_or] at h
      rcases h with rfl | rfl | rfl <;> decide

/-- A field is accepted in normal form just if it was in order. -/
theorem accepts_iff_sound (field : Field) :
    field.accepts (formOf data field) = true ↔ field.Sound data := by
  rw [formOf_eq]
  cases field with
  | handle =>
      simp only [Field.name, Field.accepts, Field.Sound]
      cases data.value? "handle" with
      | none =>
          simp [initial?, isHandleValue]
      | some value =>
          cases value <;> simp [settled, trimmed, isHandleValue]
  | source =>
      simp only [Field.name, Field.accepts, Field.Sound]
      cases data.value? "src" with
      | none =>
          simp [initial?, isSourceValue]
      | some value =>
          cases value <;> simp [settled, trimmed, isSourceValue]
  | dependencies =>
      simp only [Field.name, Field.accepts, Field.Sound]
      cases data.value? "deps" with
      | none =>
          simp [initial?, isDependencyValue]
      | some value =>
          cases value with
          | arr items =>
              simpa [settled, trimmed] using isDependencyValue_arr_iff items
          | _ =>
              simp [settled, trimmed, isDependencyValue]
  | strategy =>
      simp only [Field.name, Field.accepts, Field.Sound]
      cases data.value? "strategy" with
      | none =>
          simp [initial?]
          decide
      | some value =>
          cases value with
          | str s =>
              simpa [settled, strategyWord] using
                isStrategyValue_word_iff (Text.lower (Text.trim s))
          | _ =>
              simp [settled, strategyWord, isStrategyValue]

instance (data : Fields) (field : Field) : Decidable (field.Sound data) :=
  decidable_of_iff _ (accepts_iff_sound field)

/-- The flaws of the normal form: one for each field that is not in order, in turn. -/
theorem flaws_normalFields :
    flaws (normalFields data) =
      (Field.all.filter fun field => ¬ field.Sound data).map fun field =>
        field.flaw (formOf data field) := by
  have hone (field : Field) :
      (if field.accepts (formOf data field) = true then [] else [field.flaw (formOf data field)]) =
        ([field].filter fun field => ¬ field.Sound data).map fun field =>
          field.flaw (formOf data field) := by
    by_cases h : field.Sound data
    · rw [if_pos ((accepts_iff_sound field).mpr h)]
      simp [h]
    · rw [if_neg (mt (accepts_iff_sound field).mp h)]
      simp [h]
  have hall : Field.all = [.handle] ++ [.source] ++ [.dependencies] ++ [.strategy] := rfl
  rw [hall]
  simp only [List.filter_append, List.map_append, ← hone]
  rfl

end Fields

section Reports

variable {data : Fields}

/-- The strategy can be looked up just if it was given as no list and no object. -/
theorem hashable_formOf_strategy_iff :
    (formOf data .strategy).isHashable = true ↔
      ∀ value, data.value? "strategy" = some value → value.isHashable = true := by
  rw [formOf_eq]
  simp only [Field.name]
  cases data.value? "strategy" with
  | none =>
      simp [initial?, Json.isHashable]
  | some value =>
      cases value <;> simp [settled, strategyWord, Json.isHashable]

/-- A strategy that cannot be looked up is as it was given. -/
theorem kind_formOf_strategy
    (h : ¬ (formOf data .strategy).isHashable = true) :
    ∃ value, data.value? "strategy" = some value ∧ ¬ value.isHashable = true ∧
      (formOf data .strategy).kind = value.kind := by
  have hgiven := mt hashable_formOf_strategy_iff.mpr h
  push Not at hgiven
  obtain ⟨value, hvalue, hnot⟩ := hgiven
  refine ⟨value, hvalue, hnot, ?_⟩
  rw [formOf_eq]
  simp only [Field.name, hvalue]
  cases value <;> simp_all [settled, strategyWord, Json.isHashable]

/-- The report of data whose strategy can be looked up. -/
theorem check_of_hashable
    (h : (formOf data .strategy).isHashable = true) :
    check (.obj data) =
      .ok { flaws := flaws (normalFields data), normalized := some (normalFields data) } :=
  if_pos h

theorem check_of_not_hashable
    (h : ¬ (formOf data .strategy).isHashable = true) :
    check (.obj data) = .error (.wrongKind (formOf data .strategy).kind) :=
  if_neg h

/-- The check says what is wrong, if it says anything.  Let any value be given.
* What is no object has one flaw, and it is that.
* Of an object there is a report just if its strategy, if it has one, is no list and no object; and the
  fault of a check without report is of the kind of that strategy.
* The flaws in a report are one for each of the four fields that is not in order, in turn; each is the
  flaw of its field, at that field.  There are no warnings, and the normal form is the one of the data.
* The report is valid just if all four fields are in order. -/
theorem check_exact (given : Json) :
    ((∀ data, given ≠ .obj data) → check given = .ok { flaws := [.dataNotObject] }) ∧
    ∀ data : Fields, given = .obj data →
      ((∃ report, check given = .ok report) ↔
        ∀ value, data.value? "strategy" = some value → value.isHashable = true) ∧
      (∀ fault, check given = .error fault →
        ∃ value, data.value? "strategy" = some value ∧ fault = .wrongKind value.kind) ∧
      ∀ report, check given = .ok report →
        report.flaws =
          ((Field.all.filter fun field => ¬ field.Sound data).map fun field =>
            field.flaw (formOf data field)) ∧
        report.flaws.map Flaw.path =
          ((Field.all.filter fun field => ¬ field.Sound data).map fun field => pointer field.name) ∧
        report.warnings = [] ∧
        report.normalized = some (normalFields data) ∧
        (report.isValid = true ↔ ∀ field : Field, field.Sound data) := by
  constructor
  · intro hgiven
    cases given with
    | obj data =>
        exact absurd rfl (hgiven data)
    | _ =>
        rfl
  rintro data rfl
  by_cases hstrategy : (formOf data .strategy).isHashable = true
  · rw [check_of_hashable hstrategy]
    refine ⟨⟨fun _ => hashable_formOf_strategy_iff.mp hstrategy, fun _ => ⟨_, rfl⟩⟩, ?_, ?_⟩
    · intro fault h
      cases h
    · intro report h
      obtain rfl := Except.ok.inj h
      refine ⟨flaws_normalFields, ?_, rfl, rfl, ?_⟩
      · rw [flaws_normalFields, List.map_map]
        exact List.map_congr_left fun field _ => path_flaw field _
      · rw [Report.isValid, flaws_normalFields]
        simp [mem_all]
  · obtain ⟨value, hvalue, hnot, hkind⟩ := kind_formOf_strategy hstrategy
    rw [check_of_not_hashable hstrategy]
    refine ⟨⟨?_, fun h => absurd (h value hvalue) hnot⟩, ?_, ?_⟩
    · rintro ⟨report, h⟩
      cases h
    · intro fault h
      cases h
      exact ⟨value, hvalue, congrArg Fault.wrongKind hkind⟩
    · intro report h
      cases h

/-- Data that are untidy but have a strategy, and three flaws. -/
def untidyData : Fields :=
  [ ("handle", .str " a b "), ("deps", .arr [.str "x", .int 1]), ("strategy", .str " DEFER ") ]

theorem check_exact_untidy :
    ∃ report, check (.obj untidyData) = .ok report ∧
      report.flaws = [.handle (.str "a b"), .source .null, .dependencies] := by
  have hplain : ∀ value, untidyData.value? "strategy" = some value → value.isHashable = true := by
    rintro value h
    cases h
    rfl
  obtain ⟨hreported, -, hflaws⟩ := (check_exact (.obj untidyData)).2 untidyData rfl
  obtain ⟨report, hreport⟩ := hreported.mpr hplain
  refine ⟨report, hreport, ?_⟩
  rw [(hflaws report hreport).1]
  decide +kernel

/-- A strategy that is a list stops the check, although the rest of the data is in order. -/
theorem check_stopped_by_list :
    check
      (.obj
        [ ("handle", .str "chat"), ("src", .str "https://a.b/c.js"), ("strategy", .arr []) ]) =
        .error (.wrongKind .arr) := by
  decide +kernel

end Reports

end Manual
end PageScripts
