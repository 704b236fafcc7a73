import PageScripts.Proofs.Listing
import PageScripts.Proofs.Text.Blank
import PageScripts.Script.Manual

/-!
# The normal form of manual data, field by field

The data of a manual script are brought into normal form in seven steps, each of which looks at one
field.  Here it is said of each field what it is in the end, so that nothing else has to look at the
steps; and data are valid if four of their fields are.

* `settled`: what becomes of a value; `initial?`: what is put where there is none.
* `value?_normalFields`: the normal form is just that.
* `Accepted`: a value with which a field is valid.
* `settled_of_accepted`, `accepted_initial`: what is accepted and in normal form stays so.
* `flaws_eq_nil_iff`: data without flaws are those with accepted fields.
-/

namespace PageScripts
namespace Manual

section Defs

/-- A text without the blanks at its ends; other values as they are. -/
def trimmed : Json → Json
  | .str s => .str (Text.trim s)
  | other => other

/-- The word for a strategy in lower case, none being plain; other values as they are. -/
def strategyWord : Json → Json
  | .str s =>
      let word := Text.lower (Text.trim s)
      .str (if word = "" then LoadStrategy.plain.word else word)
  | other => other

/-- What becomes of a value under a name. -/
def settled
    (name : String)
    (value : Json) : Json :=
  if name = "strategy" then strategyWord value
  else if name = "ver" then if trimmed value = .str "" then .null else trimmed value
  else if name ∈ ["handle", "src", "deps"] then trimmed value
  else value

/-- What is put under a name where there is nothing. -/
def initial? (name : String) : Option Json :=
  if name = "deps" then some (.str "")
  else if name = "in_footer" then some (.bool false)
  else if name = "strategy" then some (.str LoadStrategy.plain.word)
  else none

/-- The value is one that a field may have in normal form: a handle, a source address, dependencies or
a strategy; other fields may have any. -/
def Accepted
    (name : String)
    (value : Json) : Prop :=
  (name = "handle" → isHandleValue value = true) ∧
  (name = "src" → isSourceValue value = true) ∧
  (name = "deps" → isDependencyValue value = true) ∧
  (name = "strategy" → isStrategyValue value = true)

instance (name : String) (value : Json) : Decidable (Accepted name value) :=
  inferInstanceAs (Decidable (_ ∧ _ ∧ _ ∧ _))

end Defs

section Steps

variable (data : Fields)
variable (name : String)

theorem value?_trimField (key : String) :
    (trimField data key).value? name =
      if name = key then (data.value? name).map trimmed else data.value? name := by
  unfold trimField
  by_cases hname : name = key
  · subst hname
    cases hvalue : data.value? name with
    | none =>
        simp [hvalue]
    | some value =>
        cases value <;> simp [trimmed, Listing.value?_put, hvalue]
  · rw [if_neg hname]
    split
    · rw [Listing.value?_put, if_neg (Ne.symm hname)]
    · rfl

theorem value?_withDefault
    (key : String)
    (missing : Json) :
    (withDefault key missing data).value? name =
      if name = key then some ((data.value? name).getD missing) else data.value? name := by
  unfold withDefault Listing.has
  by_cases hname : name = key
  · subst hname
    cases hvalue : data.value? name <;> simp [Listing.value?_put, hvalue]
  · rw [if_neg hname]
    split
    · rfl
    · rw [Listing.value?_put, if_neg (Ne.symm hname)]

theorem value?_normalStrategy :
    (normalStrategy data).value? name =
      if name = "strategy" then (data.value? name).map strategyWord else data.value? name := by
  unfold normalStrategy
  by_cases hname : name = "strategy"
  · subst hname
    cases hvalue : data.value? "strategy" with
    | none =>
        simp [hvalue]
    | some value =>
        cases value <;> simp [strategyWord, Listing.value?_put, hvalue]
  · rw [if_neg hname]
    split
    · rw [Listing.value?_put, if_neg (Ne.symm hname)]
    · rfl

theorem value?_normalVersion :
    (normalVersion data).value? name =
      if name = "ver" then
        (data.value? name).map fun value => if value = .str "" then .null else value
      else data.value? name := by
  unfold normalVersion
  by_cases hname : name = "ver"
  · subst hname
    cases hvalue : data.value? "ver" with
    | none =>
        simp [hvalue]
    | some value =>
        by_cases hempty : value = .str "" <;> simp [hempty, Listing.value?_put, hvalue]
  · rw [if_neg hname]
    split
    · rw [Listing.value?_put, if_neg (Ne.symm hname)]
    · rfl

/-- The words for the strategies stay as they are. -/
theorem strategyWord_word (strategy : LoadStrategy) :
    strategyWord (.str strategy.word) = .str strategy.word := by
  cases strategy <;> decide +kernel

/-- What stands in the normal form under any name. -/
theorem value?_normalFields :
    (normalFields data).value? name =
      ((data.value? name).map (settled name)).or (initial? name) := by
  have hplain : strategyWord (.str LoadStrategy.plain.word) = .str LoadStrategy.plain.word :=
    strategyWord_word .plain
  unfold normalFields
  simp only [List.foldl, value?_normalVersion, value?_normalStrategy, value?_withDefault,
    value?_trimField]
  by_cases hstrategy : name = "strategy"
  · subst hstrategy
    cases data.value? "strategy" <;> simp [settled, initial?, hplain]
  by_cases hfooter : name = "in_footer"
  · subst hfooter
    cases data.value? "in_footer" <;> simp [settled, initial?]
  by_cases hdeps : name = "deps"
  · subst hdeps
    cases data.value? "deps" <;> simp [settled, initial?]
  by_cases hversion : name = "ver"
  · subst hversion
    cases data.value? "ver" <;> simp [settled, initial?]
  by_cases hsource : name = "src"
  · subst hsource
    cases data.value? "src" <;> simp [settled, initial?]
  by_cases hhandle : name = "handle"
  · subst hhandle
    cases data.value? "handle" <;> simp [settled, initial?]
  -- No step looks at any other name.
  have hsame : settled name = id := by
    funext value
    simp [settled, hstrategy, hversion, hdeps, hsource, hhandle]
  simp [hsame, initial?, hstrategy, hfooter, hdeps, hversion, hsource, hhandle]

end Steps

section Acceptance

variable {name : String}
variable {value : Json}

@[simp]
theorem trimmed_trimmed (value : Json) :
    trimmed (trimmed value) = trimmed value := by
  cases value <;> simp [trimmed]

/-- The value is the word for a strategy. -/
theorem word_of_isStrategyValue
    (h : isStrategyValue value = true) :
    ∃ strategy : LoadStrategy, value = .str strategy.word := by
  cases value with
  | str word =>
      obtain ⟨strategy, hstrategy⟩ := Option.isSome_iff_exists.mp h
      have hword := List.find?_some hstrategy
      exact ⟨strategy, congrArg Json.str (beq_iff_eq.mp hword).symm⟩
  | _ =>
      cases h

/-- A value that is accepted in normal form is its own normal form. -/
theorem settled_of_accepted
    (h : Accepted name (settled name value)) :
    settled name (settled name value) = settled name value := by
  by_cases hstrategy : name = "strategy"
  · obtain ⟨strategy, hword⟩ := word_of_isStrategyValue (h.2.2.2 hstrategy)
    rw [hword]
    simp only [settled, if_pos hstrategy]
    exact strategyWord_word strategy
  · by_cases hversion : name = "ver"
    · subst hversion
      by_cases hempty : trimmed value = .str ""
      · have hnull : settled "ver" value = .null := by simp [settled, hempty]
        rw [hnull]
        rfl
      · simp [settled, hempty]
    · by_cases htext : name ∈ ["handle", "src", "deps"]
      · simp only [settled, if_neg hstrategy, if_neg hversion, if_pos htext, trimmed_trimmed]
      · simp only [settled, if_neg hstrategy, if_neg hversion, if_neg htext]

/-- What cannot be looked up is no text, and stays as it is. -/
theorem settled_of_not_hashable
    (h : (settled name value).isHashable = false) :
    settled name value = value := by
  cases value with
  | str s =>
      have hplain : (settled name (.str s)).isHashable = true := by
        unfold settled
        split
        · rfl
        · split
          · split <;> rfl
          · split <;> rfl
      cases h.symm.trans hplain
  | _ =>
      simp [settled, strategyWord, trimmed]

theorem hashable_initial
    (h : initial? name = some value) :
    value.isHashable = true := by
  unfold initial? at h
  split at h
  · cases h
    rfl
  · split at h
    · cases h
      rfl
    · split at h
      · cases h
        rfl
      · cases h

/-- What is put where there is nothing is accepted, and its own normal form. -/
theorem accepted_initial
    (h : initial? name = some value) :
    settled name value = value ∧ Accepted name value := by
  unfold initial? at h
  by_cases hdeps : name = "deps"
  · subst hdeps
    cases h
    exact ⟨by decide, by simp [Accepted, isDependencyValue]⟩
  by_cases hfooter : name = "in_footer"
  · subst hfooter
    cases h
    exact ⟨by decide, by simp [Accepted]⟩
  by_cases hstrategy : name = "strategy"
  · subst hstrategy
    cases h
    exact ⟨strategyWord_word .plain, by simp [Accepted]; decide⟩
  simp [hdeps, hfooter, hstrategy] at h

/-- Data in normal form have no flaw if each of their fields is accepted. -/
theorem flaws_eq_nil_iff (form : Fields) :
    flaws form = [] ↔ ∀ name, Accepted name ((form.value? name).getD .null) := by
  simp only [flaws, List.append_eq_nil_iff]
  constructor
  · rintro ⟨⟨⟨hhandle, hsource⟩, hdeps⟩, hstrategy⟩ name
    refine ⟨?_, ?_, ?_, ?_⟩ <;> rintro rfl
    · by_contra hnot
      simp [hnot] at hhandle
    · by_contra hnot
      simp [hnot] at hsource
    · by_contra hnot
      simp [hnot] at hdeps
    · by_contra hnot
      simp [hnot] at hstrategy
  · intro h
    have hhandle := (h "handle").1 rfl
    have hsource := (h "src").2.1 rfl
    have hdeps := (h "deps").2.2.1 rfl
    have hstrategy := (h "strategy").2.2.2 rfl
    simp [hhandle, hsource, hdeps, hstrategy]

end Acceptance

end Manual
end PageScripts
