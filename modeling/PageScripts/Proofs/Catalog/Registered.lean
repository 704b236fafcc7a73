import PageScripts.Proofs.Catalog.Stamped
import PageScripts.Proofs.Script.Form

/-!
# The records of manual scripts

The data of a manual script are checked in normal form before they are stored, and so they are whenever
the script is edited.  Whatever stands in the manual catalog is therefore accepted and its own normal
form.

* `validForm_eq_ok_iff`: data are valid if each field of their normal form is accepted.
* `settled_of_validForm`, `complete_of_validForm`, `handle_of_validForm`: what valid forms have.
* `Registered`: how the record of a manual script looks; `registered_run` says that it does so after
  every run from the empty store.
-/

namespace PageScripts

open Catalog

section Defs

/-- The record of a manual script, as operations leave it under its handle.  Its fields are accepted
and in normal form, those with an initial value are there, it has a time of addition, and there is
nothing in it but fields, rules and times. -/
structure Registered
    (handle : String)
    (record : Fields) : Prop where
  isHandle : isHandle handle = true
  trimmed : Text.trim handle = handle
  settled : ∀ name ∈ manualFields, ∀ value, record.value? name = some value →
    Manual.settled name value = value
  accepted : ∀ name ∈ manualFields, Manual.Accepted name ((record.value? name).getD .null)
  complete : ∀ name, (Manual.initial? name).isSome = true → (record.value? name).isSome = true
  stamped : ManagedCatalog.manual.Stamps record
  nothingElse : ∀ name value, record.value? name = some value →
    name ∈ manualFields ∨ name ∈ ["rules", ManagedCatalog.manual.timeKey, "updated_on"]

/-- The value is the record of a manual script, if it stands in their catalog. -/
def Enrolled
    (name : CatalogName)
    (handle : String)
    (value : Json) : Prop :=
  name = .manual → ∃ record, value = .obj record ∧ Registered handle record

end Defs

section Forms

theorem initial?_mem_manualFields
    {name : String}
    (h : (Manual.initial? name).isSome = true) :
    name ∈ manualFields := by
  unfold Manual.initial? at h
  split at h
  · next hname =>
      subst hname
      decide
  · split at h
    · next hname =>
        subst hname
        decide
    · split at h
      · next hname =>
          subst hname
          decide
      · cases h

/-- Only four fields have to be accepted. -/
theorem accepted_of_not_mem
    {name : String}
    (hhandle : name ≠ "handle")
    (hfield : name ∉ manualFields)
    (value : Json) :
    Manual.Accepted name value := by
  refine ⟨fun h => absurd h hhandle, ?_, ?_, ?_⟩ <;> rintro rfl <;>
    exact absurd (by decide) hfield

/-- Data are valid exactly if each field of their normal form is accepted. -/
theorem validForm_eq_ok_iff {data form : Fields} :
    validForm (.obj data) = .ok form ↔
      form = Manual.normalFields data ∧
      ∀ name, Manual.Accepted name ((form.value? name).getD .null) := by
  unfold validForm Manual.check
  simp only
  generalize Manual.normalFields data = normal
  have hvalid := Manual.flaws_eq_nil_iff normal
  cases hhash : ((normal.value? "strategy").getD .null).isHashable with
  | true =>
      by_cases hnone : Manual.flaws normal = []
      · simp only [if_true, bind, Except.bind, Report.isValid, hnone, List.isEmpty_nil]
        constructor
        · rintro ⟨⟩
          exact ⟨rfl, hvalid.mp hnone⟩
        · rintro ⟨rfl, -⟩
          rfl
      · simp only [if_true, bind, Except.bind, Report.isValid, List.isEmpty_iff, if_neg hnone]
        refine iff_of_false (fun h => by cases h) ?_
        rintro ⟨rfl, haccepted⟩
        exact hnone (hvalid.mpr haccepted)
  | false =>
      refine iff_of_false (fun h => by cases h) ?_
      rintro ⟨rfl, haccepted⟩
      -- The word for a strategy can be looked up.
      obtain ⟨strategy, hword⟩ :=
        Manual.word_of_isStrategyValue ((haccepted "strategy").2.2.2 rfl)
      rw [hword] at hhash
      cases hhash

/-- Valid data are an object. -/
theorem fields_of_validForm
    {data : Json}
    {form : Fields}
    (h : validForm data = .ok form) :
    ∃ fields, data = .obj fields := by
  cases data with
  | obj fields =>
      exact ⟨fields, rfl⟩
  | _ =>
      cases h

variable {data form : Fields}

/-- Valid forms have nothing but what is its own normal form. -/
theorem settled_of_validForm
    (hform : validForm (.obj data) = .ok form)
    {name : String}
    {value : Json}
    (hvalue : form.value? name = some value) :
    Manual.settled name value = value := by
  obtain ⟨rfl, haccepted⟩ := validForm_eq_ok_iff.mp hform
  have hname := haccepted name
  rw [hvalue, Option.getD_some] at hname
  rw [Manual.value?_normalFields] at hvalue
  cases hgiven : data.value? name with
  | none =>
      rw [hgiven] at hvalue
      exact (Manual.accepted_initial hvalue).1
  | some given =>
      rw [hgiven] at hvalue
      obtain rfl : Manual.settled name given = value := Option.some.inj hvalue
      exact Manual.settled_of_accepted hname

theorem complete_of_validForm
    (hform : validForm (.obj data) = .ok form)
    {name : String}
    (hinitial : (Manual.initial? name).isSome = true) :
    (form.value? name).isSome = true := by
  obtain ⟨rfl, -⟩ := validForm_eq_ok_iff.mp hform
  rw [Manual.value?_normalFields]
  cases data.value? name <;> simp [hinitial]

/-- The handle of a valid form is the name of a script, without blanks. -/
theorem handle_of_validForm
    (hform : validForm (.obj data) = .ok form) :
    isHandle (Record.field "handle" form).display = true ∧
    Text.trim (Record.field "handle" form).display = (Record.field "handle" form).display := by
  obtain ⟨-, haccepted⟩ := validForm_eq_ok_iff.mp hform
  have hhandle : Manual.isHandleValue ((form.value? "handle").getD .null) = true :=
    (haccepted "handle").1 rfl
  unfold Record.field
  cases hvalue : form.value? "handle" with
  | none =>
      rw [hvalue] at hhandle
      cases hhandle
  | some value =>
      rw [hvalue, Option.getD_some] at hhandle
      have hsettled := settled_of_validForm hform hvalue
      cases value with
      | str s =>
          refine ⟨hhandle, ?_⟩
          simpa [Manual.settled, Manual.trimmed, Json.display] using hsettled
      | _ =>
          cases hhandle

end Forms

section Records

variable {handle : String}
variable {record data form : Fields}

/-- The fields stand under other names than all else in a record. -/
theorem ne_of_mem_manualFields
    {name : String}
    (h : name ∈ manualFields) :
    name ≠ "updated_on" ∧ name ≠ ManagedCatalog.manual.timeKey ∧ name ≠ "rules" ∧
      name ≠ "handle" := by
  refine ⟨?_, ?_, ?_, ?_⟩ <;> rintro rfl <;> exact absurd h (by decide)

theorem field_addedRecord
    {name : String}
    (h : name ∈ manualFields)
    (form : Fields)
    (now : Int) :
    (addedRecord form now).value? name = form.value? name := by
  obtain ⟨-, htime, -, -⟩ := ne_of_mem_manualFields h
  rw [value?_addedRecord, if_neg htime, if_pos h]

theorem field_editedRecord
    {name : String}
    (h : name ∈ manualFields)
    (current form : Fields)
    (now : Int) :
    (editedRecord current form now).value? name = form.value? name := by
  obtain ⟨hupdated, htime, hrules, -⟩ := ne_of_mem_manualFields h
  rw [value?_editedRecord, if_neg hupdated, if_neg htime, if_neg hrules, if_pos h]

/-- A record with the fields of a valid form is one of a manual script. -/
theorem registered_of_form
    (hform : validForm (.obj data) = .ok form)
    (hhandle : isHandle handle = true)
    (htrimmed : Text.trim handle = handle)
    (hfields : ∀ name ∈ manualFields, record.value? name = form.value? name)
    (hstamped : ManagedCatalog.manual.Stamps record)
    (hnothing : ∀ name value, record.value? name = some value →
      name ∈ manualFields ∨ name ∈ ["rules", ManagedCatalog.manual.timeKey, "updated_on"]) :
    Registered handle record where
  isHandle := hhandle
  trimmed := htrimmed
  settled := by
    intro name hname value hvalue
    rw [hfields name hname] at hvalue
    exact settled_of_validForm hform hvalue
  accepted := by
    intro name hname
    rw [hfields name hname]
    exact (validForm_eq_ok_iff.mp hform).2 name
  complete := by
    intro name hinitial
    rw [hfields name (initial?_mem_manualFields hinitial)]
    exact complete_of_validForm hform hinitial
  stamped := hstamped
  nothingElse := hnothing

/-- A change to the rules leaves such a record. -/
theorem registered_of_rules
    {changed : Fields}
    (h : Registered handle record)
    (hsame : ∀ name, name ≠ "rules" → changed.value? name = record.value? name) :
    Registered handle changed := by
  have hfields : ∀ name ∈ manualFields, changed.value? name = record.value? name :=
    fun name hname => hsame name (ne_of_mem_manualFields hname).2.2.1
  refine ⟨h.isHandle, h.trimmed, ?_, ?_, ?_, ?_, ?_⟩
  · intro name hname value hvalue
    exact h.settled name hname value ((hfields name hname).symm.trans hvalue)
  · intro name hname
    rw [hfields name hname]
    exact h.accepted name hname
  · intro name hinitial
    rw [hfields name (initial?_mem_manualFields hinitial)]
    exact h.complete name hinitial
  · obtain ⟨time, htime⟩ := h.stamped
    exact ⟨time, (hsame _ ManagedCatalog.manual.timeKey_ne_rules).trans htime⟩
  · intro name value hvalue
    by_cases hname : name = "rules"
    · exact .inr (by simp [hname])
    · exact h.nothingElse name value ((hsame name hname).symm.trans hvalue)

theorem registered_addedRecord
    (hform : validForm (.obj data) = .ok form)
    (now : Int) :
    Registered (Record.field "handle" form).display (addedRecord form now) := by
  obtain ⟨hhandle, htrimmed⟩ := handle_of_validForm hform
  refine registered_of_form hform hhandle htrimmed
    (fun name hname => field_addedRecord hname form now) ⟨now, ?_⟩ ?_
  · rw [value?_addedRecord, if_pos rfl]
  · intro name value hvalue
    rw [value?_addedRecord] at hvalue
    split at hvalue
    · next hname =>
        exact .inr (by simp [hname])
    · split at hvalue
      · next hname =>
          exact .inl hname
      · cases hvalue

theorem registered_editedRecord
    {current : Fields}
    (h : Registered handle current)
    (hform : validForm (.obj data) = .ok form)
    (now : Int) :
    Registered handle (editedRecord current form now) := by
  refine registered_of_form hform h.isHandle h.trimmed
    (fun name hname => field_editedRecord hname current form now) ?_ ?_
  · obtain ⟨time, htime⟩ := h.stamped
    have hkey : ManagedCatalog.manual.timeKey ≠ "updated_on" := by decide
    exact ⟨time, by simp [value?_editedRecord, hkey, htime]⟩
  · intro name value hvalue
    by_cases hname : name ∈ manualFields
    · exact .inl hname
    · refine .inr ?_
      rw [value?_editedRecord] at hvalue
      by_contra hother
      simp only [List.mem_cons, List.not_mem_nil, or_false, not_or] at hother
      simp [hother, hname] at hvalue

variable {holdings : Holdings}
variable {operation : Operation}
variable {name : CatalogName}

theorem Holdings.Tidy.registered
    (h : holdings.Tidy Enrolled)
    (hmem : (handle, .obj record) ∈ holdings .manual) :
    Registered handle record := by
  obtain ⟨_, heq, hregistered⟩ := (h .manual).good handle (.obj record) hmem rfl
  cases heq
  exact hregistered

/-- Operations write such records of manual scripts. -/
theorem enrolled_of_brings
    (h : holdings.Tidy Enrolled)
    {value : Json}
    (hbrings : Brings holdings.shelves operation name handle value) :
    Enrolled name handle value := by
  intro hname
  cases hbrings with
  | noted script now | sighted handle script | rendered handle script =>
      cases hname
  | moved hfound hrecord =>
      cases hname
  | @added data queue now form hform =>
      obtain ⟨fields, rfl⟩ := fields_of_validForm hform
      exact ⟨_, rfl, registered_addedRecord hform now⟩
  | @edited handle fields now manual current form hmanual hcurrent hform =>
      obtain rfl := Except.ok.inj hmanual
      exact ⟨_, rfl, registered_editedRecord (h.registered hcurrent) hform now⟩
  | @ruled _ _ _ catalog _ _ _ _ hall hrecord hvalid =>
      obtain rfl : catalog = .manual := ManagedCatalog.name_injective hname
      obtain rfl := Except.ok.inj hall
      refine ⟨_, rfl, registered_of_rules (h.registered hrecord) fun other hother => ?_⟩
      rw [Listing.value?_put, if_neg (Ne.symm hother)]
  | @cleared catalog _ _ _ hall hrecord =>
      obtain rfl : catalog = .manual := ManagedCatalog.name_injective hname
      obtain rfl := Except.ok.inj hall
      refine ⟨_, rfl, registered_of_rules (h.registered hrecord) fun other hother => ?_⟩
      rw [Listing.value?_without, if_neg (Ne.symm hother)]

theorem registered_run (operations : List Operation) :
    (Holdings.empty.run operations).Tidy Enrolled :=
  Holdings.tidy_run fun _ _ _ h _ _ _ hbrings => enrolled_of_brings h hbrings

end Records

end PageScripts
