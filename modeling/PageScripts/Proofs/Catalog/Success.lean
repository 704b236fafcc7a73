import PageScripts.Proofs.Catalog.Exclusive
import PageScripts.Proofs.Rule.Agreement

/-!
# What an operation that succeeds has found and done

A plan that comes to a result says by it what it has read and what it changes.  For each plan this
is said once, so that laws about operations need not open the plans.

* `found_of_…Plan`: what the operation has found, its result, and its changes.
* `keys_of_dequeuePlan`, `keys_of_deletePlan`: moving and taking out only concern the handles that
  were named.
-/

namespace PageScripts
namespace Catalog

variable {shelves : Shelves}
variable {changes : List Change}

theorem value?_of_sound?
    {records record : Fields}
    {handle : String}
    (h : sound? records handle = some record) :
    records.value? handle = some (.obj record) := by
  obtain ⟨value, hvalue, hfields⟩ := Option.bind_eq_some_iff.mp h
  cases value with
  | obj fields =>
      cases hfields
      exact hvalue
  | _ =>
      cases hfields

theorem mem_of_sound?
    {records record : Fields}
    {handle : String}
    (h : sound? records handle = some record) :
    (handle, Json.obj record) ∈ records :=
  Listing.mem_of_value? (value?_of_sound? h)

theorem sound?_of_mem
    {records record : Fields}
    {handle : String}
    (distinct : Listing.Distinct records)
    (h : (handle, Json.obj record) ∈ records) :
    sound? records handle = some record := by
  unfold sound?
  rw [(Listing.value?_eq_some_iff distinct).mpr h]
  rfl

section Discovery

theorem found_of_recordIfNewPlan
    {script : DiscoveredScript}
    {now : Int}
    {result : Bool}
    (hplan : recordIfNewPlan script now shelves = .ok (result, changes)) :
    changes = [] ∨
      ∃ found, shelves .discovered = .ok found ∧
        changes =
          [.replace .discovered
            (found.put script.handle (.obj { script with found := now }.toRecord))] := by
  obtain ⟨owner, -, hrest⟩ := ok_of_bind hplan
  cases owner with
  | some name =>
      cases hrest
      exact .inl rfl
  | none =>
      obtain ⟨found, hfound, hdone⟩ := ok_of_bind hrest
      cases hdone
      exact .inr ⟨found, hfound, rfl⟩

theorem found_of_crawlPlan
    {site : Site}
    {request : Request}
    {canManage : Option Bool}
    {now : Int}
    {queue : RenderQueue}
    {added : List String}
    (hplan : crawlPlan site request canManage now queue shelves = .ok (added, changes)) :
    changes = [] ∨
      ∃ known found grown,
        shelves .discovered = .ok found ∧
        sightAll site queue known now queue.queued found = .ok (grown, added) ∧
        changes = [.replace .discovered grown] := by
  unfold crawlPlan at hplan
  split at hplan
  · obtain ⟨known, -, hrest⟩ := ok_of_bind hplan
    obtain ⟨found, hfound, hrest⟩ := ok_of_bind hrest
    obtain ⟨⟨grown, sighted⟩, hsight, hdone⟩ := ok_of_bind hrest
    by_cases hempty : sighted.isEmpty = true
    · simp only [hempty] at hdone
      cases hdone
      exact .inl rfl
    · simp only [hempty] at hdone
      cases hdone
      exact .inr ⟨known, found, grown, hfound, hsight, rfl⟩
  · cases hplan
    exact .inl rfl

end Discovery

section Moving

theorem found_of_dequeuePlan
    {handles : Json}
    {now : Int}
    {moved : List String}
    (hplan : dequeuePlan handles now shelves = .ok (moved, changes)) :
    ∃ found removed named left grown,
      shelves .discovered = .ok found ∧
      shelves .removed = .ok removed ∧
      handlesIn handles = .ok named ∧
      moveAll now named found removed = (left, grown, moved) ∧
      (moved = [] ∧ changes = [] ∨
        changes = [.replace .discovered left, .replace .removed grown]) := by
  obtain ⟨found, hfound, hrest⟩ := ok_of_bind hplan
  obtain ⟨removed, hremoved, hrest⟩ := ok_of_bind hrest
  obtain ⟨named, hnamed, hdone⟩ := ok_of_bind hrest
  cases hcome : moveAll now named found removed with
  | mk left rest =>
      obtain ⟨grown, gone⟩ := rest
      rw [hcome] at hdone
      by_cases hempty : gone = []
      · subst hempty
        cases hdone
        exact ⟨found, removed, named, left, grown, hfound, hremoved, hnamed, hcome,
          .inl ⟨rfl, rfl⟩⟩
      · have hfull : gone.isEmpty = false := List.isEmpty_eq_false_iff.mpr hempty
        simp only [hfull] at hdone
        cases hdone
        exact ⟨found, removed, named, left, grown, hfound, hremoved, hnamed, hcome, .inr rfl⟩

theorem found_of_deletePlan
    {name : CatalogName}
    {handles : Json}
    {taken : List String}
    (hplan : deletePlan name handles shelves = .ok (taken, changes)) :
    ∃ all named left,
      shelves name = .ok all ∧
      handlesIn handles = .ok named ∧
      takeOut named all = (left, taken) ∧
      (taken = [] ∧ changes = [] ∨ changes = [.replace name left]) := by
  obtain ⟨all, hall, hrest⟩ := ok_of_bind hplan
  obtain ⟨named, hnamed, hdone⟩ := ok_of_bind hrest
  cases hcome : takeOut named all with
  | mk left gone =>
      rw [hcome] at hdone
      by_cases hempty : gone = []
      · subst hempty
        cases hdone
        exact ⟨all, named, left, hall, hnamed, hcome, .inl ⟨rfl, rfl⟩⟩
      · have hfull : gone.isEmpty = false := List.isEmpty_eq_false_iff.mpr hempty
        simp only [hfull] at hdone
        cases hdone
        exact ⟨all, named, left, hall, hnamed, hcome, .inr rfl⟩

/-- Only handles that were named are moved. -/
theorem keys_of_moveAll
    (now : Int)
    (named : List String)
    (found removed : Fields) :
    ∀ handle ∈ (moveAll now named found removed).2.2, handle ∈ named := by
  induction named generalizing found removed with
  | nil =>
      exact fun _ h => h
  | cons first rest ih =>
      intro handle h
      cases hsound : sound? found first with
      | none =>
          simp only [moveAll, hsound] at h
          exact List.mem_cons_of_mem first (ih found removed handle h)
      | some record =>
          simp only [moveAll, hsound] at h
          rcases List.mem_cons.mp h with rfl | h
          · exact List.mem_cons_self
          · exact List.mem_cons_of_mem first (ih _ _ handle h)

/-- Only handles that were named are taken out. -/
theorem keys_of_takeOut
    (named : List String)
    (records : Fields) :
    ∀ handle ∈ (takeOut named records).2, handle ∈ named := by
  intro handle h
  rw [handles_takeOut, List.mem_eraseDups, List.mem_filter] at h
  exact h.1

/-- So what is reported to be moved was named. -/
theorem keys_of_dequeuePlan
    {handles : Json}
    {now : Int}
    {moved : List String}
    (hplan : dequeuePlan handles now shelves = .ok (moved, changes)) :
    ∃ named, handlesIn handles = .ok named ∧ ∀ handle ∈ moved, handle ∈ named := by
  obtain ⟨found, removed, named, left, grown, -, -, hnamed, hcome, -⟩ :=
    found_of_dequeuePlan hplan
  have hkeys := keys_of_moveAll now named found removed
  rw [hcome] at hkeys
  exact ⟨named, hnamed, hkeys⟩

theorem keys_of_deletePlan
    {name : CatalogName}
    {handles : Json}
    {taken : List String}
    (hplan : deletePlan name handles shelves = .ok (taken, changes)) :
    ∃ named, handlesIn handles = .ok named ∧ ∀ handle ∈ taken, handle ∈ named := by
  obtain ⟨all, named, left, -, hnamed, hcome, -⟩ := found_of_deletePlan hplan
  have hkeys := keys_of_takeOut named all
  rw [hcome] at hkeys
  exact ⟨named, hnamed, hkeys⟩

end Moving

section Manual

theorem found_of_registerManualPlan
    {data : Json}
    {queue : Option RenderQueue}
    {now : Int}
    {result : String}
    (hplan : registerManualPlan data queue now shelves = .ok (result, changes)) :
    ∃ form manual,
      validForm data = .ok form ∧
      shelves .manual = .ok manual ∧
      result = (Record.field "handle" form).display ∧
      changes = [.replace .manual (manual.put result (.obj (addedRecord form now)))] := by
  obtain ⟨form, hform, hrest⟩ := ok_of_bind hplan
  obtain ⟨_, -, hrest⟩ := ok_of_bind hrest
  obtain ⟨manual, hmanual, hdone⟩ := ok_of_bind hrest
  cases hdone
  exact ⟨form, manual, hform, hmanual, rfl, rfl⟩

theorem found_of_updateManualPlan
    {handle : String}
    {fields : Fields}
    {now : Int}
    {result : Fields}
    (hplan : updateManualPlan handle fields now shelves = .ok (result, changes)) :
    ∃ manual current form,
      shelves .manual = .ok manual ∧
      sound? manual handle = some current ∧
      validForm (.obj (((editable current).putAll fields).put "handle" (.str handle))) =
        .ok form ∧
      changes = [.replace .manual (manual.put handle (.obj (editedRecord current form now)))] := by
  unfold updateManualPlan at hplan
  simp only at hplan
  split at hplan
  · cases hplan
  · obtain ⟨manual, hmanual, hrest⟩ := ok_of_bind hplan
    cases hsound : sound? manual handle with
    | none =>
        simp only [hsound] at hrest
        cases hrest
    | some current =>
        simp only [hsound] at hrest
        obtain ⟨form, hform, hdone⟩ := ok_of_bind hrest
        cases hdone
        exact ⟨manual, current, form, hmanual, hsound, hform, rfl⟩

end Manual

section Rules

variable {name : CatalogName}
variable {handle : String}

theorem managedName_name (catalog : ManagedCatalog) :
    managedName catalog.name = .ok catalog := by
  cases catalog <;> rfl

theorem managedName_eq_ok
    {catalog : ManagedCatalog}
    (h : managedName name = .ok catalog) :
    name = catalog.name := by
  cases name with
  | discovered =>
      cases h
  | removed | manual =>
      cases h
      rfl

/-- A payload without a flaw is an object. -/
theorem fields_of_isValid
    {m : Type → Type}
    {γ : Type}
    {registry : Registry m γ}
    {payload : Json}
    (h : (checkRules registry payload).isValid = true) :
    ∃ fields, payload = .obj fields := by
  cases payload with
  | obj fields =>
      exact ⟨fields, rfl⟩
  | _ =>
      cases h

theorem found_of_setRulesPlan
    {m : Type → Type}
    {γ : Type}
    {registry : Registry m γ}
    {payload : Json}
    {result : RuleSet}
    (hplan : setRulesPlan registry name handle payload shelves = .ok (result, changes)) :
    ∃ (catalog : ManagedCatalog) (fields all record : Fields),
      name = catalog.name ∧
      payload = .obj fields ∧
      (checkRules registry (.obj fields)).isValid = true ∧
      result = normalRuleSet fields ∧
      shelves catalog.name = .ok all ∧
      sound? all handle = some record ∧
      changes =
        [.replace catalog.name
          (all.put handle (.obj (record.put "rules" (.obj (normalRuleSet fields).wire))))] := by
  obtain ⟨catalog, hcatalog, hrest⟩ := ok_of_bind hplan
  obtain ⟨⟨all, record⟩, hview, hdone⟩ := ok_of_bind hrest
  obtain ⟨hall, hsound⟩ := managedRecordView_eq_ok hview
  simp only at hdone
  split at hdone
  · next hvalid =>
      obtain ⟨fields, rfl⟩ := fields_of_isValid hvalid
      cases hdone
      exact ⟨catalog, fields, all, record, managedName_eq_ok hcatalog, rfl, hvalid, rfl, hall,
        hsound, rfl⟩
  · cases hdone

theorem found_of_clearRulesPlan
    {result : Unit}
    (hplan : clearRulesPlan name handle shelves = .ok (result, changes)) :
    ∃ (catalog : ManagedCatalog) (all record : Fields),
      name = catalog.name ∧
      shelves catalog.name = .ok all ∧
      sound? all handle = some record ∧
      changes = [.replace catalog.name (all.put handle (.obj (record.without "rules")))] := by
  obtain ⟨catalog, hcatalog, hrest⟩ := ok_of_bind hplan
  obtain ⟨⟨all, record⟩, hview, hdone⟩ := ok_of_bind hrest
  obtain ⟨hall, hsound⟩ := managedRecordView_eq_ok hview
  cases hdone
  exact ⟨catalog, all, record, managedName_eq_ok hcatalog, hall, hsound, rfl⟩

end Rules

end Catalog
end PageScripts
