import PageScripts.Proofs.Catalog.Registered

/-!
# Edits change what they are asked to change

A manual script is edited by putting its record together anew, out of its old fields and those that
are given, in normal form and checked again.  What is not given is nevertheless left, for everything
that stands in the record of a manual script is accepted and its own normal form.

**Edits.**
* `value?_editedForm`: the form of an edit has the given fields as they are stored, and the others as
  they were.
* `updateManualPlan_eq_ok_iff`: an edit succeeds exactly if the fields are known and their values
  accepted; `value?_editedTo` says what then stands in the record.

**Sessions.**  `entered_of_registerManual`: what a registration stores of a value.

**Result.**  `update_changes_only`.
-/

namespace PageScripts

open Catalog

section Defs

/-- A field that can be edited, with a value that is accepted for it once it is in normal form. -/
def Editable
    (name : String)
    (value : Json) : Prop :=
  name ∈ manualFields ∧ Manual.Accepted name (Manual.settled name value)

instance (name : String) (value : Json) : Decidable (Editable name value) :=
  inferInstanceAs (Decidable (_ ∧ _))

/-- An edit has turned one record into another.  The fields that are given stand in it as they are
stored, which is how they stand in the record of every script that is registered with them; the time
of the edit is there; and all else is as it was, in the record, in the catalog and in the store. -/
structure Edited
    (before after : Session)
    (handle : String)
    (fields : Fields)
    (now : Int)
    (records current record : Fields) : Prop where
  given : ∀ name value, (name, value) ∈ fields →
    record.value? name = some (Manual.settled name value)
  asRegistered : ∀ name value, (name, value) ∈ fields →
    ∀ (session : Session) (data : Fields) (queue : Option RenderQueue) (time : Int)
      (added : String),
      let entered := (registerManual (.obj data) queue time).run session
      data.value? name = some value → entered.1 = .ok added →
      ∃ manual fresh : Fields, entered.2.shelves .manual = .ok manual ∧
        manual.value? added = some (.obj fresh) ∧ fresh.value? name = record.value? name
  kept : ∀ name ∉ fields.keys, name ≠ "updated_on" → record.value? name = current.value? name
  updated : record.value? "updated_on" = some (.int now)
  stored : ∃ left, after.shelves .manual = .ok left ∧ left.keys = records.keys ∧
    left.value? handle = some (.obj record) ∧
    ∀ other, other ≠ handle → left.value? other = records.value? other
  catalogs : ∀ name, name ≠ .manual → after.shelves name = before.shelves name
  options : ∀ option, option ≠ CatalogName.manual.option →
    after.options.value? option = before.options.value? option

end Defs

section Edits

variable {handle : String}
variable {fields current : Fields}

/-- The data of an edit: the fields that the record has, and over them those that are given. -/
def editedData
    (handle : String)
    (fields current : Fields) : Fields :=
  ((editable current).putAll fields).put "handle" (.str handle)

theorem value?_editedData
    (distinct : Listing.Distinct fields)
    {name : String}
    (hname : name ∈ manualFields) :
    (editedData handle fields current).value? name =
      (fields.value? name).or (current.value? name) := by
  have hhandle := (ne_of_mem_manualFields hname).2.2.2
  rw [editedData, Listing.value?_put, if_neg (Ne.symm hhandle), Listing.value?_putAll distinct,
    value?_editable, if_pos hname]

/-- The form of an edit: what is given as it is stored, and all else as it was. -/
theorem value?_editedForm
    (distinct : Listing.Distinct fields)
    (registered : Registered handle current)
    {name : String}
    (hname : name ∈ manualFields) :
    (Manual.normalFields (editedData handle fields current)).value? name =
      ((fields.value? name).map (Manual.settled name)).or (current.value? name) := by
  rw [Manual.value?_normalFields, value?_editedData distinct hname]
  cases hgiven : fields.value? name with
  | some value =>
      rfl
  | none =>
      simp only [Option.none_or, Option.map_none]
      cases hcurrent : current.value? name with
      | some value =>
          rw [Option.map_some, registered.settled name hname value hcurrent]
          rfl
      | none =>
          -- A field with an initial value would be there.
          have hmissing := mt (registered.complete name)
          rw [hcurrent] at hmissing
          simpa using hmissing

/-- An edit is valid exactly if the values that are given are accepted. -/
theorem validForm_editedData_iff
    (distinct : Listing.Distinct fields)
    (registered : Registered handle current)
    (hknown : ∀ name ∈ fields.keys, name ∈ manualFields) :
    (∀ name, Manual.Accepted name
        (((Manual.normalFields (editedData handle fields current)).value? name).getD .null)) ↔
      ∀ name value, (name, value) ∈ fields → Editable name value := by
  constructor
  · intro haccepted name value hmem
    have hname := hknown name (Listing.mem_keys_of_mem hmem)
    have hvalue := haccepted name
    rw [value?_editedForm distinct registered hname,
      (Listing.value?_eq_some_iff distinct).mpr hmem] at hvalue
    exact ⟨hname, hvalue⟩
  · intro heditable name
    by_cases hname : name ∈ manualFields
    · rw [value?_editedForm distinct registered hname]
      cases hgiven : fields.value? name with
      | some value =>
          exact (heditable name value (Listing.mem_of_value? hgiven)).2
      | none =>
          exact registered.accepted name hname
    · by_cases hhandle : name = "handle"
      · subst hhandle
        have hvalue : (editedData handle fields current).value? "handle" = some (.str handle) := by
          rw [editedData, Listing.value?_put, if_pos rfl]
        rw [Manual.value?_normalFields, hvalue]
        simp [Manual.settled, Manual.trimmed, registered.trimmed, Manual.Accepted,
          Manual.isHandleValue, registered.isHandle]
      · exact accepted_of_not_mem hhandle hname _

variable {shelves : Shelves}
variable {manual : Fields}

/-- An edit of known fields comes to its form, if that is valid. -/
theorem updateManualPlan_eq
    (hmanual : shelves .manual = .ok manual)
    (hcurrent : sound? manual handle = some current)
    (hknown : ∀ name ∈ fields.keys, name ∈ manualFields)
    (now : Int) :
    updateManualPlan handle fields now shelves =
      (validForm (.obj (editedData handle fields current))).map fun form =>
        (editedRecord current form now,
          [.replace .manual (manual.put handle (.obj (editedRecord current form now)))]) := by
  have hnone : (fields.keys.filter fun name => !manualFields.contains name) = [] := by
    refine List.filter_eq_nil_iff.mpr fun name hname => ?_
    simpa using hknown name hname
  unfold updateManualPlan editedData
  simp only [hnone, hmanual, hcurrent, bind, Except.bind, List.isEmpty_nil, Bool.not_true]
  cases validForm (.obj (((editable current).putAll fields).put "handle" (.str handle))) <;> rfl

/-- An edit that succeeds has known fields only. -/
theorem known_of_updateManualPlan
    {now : Int}
    {come : Outcome Fields}
    (hplan : updateManualPlan handle fields now shelves = .ok come) :
    ∀ name ∈ fields.keys, name ∈ manualFields := by
  unfold updateManualPlan at hplan
  simp only at hplan
  split at hplan
  · cases hplan
  · next hunknown =>
      simpa using hunknown

/-- The record of an edit, if all that is given is accepted. -/
def editedTo
    (handle : String)
    (fields current : Fields)
    (now : Int) : Fields :=
  editedRecord current (Manual.normalFields (editedData handle fields current)) now

/-- An edit succeeds exactly if the fields are known and their values are accepted. -/
theorem updateManualPlan_eq_ok_iff
    (hmanual : shelves .manual = .ok manual)
    (hcurrent : sound? manual handle = some current)
    (distinct : Listing.Distinct fields)
    (registered : Registered handle current)
    (now : Int)
    (come : Outcome Fields) :
    updateManualPlan handle fields now shelves = .ok come ↔
      (∀ name value, (name, value) ∈ fields → Editable name value) ∧
      come = (editedTo handle fields current now,
        [.replace .manual (manual.put handle (.obj (editedTo handle fields current now)))]) := by
  constructor
  · intro hplan
    have hknown := known_of_updateManualPlan hplan
    rw [updateManualPlan_eq hmanual hcurrent hknown] at hplan
    obtain ⟨form, hform, rfl⟩ := ok_of_map hplan
    obtain ⟨rfl, haccepted⟩ := validForm_eq_ok_iff.mp hform
    exact ⟨(validForm_editedData_iff distinct registered hknown).mp haccepted, rfl⟩
  · rintro ⟨heditable, rfl⟩
    have hknown : ∀ name ∈ fields.keys, name ∈ manualFields := by
      intro name hname
      obtain ⟨value, hmem⟩ := Listing.mem_of_mem_keys hname
      exact (heditable name value hmem).1
    have hform := validForm_eq_ok_iff.mpr
      ⟨rfl, (validForm_editedData_iff distinct registered hknown).mpr heditable⟩
    rw [updateManualPlan_eq hmanual hcurrent hknown, hform]
    rfl

/-- What is not given is as it was, but for the time of the edit. -/
theorem value?_editedTo
    (distinct : Listing.Distinct fields)
    (registered : Registered handle current)
    (hknown : ∀ name ∈ fields.keys, name ∈ manualFields)
    (now : Int)
    (name : String) :
    (editedTo handle fields current now).value? name =
      if name = "updated_on" then some (.int now)
      else ((fields.value? name).map (Manual.settled name)).or (current.value? name) := by
  by_cases hname : name ∈ manualFields
  · rw [if_neg (ne_of_mem_manualFields hname).1, editedTo, field_editedRecord hname,
      value?_editedForm distinct registered hname]
  · have hgiven : fields.value? name = none :=
      (Listing.value?_eq_none_iff name fields).mpr (mt (hknown name) hname)
    rw [editedTo, value?_editedRecord, hgiven, Option.map_none, Option.none_or]
    by_cases hupdated : name = "updated_on"
    · rw [if_pos hupdated, if_pos hupdated]
    by_cases htime : name = ManagedCatalog.manual.timeKey
    · obtain ⟨time, hstamp⟩ := registered.stamped
      rw [if_neg hupdated, if_neg hupdated, if_pos htime, htime, hstamp, Option.getD_some]
    by_cases hrules : name = "rules"
    · rw [if_neg hupdated, if_neg hupdated, if_neg htime, if_pos hrules, hrules]
    · -- There is nothing else in the record.
      have hnone : current.value? name = none := by
        refine Option.eq_none_iff_forall_ne_some.mpr fun value hvalue => ?_
        have hsomething := registered.nothingElse name value hvalue
        simp [hname, hrules, htime, hupdated] at hsomething
      rw [if_neg hupdated, if_neg hupdated, if_neg htime, if_neg hrules, if_neg hname, hnone]

end Edits

section Sessions

variable {session : Session}

/-- A script that is registered gets what it is registered with, as it is stored. -/
theorem entered_of_registerManual
    {data : Fields}
    {queue : Option RenderQueue}
    {now : Int}
    {added name : String}
    {value : Json}
    (hname : name ∈ manualFields)
    (hvalue : data.value? name = some value)
    (hentered : ((registerManual (.obj data) queue now).run session).1 = .ok added) :
    ∃ manual record : Fields,
      ((registerManual (.obj data) queue now).run session).2.shelves .manual = .ok manual ∧
      manual.value? added = some (.obj record) ∧
      record.value? name = some (Manual.settled name value) := by
  have hfollows := follows_registerManual (.obj data) queue now
  obtain ⟨reads, notices, -, hrun⟩ := hfollows session
  rw [hrun] at hentered
  obtain ⟨changes, hplan⟩ := Session.ok_of_settle hentered
  obtain ⟨form, manual, hform, hmanual, -, rfl⟩ := found_of_registerManualPlan hplan
  obtain ⟨-, hshelves, -⟩ := run_of_replace hfollows (Session.intact_of_shelf hmanual) hplan
  obtain ⟨rfl, -⟩ := validForm_eq_ok_iff.mp hform
  let record := addedRecord (Manual.normalFields data) now
  refine ⟨manual.put added (.obj record), record, ?_, ?_, ?_⟩
  · rw [hshelves]
    exact if_pos rfl
  · rw [Listing.value?_put, if_pos rfl]
  · rw [field_addedRecord hname, Manual.value?_normalFields, hvalue]
    rfl

variable {records current : Fields}
variable {handle : String}
variable {fields : Fields}

/-- An edit that succeeds has changed what it was asked to change. -/
theorem edited_of_updateManual
    (hrecords : session.shelves .manual = .ok records)
    (hcurrent : sound? records handle = some current)
    (registered : Registered handle current)
    (distinct : Listing.Distinct fields)
    {now : Int}
    {record : Fields}
    (hdone : ((updateManual handle fields now).run session).1 = .ok record) :
    Edited session ((updateManual handle fields now).run session).2 handle fields now records
      current record := by
  have hfollows := follows_updateManual handle fields now
  obtain ⟨reads, notices, -, hrun⟩ := hfollows session
  have hsettled := hdone
  rw [hrun] at hsettled
  obtain ⟨changes, hplan⟩ := Session.ok_of_settle hsettled
  obtain ⟨heditable, hcome⟩ :=
    (updateManualPlan_eq_ok_iff hrecords hcurrent distinct registered now _).mp hplan
  cases hcome
  have hknown := known_of_updateManualPlan hplan
  have hvalue := value?_editedTo distinct registered hknown now
  have hgiven : ∀ name value, (name, value) ∈ fields →
      (editedTo handle fields current now).value? name = some (Manual.settled name value) := by
    intro name value hmem
    have hname := (heditable name value hmem).1
    rw [hvalue, if_neg (ne_of_mem_manualFields hname).1,
      (Listing.value?_eq_some_iff distinct).mpr hmem]
    rfl
  obtain ⟨-, hshelves, hoptions⟩ :=
    run_of_replace hfollows (Session.intact_of_shelf hrecords) hplan
  refine
    { given := hgiven
      asRegistered := ?_
      kept := ?_
      updated := (hvalue "updated_on").trans (if_pos rfl)
      stored := ⟨_, (congrFun hshelves .manual).trans (if_pos rfl), ?_, ?_, ?_⟩
      catalogs := fun name hname => (congrFun hshelves name).trans (if_neg hname)
      options := hoptions }
  · intro name value hmem other data queue time added entered hdata hentered
    obtain ⟨manual, fresh, hmanual, hfresh, hname⟩ :=
      entered_of_registerManual (heditable name value hmem).1 hdata hentered
    exact ⟨manual, fresh, hmanual, hfresh, hname.trans (hgiven name value hmem).symm⟩
  · intro name hname hupdated
    rw [hvalue, if_neg hupdated, (Listing.value?_eq_none_iff name fields).mpr hname,
      Option.map_none, Option.none_or]
  · rw [Listing.keys_put, if_pos (Listing.mem_keys_of_mem (mem_of_sound? hcurrent))]
  · rw [Listing.value?_put, if_pos rfl]
  · intro other hother
    rw [Listing.value?_put, if_neg (Ne.symm hother)]

end Sessions

section Result

variable {medium : Medium}
variable {operations : List Operation}
variable {records fields : Fields}
variable {handle : String}

/-- Edits change what they are asked to change.  After every run from the empty store let a manual
script be edited.
* The edit succeeds exactly if each field that is given can be edited and its value is accepted.
* Then the fields that are given are in the record as they are stored, the time of the edit is in it,
  and everything else is as it was.
* If the edit ends in a fault, it has only read. -/
theorem update_changes_only
    (hrecords : (({ medium } : Session).run operations).shelves .manual = .ok records)
    (hhandle : handle ∈ records.keys)
    (distinct : Listing.Distinct fields)
    (now : Int) :
    let session := ({ medium } : Session).run operations
    let done := (updateManual handle fields now).run session
    ∃ current, records.value? handle = some (.obj current) ∧
      ((∃ record, done.1 = .ok record) ↔
        ∀ name value, (name, value) ∈ fields → Editable name value) ∧
      (∀ record, done.1 = .ok record →
        Edited session done.2 handle fields now records current record) ∧
      ∀ fault, done.1 = .error fault → session.ReadFrom done.2 := by
  intro session done
  obtain ⟨-, rfl⟩ := holdings_of_run hrecords
  obtain ⟨value, hvalue⟩ := Listing.exists_value?_of_mem_keys hhandle
  have hmem := Listing.mem_of_value? hvalue
  have htidy := registered_run operations
  obtain ⟨current, rfl, registered⟩ := (htidy .manual).good handle value hmem rfl
  have hcurrent := sound?_of_mem (htidy .manual).distinct hmem
  have hintact := Session.intact_of_shelf hrecords
  obtain ⟨reads, notices, hreads, hrun⟩ := follows_updateManual handle fields now session
  have hiff := updateManualPlan_eq_ok_iff hrecords hcurrent distinct registered now
  refine ⟨current, hvalue, ?_, fun record hrecord => ?_, fun fault hfault => ?_⟩
  · constructor
    · rintro ⟨record, hrecord⟩
      rw [show done = _ from hrun] at hrecord
      obtain ⟨changes, hplan⟩ := Session.ok_of_settle hrecord
      exact ((hiff _).mp hplan).1
    · intro heditable
      have hplan := (hiff _).mpr ⟨heditable, rfl⟩
      exact ⟨_, (run_of_replace (follows_updateManual handle fields now) hintact hplan).1⟩
  · exact edited_of_updateManual hrecords hcurrent registered distinct hrecord
  · rw [show done = _ from hrun] at hfault ⊢
    exact Session.readFrom_of_settle hreads hfault

/-- A manual script without a version gets rules. -/
def ruledRun : List Operation :=
  [ .registerManual
      (.obj
        [ ("handle", .str " map"), ("src", .str "https://a.b/m.js"), ("ver", .str " "),
          ("deps", .arr [.str "x "]) ]) none 1,
    .setRules Vocabulary.registry .manual "map" (.obj [("is_home", .bool true)]) ]

/-- It is then edited in two fields; dependencies, rules and the time of addition stay. -/
theorem update_changes_only_ruled :
    let session := ({} : Session).run ruledRun
    let fields : Fields := [("strategy", .str " DEFER"), ("in_footer", .arr [])]
    ∃ record : Fields,
      ((updateManual "map" fields 5).run session).1 = .ok record ∧
      record.value? "strategy" = some (.str "defer") ∧
      record.value? "deps" = some (.arr [.str "x "]) ∧
      record.value? "rules" = some (.obj [("is_home", .bool true)]) ∧
      record.value? "added_on" = some (.int 1) ∧
      record.value? "updated_on" = some (.int 5) := by
  intro session fields
  let current : Fields :=
    [ ("src", .str "https://a.b/m.js"), ("ver", .null), ("deps", .arr [.str "x "]),
      ("in_footer", .bool false), ("strategy", .str "none"), ("added_on", .int 1),
      ("rules", .obj [("is_home", .bool true)]) ]
  have hrecords : session.shelves .manual = .ok [("map", .obj current)] := by decide +kernel
  have hhandle : "map" ∈ Listing.keys [("map", Json.obj current)] := by decide
  have hdistinct : Listing.Distinct fields := by
    unfold Listing.Distinct
    decide
  obtain ⟨_, hcurrent, hiff, hedited, -⟩ := update_changes_only hrecords hhandle hdistinct 5
  cases hcurrent
  have heditable : ∀ name value, (name, value) ∈ fields → Editable name value := by
    intro name value hmem
    rcases List.mem_pair.mp hmem with heq | heq <;> cases heq <;> decide +kernel
  obtain ⟨record, hrecord⟩ := hiff.mpr heditable
  have hall := hedited record hrecord
  refine ⟨record, hrecord, ?_, hall.kept "deps" (by decide) (by decide),
    hall.kept "rules" (by decide) (by decide), hall.kept "added_on" (by decide) (by decide),
    hall.updated⟩
  rw [hall.given "strategy" (.str " DEFER") (by decide)]
  decide +kernel

end Result


end PageScripts
