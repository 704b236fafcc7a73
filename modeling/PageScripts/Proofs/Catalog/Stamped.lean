import PageScripts.Proofs.Catalog.Local
import PageScripts.Proofs.Catalog.Run
import PageScripts.Proofs.Catalog.Written

/-!
# Records that operations have written can be read

A record that is no object, or whose time is no integer at all, makes a script unreadable.  No
operation writes such a record: every record is an object, and in a managed catalog it has a whole
number as the time at which the script came into the catalog.

* `Stamped`: that is how a record looks; `stamped_run` says that it does so after every run from
  the empty store.
* `script_of_stamp`: the script that such a record is read as, field by field.
* `Holdings.ruling`: the rules that the records hold; `rules_of_shelves` says that they are the
  answer to the question for the rules of a script.
-/

namespace PageScripts

open Catalog

section Stamps

theorem ManagedCatalog.name_injective
    {first second : ManagedCatalog}
    (h : first.name = second.name) :
    first = second := by
  have hfirst := first.managed?_name
  rw [h, managed?_name] at hfirst
  exact (Option.some.inj hfirst).symm

/-- The time of a record is a whole number. -/
def ManagedCatalog.Stamps
    (catalog : ManagedCatalog)
    (record : Fields) : Prop :=
  ∃ time, record.value? catalog.timeKey = some (.int time)

/-- The record is an object, and in a managed catalog its time is a whole number. -/
def Stamped
    (name : CatalogName)
    (value : Json) : Prop :=
  ∃ record, value = .obj record ∧
    ∀ catalog : ManagedCatalog, catalog.name = name → catalog.Stamps record

/-- Discovered scripts have no such time. -/
theorem stamped_discovered (record : Fields) :
    Stamped .discovered (.obj record) := by
  refine ⟨record, rfl, fun catalog hname => ?_⟩
  cases catalog <;> cases hname

theorem stamped_managed
    (catalog : ManagedCatalog)
    {record : Fields}
    (h : catalog.Stamps record) :
    Stamped catalog.name (.obj record) := by
  refine ⟨record, rfl, fun other hname => ?_⟩
  obtain rfl := ManagedCatalog.name_injective hname
  exact h

/-- Rules stand under another key than the time. -/
theorem ManagedCatalog.timeKey_ne_rules (catalog : ManagedCatalog) :
    catalog.timeKey ≠ "rules" := by
  cases catalog <;> decide

variable {holdings : Holdings}
variable {operation : Operation}
variable {name : CatalogName}
variable {handle : String}

theorem Holdings.Tidy.stamps
    (h : holdings.Tidy fun name _ value => Stamped name value)
    (catalog : ManagedCatalog)
    {record : Fields}
    (hmem : (handle, .obj record) ∈ holdings catalog.name) :
    catalog.Stamps record := by
  obtain ⟨_, heq, hstamps⟩ := (h catalog.name).good handle (.obj record) hmem
  cases heq
  exact hstamps catalog rfl

/-- Operations write stamped records, and to stamped ones they leave the stamp. -/
theorem stamped_of_brings
    (h : holdings.Tidy fun name _ value => Stamped name value)
    {value : Json}
    (hbrings : Brings holdings.shelves operation name handle value) :
    Stamped name value := by
  cases hbrings with
  | noted script now | sighted handle script | rendered handle script =>
      exact stamped_discovered _
  | @moved handles now =>
      refine stamped_managed .removed ⟨now, ?_⟩
      simp [value?_movedRecord, ManagedCatalog.timeKey_ne_rules]
  | @added data queue now =>
      refine stamped_managed .manual ⟨now, ?_⟩
      simp [value?_addedRecord]
  | edited hmanual hcurrent hform =>
      obtain rfl := Except.ok.inj hmanual
      obtain ⟨time, htime⟩ := h.stamps .manual hcurrent
      have hkey : ManagedCatalog.manual.timeKey ≠ "updated_on" := by decide
      refine stamped_managed .manual ⟨time, ?_⟩
      simp [value?_editedRecord, hkey, htime]
  | @ruled _ _ _ catalog _ _ _ _ hall hrecord hvalid =>
      obtain rfl := Except.ok.inj hall
      obtain ⟨time, htime⟩ := h.stamps catalog hrecord
      refine stamped_managed catalog ⟨time, ?_⟩
      rw [Listing.value?_put, if_neg catalog.timeKey_ne_rules.symm, htime]
  | @cleared catalog _ _ _ hall hrecord =>
      obtain rfl := Except.ok.inj hall
      obtain ⟨time, htime⟩ := h.stamps catalog hrecord
      refine stamped_managed catalog ⟨time, ?_⟩
      rw [Listing.value?_without, if_neg catalog.timeKey_ne_rules.symm, htime]

/-- After every run from the empty store each handle stands once in a catalog, and its record is
stamped. -/
theorem stamped_run (operations : List Operation) :
    (Holdings.empty.run operations).Tidy fun name _ value => Stamped name value :=
  Holdings.tidy_run fun _ _ _ h _ _ _ hbrings => stamped_of_brings h hbrings

end Stamps

section Reading

open Record

/-- The script that a stamped record is read as. -/
theorem script_of_stamp
    (handle : String)
    {catalog : ManagedCatalog}
    {record : Fields}
    (h : catalog.Stamps record) :
    ∃ script,
      ManagedScript.ofFields handle catalog record = .ok script ∧
      script.src = textField "src" record ∧
      script.version = versionField "ver" record ∧
      script.deps = .ofJson ((record.value? "deps").getD (.str "")) ∧
      script.inFooter = flagField "in_footer" record ∧
      script.strategy = .ofJson (field "strategy" record) ∧
      script.rules = ManagedScript.rulesOf (field "rules" record) := by
  obtain ⟨time, htime⟩ := h
  have hfield : timeField catalog.timeKey record = .ok time := by
    simp only [timeField, field, htime]
    rfl
  unfold ManagedScript.ofFields
  rw [hfield]
  exact ⟨_, rfl, rfl, rfl, rfl, rfl, rfl, rfl⟩

end Reading

section Rulings

/-- The answer to the question for the rules of a script. -/
def Session.rules
    (session : Session)
    (catalog : ManagedCatalog)
    (handle : String) :
    Except Fault (Option RuleSet) :=
  ((getRules catalog.name handle).run session).1

/-- The answer for a script with these rules, or for one that is not in the catalog. -/
def ManagedCatalog.answer
    (catalog : ManagedCatalog)
    (handle : String) :
    Option (Option RuleSet) → Except Fault (Option RuleSet)
  | some rules => .ok rules
  | none => .error (.unknownHandle handle catalog.name)

/-- The rules of a handle, if its record is an object. -/
def rulingOf
    (records : Fields)
    (handle : String) :
    Option (Option RuleSet) :=
  (sound? records handle).map fun record =>
    ManagedScript.rulesOf (Record.field "rules" record)

/-- The rules that the records of the managed catalogs hold. -/
def Holdings.ruling
    (holdings : Holdings)
    (catalog : ManagedCatalog)
    (handle : String) :
    Option (Option RuleSet) :=
  rulingOf (holdings catalog.name) handle

variable {holdings : Holdings}
variable (catalog : ManagedCatalog)
variable (handle : String)

theorem mem_keys_iff_ruling
    (h : holdings.Tidy fun name _ value => Stamped name value) :
    handle ∈ (holdings catalog.name).keys ↔ (holdings.ruling catalog handle).isSome = true := by
  unfold Holdings.ruling rulingOf sound?
  rw [Option.isSome_map]
  constructor
  · intro hmem
    obtain ⟨value, hvalue⟩ := Listing.exists_value?_of_mem_keys hmem
    obtain ⟨record, rfl, -⟩ :=
      (h catalog.name).good handle value (Listing.mem_of_value? hvalue)
    rw [hvalue]
    rfl
  · intro hsome
    obtain ⟨record, hrecord⟩ := Option.isSome_iff_exists.mp hsome
    exact Listing.mem_keys_of_mem (mem_of_sound? hrecord)

/-- The question for the rules of a script is answered by what the records hold. -/
theorem getRulesView_of_stamped
    (h : holdings.Tidy fun name _ value => Stamped name value) :
    getRulesView catalog.name handle holdings.shelves =
      catalog.answer handle (holdings.ruling catalog handle) := by
  have hsound : (holdings.at handle).sound? catalog.name =
      sound? (holdings catalog.name) handle := rfl
  unfold getRulesView Holdings.ruling rulingOf
  simp only [managedName_name, managedRecordView_shelves, hsound, bind, Except.bind]
  cases hrecord : sound? (holdings catalog.name) handle with
  | none =>
      rfl
  | some record =>
      obtain ⟨script, hscript, -, -, -, -, -, hrules⟩ :=
        script_of_stamp handle (h.stamps catalog (mem_of_sound? hrecord))
      simp only [hscript, Option.map_some, ← hrules]
      rfl

/-- So it is answered in a session that gives the catalogs out. -/
theorem rules_of_shelves
    {session : Session}
    (h : session.shelves = holdings.shelves)
    (htidy : holdings.Tidy fun name _ value => Stamped name value) :
    session.rules catalog handle =
      catalog.answer handle (holdings.ruling catalog handle) := by
  obtain ⟨reads, notices, -, hrun⟩ := reads_getRules catalog.name handle session
  unfold Session.rules
  rw [hrun, h]
  exact getRulesView_of_stamped catalog handle htidy

end Rulings

end PageScripts
