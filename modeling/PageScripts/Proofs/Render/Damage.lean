import PageScripts.Proofs.Catalog.Outcome
import PageScripts.Proofs.Render.Queue
import PageScripts.Vocabulary

/-!
# What damage does to a render pass

A record that is no object, a manual script without a handle, and one without an address are
passed over, each by itself.  A catalog that is no object stops the pass, and so does one thing
in a single record: a time that is an infinite number or not a number.

**Steps.**
* `ok_managed_iff` and `error_of_managed`: when a managed catalog can be read, and why not.
* `managed_wellFormed`: without the malformed records it reads as the same scripts, but for those
  that are passed over anyway.
* `run_renderPass_quiet`: a pass without discovery reads the two catalogs, and nothing fails
  after that.

**Result.**  `renderPass_despite_damage`: a pass without discovery comes to a report exactly if
both catalogs can be read; it is that of the pass without the malformed records.  A failing pass
leaves the queue and the store alone.
-/

namespace PageScripts

open PageScripts.Action

section Defs

/-- The value is no number without an integer part. -/
def Json.HasWhole : Json → Prop
  | .float .nan => False
  | .float (.infinite _) => False
  | _ => True

/-- The time in a record of the catalog can be read. -/
def ManagedCatalog.Timed
    (catalog : ManagedCatalog)
    (record : Fields) : Prop :=
  (Record.field catalog.timeKey record).HasWhole

/-- The catalog is given out, and of each record that is an object the time can be read. -/
def Shelves.Readable
    (shelves : Shelves)
    (catalog : ManagedCatalog) : Prop :=
  ∃ records, shelves catalog.name = .ok records ∧
    ∀ handle record, (handle, Json.obj record) ∈ records → catalog.Timed record

/-- Whether a pass makes use of a script: a manual one has to have a handle and an address. -/
def ManagedCatalog.uses
    (catalog : ManagedCatalog)
    (handle src : String) :
    Bool :=
  match catalog with
  | .removed => true
  | .manual => Text.trim handle ≠ "" && Url.isSourceUrl src

/-- The records of a catalog without the malformed ones. -/
def wellFormed
    (catalog : ManagedCatalog)
    (records : Fields) :
    Fields :=
  records.filter fun entry =>
    entry.2.fields?.any fun record => catalog.uses entry.1 (Record.textField "src" record)

/-- The second session gives out the managed catalogs of the first one without the malformed
records. -/
def Session.Cleared (session cleared : Session) : Prop :=
  ∀ (catalog : ManagedCatalog) records,
    session.shelves catalog.name = .ok records →
    cleared.shelves catalog.name = .ok (wellFormed catalog records)

end Defs

section Records

/-- The time of a record is read, unless it is an infinite number or not a number. -/
theorem timeField_cases
    (name : String)
    (record : Fields) :
    ((Record.field name record).HasWhole ∧ ∃ time, Record.timeField name record = .ok time) ∨
    (¬ (Record.field name record).HasWhole ∧ ∃ fault,
      Record.timeField name record = .error fault ∧
      (fault = .infiniteNumber ∨ fault = .notANumber)) := by
  unfold Record.timeField
  cases Record.field name record with
  | float x =>
      cases x with
      | finite negative significand exponent =>
          exact .inl ⟨trivial, _, rfl⟩
      | infinite negative =>
          exact .inr ⟨id, _, rfl, .inl rfl⟩
      | nan =>
          exact .inr ⟨id, _, rfl, .inr rfl⟩
  | _ =>
      exact .inl ⟨trivial, _, rfl⟩

/-- A record becomes a script, unless its time cannot be read. -/
theorem ofFields_cases
    (handle : String)
    (catalog : ManagedCatalog)
    (record : Fields) :
    (catalog.Timed record ∧ ∃ script,
      ManagedScript.ofFields handle catalog record = .ok script ∧
      script.src = Record.textField "src" record) ∨
    (¬ catalog.Timed record ∧ ∃ fault,
      ManagedScript.ofFields handle catalog record = .error fault ∧
      (fault = .infiniteNumber ∨ fault = .notANumber)) := by
  unfold ManagedScript.ofFields
  rcases timeField_cases catalog.timeKey record with
    ⟨htimed, time, htime⟩ | ⟨htimed, fault, htime, hfault⟩
  · refine .inl ⟨htimed, ?_⟩
    rw [htime]
    exact ⟨_, rfl, rfl⟩
  · refine .inr ⟨htimed, fault, ?_, hfault⟩
    rw [htime]
    rfl

/-- So a record becomes a script exactly if its time can be read. -/
theorem ManagedScript.ok_ofFields_iff
    (handle : String)
    (catalog : ManagedCatalog)
    (record : Fields) :
    (∃ script, ManagedScript.ofFields handle catalog record = .ok script) ↔
      catalog.Timed record := by
  rcases ofFields_cases handle catalog record with
    ⟨htimed, script, hscript, -⟩ | ⟨hnot, fault, hfault, -⟩
  · exact ⟨fun _ => htimed, fun _ => ⟨script, hscript⟩⟩
  · rw [hfault]
    refine ⟨?_, fun htimed => absurd htimed hnot⟩
    rintro ⟨script, h⟩
    cases h

theorem mem_soundRecords_iff
    (handle : String)
    (record : Fields)
    (records : Fields) :
    (handle, record) ∈ Catalog.soundRecords records ↔ (handle, Json.obj record) ∈ records := by
  unfold Catalog.soundRecords
  rw [List.mem_filterMap]
  constructor
  · rintro ⟨⟨other, value⟩, hmem, h⟩
    cases value with
    | obj fields =>
        cases h
        exact hmem
    | _ =>
        cases h
  · intro hmem
    exact ⟨_, hmem, rfl⟩

/-- The scripts of a catalog can be read exactly if each record that is an object can. -/
theorem ok_scripts_iff
    {α : Type}
    {read : String → Fields → Except Fault α}
    {good : Fields → Prop}
    (records : Fields)
    (hread : ∀ handle record, (∃ script, read handle record = .ok script) ↔ good record) :
    (∃ scripts,
      ((Catalog.soundRecords records).mapM fun entry => do
        return (entry.1, ← read entry.1 entry.2)) = .ok scripts) ↔
      ∀ handle record, (handle, Json.obj record) ∈ records → good record := by
  constructor
  · rintro ⟨scripts, hscripts⟩ handle record hmem
    obtain ⟨entry, hentry⟩ :=
      ok_of_mapM hscripts ((mem_soundRecords_iff handle record records).mpr hmem)
    obtain ⟨script, hscript, -⟩ := ok_of_bind hentry
    exact (hread handle record).mp ⟨script, hscript⟩
  · intro hgood
    cases h : (Catalog.soundRecords records).mapM fun entry => do
        return (entry.1, ← read entry.1 entry.2) with
    | ok scripts =>
        exact ⟨scripts, rfl⟩
    | error fault =>
        obtain ⟨⟨handle, record⟩, hmem, hentry⟩ := error_of_mapM h
        have hrecord := hgood handle record ((mem_soundRecords_iff handle record records).mp hmem)
        obtain ⟨script, hscript⟩ := (hread handle record).mpr hrecord
        simp only [hscript] at hentry
        cases hentry

/-- The records that are objects and not malformed. -/
theorem soundRecords_wellFormed
    (catalog : ManagedCatalog)
    (records : Fields) :
    Catalog.soundRecords (wellFormed catalog records) =
      (Catalog.soundRecords records).filter fun entry =>
        catalog.uses entry.1 (Record.textField "src" entry.2) := by
  unfold Catalog.soundRecords wellFormed
  rw [List.filterMap_filter, List.filter_filterMap]
  apply List.filterMap_congr
  rintro ⟨handle, value⟩ -
  cases value with
  | obj record =>
      by_cases huses : catalog.uses handle (Record.textField "src" record) = true
      · simp [Json.fields?, huses, Option.filter]
      · simp [Json.fields?, huses, Option.filter]
  | _ =>
      rfl

end Records

section Catalogs

variable {shelves : Shelves} {catalog : ManagedCatalog}

/-- A managed catalog can be read exactly if it is given out and all its times can be read. -/
theorem ok_managed_iff :
    (∃ scripts, shelves.managed catalog = .ok scripts) ↔ shelves.Readable catalog := by
  have hscripts (records : Fields) :=
    ok_scripts_iff records fun handle record =>
      ManagedScript.ok_ofFields_iff handle catalog record
  constructor
  · rintro ⟨scripts, h⟩
    obtain ⟨records, hrecords, hread⟩ := ok_of_bind h
    exact ⟨records, hrecords, (hscripts records).mp ⟨scripts, hread⟩⟩
  · rintro ⟨records, hrecords, htimed⟩
    unfold Shelves.managed
    rw [hrecords]
    exact (hscripts records).mpr htimed

/-- A managed catalog that cannot be read is not given out, or one of its times is an infinite
number or not a number. -/
theorem error_of_managed
    {fault : Fault}
    (h : shelves.managed catalog = .error fault) :
    shelves catalog.name = .error fault ∨ fault = .infiniteNumber ∨ fault = .notANumber := by
  unfold Shelves.managed at h
  cases hrecords : shelves catalog.name with
  | error cause =>
      rw [hrecords] at h
      cases h
      exact .inl rfl
  | ok records =>
      rw [hrecords] at h
      obtain ⟨⟨handle, record⟩, -, hentry⟩ := error_of_mapM h
      rcases ofFields_cases handle catalog record with
        ⟨-, script, hscript, -⟩ | ⟨-, cause, hcause, hnumber⟩
      · simp only [hscript] at hentry
        cases hentry
      · simp only [hcause] at hentry
        cases hentry
        exact .inr hnumber

/-- Without the malformed records the same scripts are read, but for those of no use. -/
theorem managed_wellFormed
    {other : Shelves}
    {scripts : Listing String ManagedScript}
    (h : shelves.managed catalog = .ok scripts)
    (hother : ∀ records, shelves catalog.name = .ok records →
      other catalog.name = .ok (wellFormed catalog records)) :
    other.managed catalog =
      .ok (scripts.filter fun entry => catalog.uses entry.1 entry.2.src) := by
  obtain ⟨records, hrecords, hscripts⟩ := ok_of_bind h
  unfold Shelves.managed
  rw [hother records hrecords]
  change (Catalog.soundRecords (wellFormed catalog records)).mapM _ = _
  rw [soundRecords_wellFormed]
  refine mapM_filter ?_ hscripts
  rintro ⟨handle, record⟩ entry hentry
  obtain ⟨script, hscript, hdone⟩ := ok_of_bind hentry
  obtain rfl := Except.ok.inj hdone
  rcases ofFields_cases handle catalog record with ⟨-, read, hread, hsrc⟩ | ⟨-, fault, hfault, -⟩
  · obtain rfl := Except.ok.inj (hread.symm.trans hscript)
    exact congrArg (catalog.uses handle) hsrc
  · rw [hfault] at hscript
    cases hscript

/-- Both managed catalogs are read if each of them is. -/
theorem bothManaged_eq
    {manual removed : Listing String ManagedScript}
    (hmanual : shelves.managed .manual = .ok manual)
    (hremoved : shelves.managed .removed = .ok removed) :
    shelves.bothManaged = .ok (manual, removed) := by
  unfold Shelves.bothManaged
  rw [hmanual, hremoved]
  rfl

theorem error_of_bothManaged
    {fault : Fault}
    (h : shelves.bothManaged = .error fault) :
    ∃ catalog, shelves.managed catalog = .error fault := by
  cases hmanual : shelves.managed .manual with
  | error cause =>
      unfold Shelves.bothManaged at h
      rw [hmanual] at h
      cases h
      exact ⟨.manual, hmanual⟩
  | ok manual =>
      cases hremoved : shelves.managed .removed with
      | error cause =>
          unfold Shelves.bothManaged at h
          rw [hmanual, hremoved] at h
          cases h
          exact ⟨.removed, hremoved⟩
      | ok removed =>
          rw [bothManaged_eq hmanual hremoved] at h
          cases h

/-- In memory a catalog that is not given out is a corrupt one. -/
theorem corrupt_of_shelf
    {session : Session}
    (hmemory : session.medium = .memory)
    {name : CatalogName}
    {fault : Fault}
    (h : session.shelves name = .error fault) :
    ∃ kind, fault = .corruptCatalog name kind := by
  have hintact : session.medium ≠ .brokenTable := by
    rw [hmemory]
    decide
  rw [Session.shelves_of_intact hintact] at h
  unfold Session.stored at h
  cases hvalue : session.options.value? name.option with
  | none =>
      rw [hvalue] at h
      cases h
  | some value =>
      simp only [hvalue, hmemory] at h
      change Catalog.recordsOf name value = .error fault at h
      unfold Catalog.recordsOf at h
      split at h
      all_goals cases h
      exact ⟨_, rfl⟩

end Catalogs

section Pass

variable (registry : Registry Id Request)
variable (site : Site)
variable (request : Request)
variable (now : Int)

/-- A pass without discovery reads the two catalogs; if they can be read, it comes to an end. -/
theorem run_renderPass_quiet (page : Rendering) :
    ∃ session, page.session.ReadFrom session ∧
      (renderPass registry site request false now).run page =
        match page.session.shelves.bothManaged with
        | .error fault => (.error fault, { page with session })
        | .ok (manual, removed) =>
            (.ok
              { added := addedHandles registry request manual
                removed := removedHandles registry request removed },
              { queue :=
                  (page.queue.loadAll (accepted (additionHolds registry request) manual)).removeAll
                    (removedHandles registry request removed)
                session }) := by
  obtain ⟨reads, notices, hreads, hrun⟩ :=
    run_renderPass registry site request false now page
  refine ⟨_, page.session.readFrom_advance hreads notices, ?_⟩
  rw [hrun]
  unfold renderPlan
  cases page.session.shelves.bothManaged with
  | error fault =>
      rfl
  | ok catalogs =>
      simp only [handles_additionStep, handles_removalStep, queue_of_steps, discoveryPlan,
        Session.settle, ne_eq, not_true, false_and, if_false, List.map_nil, List.append_nil,
        Bool.false_eq_true]

/-- Scripts of no use are not accepted anyway. -/
theorem accepted_filter_uses
    (holds : Option RuleSet → Bool)
    (manual : Listing String ManagedScript) :
    accepted holds (manual.filter fun entry => ManagedCatalog.manual.uses entry.1 entry.2.src) =
      accepted holds manual := by
  unfold accepted
  rw [List.filter_filter]
  apply List.filter_congr
  rintro ⟨handle, script⟩ -
  simp only [ManagedCatalog.uses, Loadable]
  by_cases hblank : Text.trim handle = "" <;> simp [hblank]

/-- A pass without discovery comes to a report exactly if both catalogs can be read. -/
theorem ok_renderPass_iff (page : Rendering) :
    (∃ report, ((renderPass registry site request false now).run page).1 = .ok report) ↔
      ∀ catalog, page.session.shelves.Readable catalog := by
  obtain ⟨session, -, hrun⟩ := run_renderPass_quiet registry site request now page
  rw [hrun]
  constructor
  · rintro ⟨report, hreport⟩ catalog
    cases hboth : page.session.shelves.bothManaged with
    | error fault =>
        rw [hboth] at hreport
        cases hreport
    | ok catalogs =>
        obtain ⟨manual, hmanual, hrest⟩ := ok_of_bind hboth
        obtain ⟨removed, hremoved, -⟩ := ok_of_bind hrest
        cases catalog with
        | manual =>
            exact ok_managed_iff.mp ⟨manual, hmanual⟩
        | removed =>
            exact ok_managed_iff.mp ⟨removed, hremoved⟩
  · intro hreadable
    obtain ⟨manual, hmanual⟩ := ok_managed_iff.mpr (hreadable .manual)
    obtain ⟨removed, hremoved⟩ := ok_managed_iff.mpr (hreadable .removed)
    rw [bothManaged_eq hmanual hremoved]
    exact ⟨_, rfl⟩

/-- A failing pass without discovery has only read. -/
theorem fault_of_renderPass
    {page : Rendering}
    {fault : Fault}
    (h : ((renderPass registry site request false now).run page).1 = .error fault) :
    ∃ session, page.session.ReadFrom session ∧
      (renderPass registry site request false now).run page =
        (.error fault, { page with session }) ∧
      ∃ catalog, page.session.shelves.managed catalog = .error fault := by
  obtain ⟨session, hread, hrun⟩ := run_renderPass_quiet registry site request now page
  rw [hrun] at h ⊢
  cases hboth : page.session.shelves.bothManaged with
  | error cause =>
      rw [hboth] at h
      cases h
      exact ⟨session, hread, rfl, error_of_bothManaged hboth⟩
  | ok catalogs =>
      rw [hboth] at h
      cases h

/-- Without the malformed records a pass comes to the same report and the same queue. -/
theorem renderPass_cleared
    {page : Rendering}
    {report : RenderReport}
    (h : ((renderPass registry site request false now).run page).1 = .ok report)
    {cleared : Session}
    (hcleared : page.session.Cleared cleared) :
    ∃ queue session after,
      (renderPass registry site request false now).run page =
        (.ok report, { queue, session }) ∧
      (renderPass registry site request false now).run { page with session := cleared } =
        (.ok report, { queue, session := after }) := by
  obtain ⟨session, -, hrun⟩ := run_renderPass_quiet registry site request now page
  obtain ⟨after, -, hrun'⟩ :=
    run_renderPass_quiet registry site request now { page with session := cleared }
  rw [hrun] at h
  cases hboth : page.session.shelves.bothManaged with
  | error fault =>
      rw [hboth] at h
      cases h
  | ok catalogs =>
      obtain ⟨manual, hmanual, hrest⟩ := ok_of_bind hboth
      obtain ⟨removed, hremoved, -⟩ := ok_of_bind hrest
      have hmanual' := managed_wellFormed hmanual (hcleared .manual)
      have hremoved' : cleared.shelves.managed .removed = .ok removed := by
        rw [managed_wellFormed hremoved (hcleared .removed)]
        exact congrArg Except.ok (List.filter_eq_self.mpr fun _ _ => rfl)
      simp only [bothManaged_eq hmanual hremoved] at h hrun
      simp only [bothManaged_eq hmanual' hremoved', addedHandles, accepted_filter_uses] at hrun'
      obtain rfl := Except.ok.inj h
      exact ⟨_, _, _, hrun, hrun'⟩

/-- What damage does to a pass without discovery.
* The pass comes to a report exactly if both catalogs can be read.
* If it fails, the queue is left as it is and the store is only read.  The fault is that of a
  catalog which is not given out (in memory, a corrupt one), or a time is at fault.
* If it comes to a report, then without the malformed records it comes to the same one and to
  the same queue. -/
theorem renderPass_despite_damage (page : Rendering) :
    let run (page : Rendering) := (renderPass registry site request false now).run page
    ((∃ report, (run page).1 = .ok report) ↔
      ∀ catalog, page.session.shelves.Readable catalog) ∧
    (∀ fault, (run page).1 = .error fault →
      (run page).2.queue = page.queue ∧
      page.session.ReadFrom (run page).2.session ∧
      ((∃ catalog : ManagedCatalog,
          page.session.shelves catalog.name = .error fault ∧
          (page.session.medium = .memory → ∃ kind, fault = .corruptCatalog catalog.name kind)) ∨
        fault = .infiniteNumber ∨ fault = .notANumber)) ∧
    (∀ report cleared,
      (run page).1 = .ok report →
      page.session.Cleared cleared →
      (run { page with session := cleared }).1 = .ok report ∧
      (run { page with session := cleared }).2.queue = (run page).2.queue) := by
  intro run
  refine ⟨ok_renderPass_iff registry site request now page, ?_, ?_⟩
  · intro fault hfault
    obtain ⟨session, hread, hrun, catalog, hcatalog⟩ :=
      fault_of_renderPass registry site request now hfault
    change run page = _ at hrun
    rw [hrun]
    refine ⟨rfl, hread, (error_of_managed hcatalog).imp_left fun hshelf => ?_⟩
    exact ⟨catalog, hshelf, fun hmemory => corrupt_of_shelf hmemory hshelf⟩
  · intro report cleared hreport hcleared
    obtain ⟨queue, session, after, hrun, hrun'⟩ :=
      renderPass_cleared registry site request now hreport hcleared
    change run page = _ at hrun
    change run { page with session := cleared } = _ at hrun'
    rw [hrun, hrun']
    exact ⟨rfl, rfl⟩

/-- A manual script with fields of no sense. -/
def oddRecord : Fields :=
  [ ("src", .str "https://a.b/c.js"), ("deps", .arr [.int 1, .str "slider"]),
    ("strategy", .bool true), ("rules", .arr []), ("added_on", .str "soon") ]

/-- A page whose catalogs hold a sound record each, and malformed ones. -/
def damagedPage : Rendering :=
  { session :=
      { options :=
          [ ("psa_manual_scripts",
              .obj
                [ ("torn", .int 7), ("chat", .obj oddRecord), (" ", .obj oddRecord),
                  ("bare", .obj [("src", .str "m.js")]), ("none", .null) ]),
            ("psa_dequeued_scripts", .obj [("gone", .str "x"), ("slider", .obj [])]) ] } }

/-- The store of the page without the malformed records. -/
def repairedSession : Session :=
  { options :=
      [ ("psa_manual_scripts", .obj [("chat", .obj oddRecord)]),
        ("psa_dequeued_scripts", .obj [("slider", .obj [])]) ] }

/-- The pass comes to its report with the malformed records and without them. -/
theorem renderPass_despite_damage_repaired :
    damagedPage.session.Cleared repairedSession ∧
    ((renderPass Vocabulary.registry {} {} false 0).run damagedPage).1 =
      .ok { added := ["chat"], removed := ["slider"] } ∧
    ((renderPass Vocabulary.registry {} {} false 0).run
        { damagedPage with session := repairedSession }).1 =
      .ok { added := ["chat"], removed := ["slider"] } := by
  have hcleared : damagedPage.session.Cleared repairedSession := by
    intro catalog records h
    cases catalog <;> cases h <;> decide +kernel
  have hreport : ((renderPass Vocabulary.registry {} {} false 0).run damagedPage).1 =
      .ok { added := ["chat"], removed := ["slider"] } := by
    decide +kernel
  obtain ⟨-, -, hsame⟩ := renderPass_despite_damage Vocabulary.registry {} {} 0 damagedPage
  exact ⟨hcleared, hreport, (hsame _ _ hreport hcleared).1⟩

/-- A page with a manual script that was added at an infinite time, and a sound one. -/
def timelessPage : Rendering :=
  { session :=
      { options :=
          [ ("psa_manual_scripts",
              .obj
                [ ("bad",
                    .obj
                      [ ("src", .str "https://a.b/c.js"),
                        ("added_on", .float (.infinite false)) ]),
                  ("chat", .obj [("src", .str "https://a.b/d.js")]) ]) ] } }

/-- One time stops the pass, although both catalogs are objects or empty. -/
theorem renderPass_blocked_by_time :
    (∀ catalog : ManagedCatalog,
      ∃ records, timelessPage.session.shelves catalog.name = .ok records) ∧
    ((renderPass Vocabulary.registry {} {} false 0).run timelessPage).1 =
      .error .infiniteNumber := by
  constructor
  · intro catalog
    cases catalog <;> exact ⟨_, rfl⟩
  · decide +kernel

end Pass

end PageScripts
