import PageScripts.Proofs.Catalog.Registered
import PageScripts.Proofs.Render.Damage
import PageScripts.Proofs.Script.Reading

/-!
# Manual scripts that were admitted are loaded

The data of a manual script are checked before they are stored, and the stored record is read and
checked anew when a page is rendered.  The two agree: what was let in is never refused.

**Invariant.**
* `Served`: a record with the address of a script and the word for a strategy.
* `Admitted`: such a record, in the manual catalog, under a handle that is not blank;
  `admitted_run` says that after every run from the empty store there are no others.

**Result.**  `additions_admitted`: where its rules hold, a manual script is loaded by a page that
does not know it, and with everything that was stored of it.
-/

namespace PageScripts

open Catalog Record

section Defs

/-- The record has the address of a script and the word for a strategy. -/
structure Served (record : Fields) : Prop where
  source : ∃ src, record.value? "src" = some (.str src) ∧ Url.isSourceUrl src = true
  strategy : ∃ strategy : LoadStrategy, record.value? "strategy" = some (.str strategy.word)

/-- The record is in another catalog than that of manual scripts, or it is served, and its handle is
not blank. -/
def Admitted
    (name : CatalogName)
    (handle : String)
    (value : Json) : Prop :=
  name = .manual → Text.trim handle ≠ "" ∧ ∃ record : Fields, value = .obj record ∧ Served record

end Defs

section Invariant

variable {handle : String}
variable {record : Fields}

/-- The source and the strategy of a manual script have been accepted. -/
theorem served_of_registered
    (h : Registered handle record) :
    Served record := by
  have hsource := (h.accepted "src" (by decide)).2.1 rfl
  have hstrategy := (h.accepted "strategy" (by decide)).2.2.2 rfl
  constructor
  · cases hvalue : record.value? "src" with
    | none =>
        rw [hvalue] at hsource
        cases hsource
    | some value =>
        rw [hvalue, Option.getD_some] at hsource
        cases value with
        | str src =>
            exact ⟨src, rfl, hsource⟩
        | _ =>
            cases hsource
  · obtain ⟨strategy, hword⟩ := Manual.word_of_isStrategyValue hstrategy
    refine ⟨strategy, ?_⟩
    cases hvalue : record.value? "strategy" with
    | none =>
        rw [hvalue] at hword
        cases hword
    | some value =>
        rw [hvalue, Option.getD_some] at hword
        rw [hword]

theorem admitted_run (operations : List Operation) :
    (Holdings.empty.run operations).Tidy Admitted := by
  refine fun name => ⟨(registered_run operations name).distinct, fun handle value hmem hname => ?_⟩
  obtain ⟨record, rfl, hregistered⟩ := (registered_run operations name).good handle value hmem hname
  exact ⟨trim_ne_empty_of_isHandle hregistered.isHandle, record, rfl,
    served_of_registered hregistered⟩

end Invariant

section Reading

variable {shelves : Shelves}
variable {catalog : ManagedCatalog}
variable {records : Fields}
variable {scripts : Listing String ManagedScript}

theorem keys_soundRecords_sublist (records : Fields) :
    (soundRecords records).keys.Sublist records.keys := by
  induction records with
  | nil =>
      exact List.Sublist.slnil
  | cons entry rest ih =>
      obtain ⟨handle, value⟩ := entry
      cases value with
      | obj record =>
          exact ih.cons_cons handle
      | _ =>
          exact ih.cons handle

/-- Each handle stands once among the scripts of a catalog, if it does so among the records. -/
theorem distinct_of_managed
    (h : shelves.managed catalog = .ok scripts)
    (hrecords : shelves catalog.name = .ok records)
    (distinct : Listing.Distinct records) :
    scripts.Distinct := by
  unfold Shelves.managed at h
  rw [hrecords] at h
  have hkeys : scripts.keys = (soundRecords records).keys := by
    refine map_of_mapM (fun entry read hread => ?_) h
    obtain ⟨script, -, hdone⟩ := ok_of_bind hread
    cases hdone
    rfl
  unfold Listing.Distinct
  rw [hkeys]
  exact distinct.sublist (keys_soundRecords_sublist records)

/-- The scripts of a catalog are what the records are read as. -/
theorem mem_managed_iff
    (h : shelves.managed catalog = .ok scripts)
    (hrecords : shelves catalog.name = .ok records)
    (handle : String)
    (script : ManagedScript) :
    (handle, script) ∈ scripts ↔
      ∃ record, (handle, Json.obj record) ∈ records ∧
        ManagedScript.ofFields handle catalog record = .ok script := by
  unfold Shelves.managed at h
  rw [hrecords] at h
  constructor
  · intro hmem
    obtain ⟨⟨_, record⟩, hentry, hread⟩ := exists_of_mapM h hmem
    obtain ⟨read, hscript, hdone⟩ := ok_of_bind hread
    cases hdone
    exact ⟨record, (mem_soundRecords_iff _ record records).mp hentry, hscript⟩
  · rintro ⟨record, hmem, hscript⟩
    refine mem_of_mapM h ((mem_soundRecords_iff handle record records).mpr hmem) ?_
    simp only [hscript]
    rfl

/-- A catalog of stamped records can be read. -/
theorem readable_of_stamped
    {holdings : Holdings}
    (h : holdings.Tidy fun name _ value => Stamped name value)
    (catalog : ManagedCatalog) :
    holdings.shelves.Readable catalog := by
  refine ⟨holdings catalog.name, rfl, fun handle record hmem => ?_⟩
  obtain ⟨time, htime⟩ := h.stamps catalog hmem
  unfold ManagedCatalog.Timed field
  rw [htime]
  trivial

/-- A served record is read as a script that has its source and its strategy. -/
theorem script_of_served
    {record : Fields}
    (hstamps : catalog.Stamps record)
    (hserved : Served record)
    (handle : String) :
    ∃ script,
      ManagedScript.ofFields handle catalog record = .ok script ∧
      Url.isSourceUrl script.src = true ∧
      record.value? "src" = some (.str script.src) ∧
      script.dependencyList = parseDependencies (field "deps" record) ∧
      script.version = versionField "ver" record ∧
      script.inFooter = (field "in_footer" record).truth ∧
      record.value? "strategy" = some (.str script.strategy.word) ∧
      script.rules = ManagedScript.rulesOf (field "rules" record) := by
  obtain ⟨script, hscript, hsrc, hversion, hdeps, hfooter, hstrategy, hrules⟩ :=
    script_of_stamp handle hstamps
  obtain ⟨src, hsource, haddress⟩ := hserved.source
  obtain ⟨strategy, hword⟩ := hserved.strategy
  have hsame : script.src = src := by
    rw [hsrc]
    simp only [textField, field, hsource, Option.getD_some, Json.truth, Json.display_str]
    by_cases hempty : src = "" <;> simp [hempty]
  have hstrategies : script.strategy = strategy := by
    rw [hstrategy, field, hword]
    exact LoadStrategy.ofText_word strategy
  have hdependencies : script.dependencyList = parseDependencies (field "deps" record) := by
    rw [ManagedScript.dependencyList, hdeps, handles_ofJson, field]
    cases record.value? "deps" with
    | none =>
        exact parseDependencies_empty
    | some value =>
        rfl
  refine ⟨script, hscript, ?_, ?_, hdependencies, hversion, hfooter, ?_, hrules⟩
  · rw [hsame]
    exact haddress
  · rw [hsame]
    exact hsource
  · rw [hstrategies]
    exact hword

/-- All scripts of an admitted manual catalog may be loaded. -/
theorem loadable_of_managed
    {holdings : Holdings}
    (hstamped : holdings.Tidy fun name _ value => Stamped name value)
    (hadmitted : holdings.Tidy Admitted)
    (h : holdings.shelves.managed .manual = .ok scripts) :
    ∀ handle script, (handle, script) ∈ scripts → Loadable handle script := by
  intro handle script hmem
  obtain ⟨record, hrecord, hfields⟩ := (mem_managed_iff h rfl handle script).mp hmem
  obtain ⟨hhandle, _, heq, hserved⟩ := (hadmitted .manual).good handle _ hrecord rfl
  cases heq
  obtain ⟨read, hread, haddress, -⟩ :=
    script_of_served (hstamped.stamps .manual hrecord) hserved handle
  obtain rfl := Except.ok.inj (hread.symm.trans hfields)
  exact ⟨hhandle, haddress⟩

end Reading

section Loading

variable {manual : Listing String ManagedScript}

/-- Scripts that may be loaded are not complained of. -/
theorem notices_addManual
    (holds : Option RuleSet → Bool)
    (hloadable : ∀ handle script, (handle, script) ∈ manual → Loadable handle script)
    (queue : RenderQueue) :
    (addManual holds manual queue).notices = [] := by
  induction manual generalizing queue with
  | nil =>
      rfl
  | cons entry rest ih =>
      obtain ⟨handle, script⟩ := entry
      have hrest := ih fun other script hmem =>
        hloadable other script (List.mem_cons_of_mem _ hmem)
      have hnone := (refusal?_eq_none_iff handle script).mpr
        (hloadable handle script List.mem_cons_self)
      unfold addManual
      rw [hnone]
      split
      · exact hrest (queue.load handle script)
      · exact hrest queue

/-- To add scripts that may be loaded is to load those whose rules hold; the session is left. -/
theorem run_applyAdditions_of_loadable
    (registry : Registry Id Request)
    (request : Request)
    (hloadable : ∀ handle script, (handle, script) ∈ manual → Loadable handle script)
    (page : Rendering) :
    (applyAdditions registry request manual).run page =
      (.ok (addedHandles registry request manual),
        { page with
          queue := page.queue.loadAll (accepted (additionHolds registry request) manual) }) := by
  have hqueue := (addManual_eq (additionHolds registry request) manual page.queue).2
  have hquiet := notices_addManual (additionHolds registry request) hloadable page.queue
  rw [run_applyAdditions, run_takeStep, handles_additionStep]
  unfold additionStep
  rw [hqueue, hquiet, Session.advance_nil]

/-- A script that may be loaded and whose rules hold is taken over by a page that does not know
it. -/
theorem taken_of_loadable
    (holds : Option RuleSet → Bool)
    (distinct : manual.Distinct)
    {queue : RenderQueue}
    {handle : String}
    {script : ManagedScript}
    (hscript : (handle, script) ∈ manual)
    (hloadable : Loadable handle script)
    (hholds : holds script.rules = true)
    (hnew : queue.script? handle = none) :
    handle ∈ (accepted holds manual).keys ∧
    handle ∈ (queue.loadAll (accepted holds manual)).queued ∧
    ∃ known,
      (queue.loadAll (accepted holds manual)).script? handle = some known ∧
      known.src = script.src ∧
      known.deps = script.dependencyList ∧
      known.version = script.version ∧
      known.inFooter = script.inFooter ∧
      known.strategy = script.strategy := by
  have hadded : handle ∈ (accepted holds manual).keys :=
    Listing.mem_keys_of_mem
      (List.mem_filter.mpr ⟨hscript, decide_eq_true ⟨hholds, hloadable⟩⟩)
  obtain ⟨same, known, hsame, hknown⟩ := brought_of_loops holds distinct queue hadded hnew
  obtain rfl : same = script :=
    Option.some.inj (hsame.symm.trans ((Listing.value?_eq_some_iff distinct).mpr hscript))
  refine ⟨hadded, ?_, known, hknown⟩
  rw [queued_loadAll (distinct_accepted holds distinct), List.mem_append, List.mem_filter]
  by_cases hthere : handle ∈ queue.queued
  · exact .inl hthere
  · exact .inr ⟨hadded, decide_eq_true hthere⟩

end Loading

section Additions

variable {medium : Medium}
variable {operations : List Operation}
variable {records : Fields}
variable {handle : String}
variable {value : Json}

/-- Admitted scripts are loaded.  After every run from the empty store the manual catalog can be
read, and each of its records is an object.  Where the rules of a record hold, a page that does not
know its handle takes it over without a complaint: the handle is reported and queued, and what is
registered is the stored source, the handles among the stored dependencies, the stored version as a
text unless it means none, the truth of the place, and the stored strategy. -/
theorem additions_admitted
    (hrecords : (({ medium } : Session).run operations).shelves .manual = .ok records)
    (hmem : (handle, value) ∈ records) :
    let session := ({ medium } : Session).run operations
    ∃ (record : Fields) (scripts : Listing String ManagedScript),
      value = .obj record ∧
      ((managed .manual).run session).1 = .ok scripts ∧
      ∀ (registry : Registry Id Request) (request : Request) (page : Rendering),
        Purpose.addition.verdict registry (ManagedScript.rulesOf (field "rules" record)) request =
          true →
        page.queue.script? handle = none →
        ∃ added after known,
          (applyAdditions registry request scripts).run page = (.ok added, after) ∧
          after.session = page.session ∧
          handle ∈ added ∧
          handle ∈ after.queue.queued ∧
          after.queue.script? handle = some known ∧
          record.value? "src" = some (.str known.src) ∧
          known.deps = parseDependencies (field "deps" record) ∧
          known.version =
            (if (field "ver" record).NoVersion then none else some (field "ver" record).display) ∧
          known.inFooter = (field "in_footer" record).truth ∧
          record.value? "strategy" = some (.str known.strategy.word) := by
  intro session
  obtain ⟨hshelves, rfl⟩ := holdings_of_run hrecords
  have hstamped := stamped_run operations
  have hadmitted := admitted_run operations
  obtain ⟨scripts, hscripts⟩ := ok_managed_iff.mpr (readable_of_stamped hstamped .manual)
  have hread : ((managed .manual).run session).1 = .ok scripts := by
    obtain ⟨reads, notices, -, hrun⟩ := reads_managed .manual session
    rw [hrun, hshelves]
    exact hscripts
  have hdistinct := distinct_of_managed hscripts rfl (hstamped .manual).distinct
  have hloadable := loadable_of_managed hstamped hadmitted hscripts
  obtain ⟨-, record, rfl, hserved⟩ := (hadmitted .manual).good handle value hmem rfl
  refine ⟨record, scripts, rfl, hread, fun registry request page hverdict hnew => ?_⟩
  obtain ⟨script, hfields, -, hsrc, hdeps, hversion, hfooter, hstrategy, hrules⟩ :=
    script_of_served (hstamped.stamps .manual hmem) hserved handle
  have hscript := (mem_managed_iff hscripts rfl handle script).mpr ⟨record, hmem, hfields⟩
  have hholds : additionHolds registry request script.rules = true := by
    rw [hrules]
    exact hverdict
  obtain ⟨hadded, hqueued, known, hknown, hknownSrc, hknownDeps, hknownVersion, hknownFooter,
    hknownStrategy⟩ :=
      taken_of_loadable _ hdistinct hscript (hloadable handle script hscript) hholds hnew
  refine ⟨_, _, known, run_applyAdditions_of_loadable registry request hloadable page, rfl, hadded,
    hqueued, hknown, ?_, ?_, ?_, ?_, ?_⟩
  · rw [hknownSrc]
    exact hsrc
  · rw [hknownDeps]
    exact hdeps
  · rw [hknownVersion, hversion]
    exact versionOf_eq _
  · rw [hknownFooter]
    exact hfooter
  · rw [hknownStrategy]
    exact hstrategy

/-- A manual script is added with untidy data, and edited. -/
def untidyRun : List Operation :=
  [ .registerManual
      (.obj
        [ ("handle", .str " map\n"), ("src", .str " https://a.b/m.js"), ("ver", .int 7),
          ("deps", .arr [.str " jquery ", .str ""]), ("strategy", .str "DEFER ") ]) none 1,
    .updateManual "map" [("in_footer", .str "no")] 2 ]

/-- A page that loads another script. -/
def busyPage : Rendering :=
  { queue := (({} : RenderQueue).register { handle := "chat", src := "/c.js" }).enqueue "chat" }

/-- The page takes the script over as it is stored. -/
theorem additions_admitted_untidy :
    ∃ scripts added after known,
      ((managed .manual).run (({} : Session).run untidyRun)).1 = .ok scripts ∧
      (applyAdditions Vocabulary.registry {} scripts).run busyPage = (.ok added, after) ∧
      "map" ∈ added ∧
      "map" ∈ after.queue.queued ∧
      after.queue.script? "map" = some known ∧
      known.deps = ["jquery"] ∧
      known.version = some "7" ∧
      known.inFooter = true := by
  let record : Fields :=
    [ ("src", .str "https://a.b/m.js"), ("ver", .int 7),
      ("deps", .arr [.str " jquery ", .str ""]), ("in_footer", .str "no"),
      ("strategy", .str "defer"), ("added_on", .int 1), ("updated_on", .int 2) ]
  have hrecords : (({} : Session).run untidyRun).shelves .manual = .ok [("map", .obj record)] := by
    decide +kernel
  obtain ⟨_, scripts, hrecord, hread, hadds⟩ := additions_admitted hrecords List.mem_cons_self
  cases hrecord
  obtain ⟨added, after, known, hrun, -, hadded, hqueued, hknown, -, hdeps, hversion, hfooter, -⟩ :=
    hadds Vocabulary.registry {} busyPage rfl rfl
  refine ⟨scripts, added, after, known, hread, hrun, hadded, hqueued, hknown, ?_, ?_, ?_⟩
  · rw [hdeps]
    decide +kernel
  · rw [hversion]
    decide +kernel
  · rw [hfooter]
    rfl

end Additions

end PageScripts
