import PageScripts.Proofs.Catalog.Holdings
import PageScripts.Proofs.Catalog.Success

/-!
# Runs from the empty store

A run is a list of operations; one that fails leaves the catalogs, and the run goes on.  What the
catalogs hold after a run was brought in by one of its steps.

**What a step can do.**
* `Brings`: the records that an operation may write, and under which handles.
* `accounted_of_plan`: it writes no others; else it only leaves records out.

**Invariants.**
* `Tidy`: each handle stands once, and its record is a good one.
* `tidy_run`: if each operation brings only good records into tidy catalogs, then the catalogs are
  tidy after every run from the empty store.
-/

namespace PageScripts

open Catalog

section Runs

/-- The session after a run of operations, each of which may fail. -/
def Session.run
    (session : Session)
    (operations : List Operation) :
    Session :=
  operations.foldl (fun session operation => operation.after session) session

/-- The records after a run of operations. -/
def Holdings.run
    (holdings : Holdings)
    (operations : List Operation) :
    Holdings :=
  operations.foldl Holdings.step holdings

/-- No records at all. -/
def Holdings.empty : Holdings :=
  fun _ => []

theorem medium_run
    (session : Session)
    (operations : List Operation) :
    (session.run operations).medium = session.medium := by
  induction operations generalizing session with
  | nil =>
      rfl
  | cons operation rest ih =>
      obtain ⟨reads, notices, -, hafter⟩ := operation.after_eq session
      unfold Session.run at ih ⊢
      rw [List.foldl_cons, ih, hafter, Session.medium_advance]

theorem shelves_run
    {session : Session}
    {holdings : Holdings}
    (h : session.shelves = holdings.shelves)
    (operations : List Operation) :
    (session.run operations).shelves = (holdings.run operations).shelves := by
  induction operations generalizing session holdings with
  | nil =>
      exact h
  | cons operation rest ih =>
      exact ih (shelves_after h operation)

theorem shelves_empty
    {medium : Medium}
    (hintact : medium ≠ .brokenTable) :
    ({ medium } : Session).shelves = Holdings.empty.shelves := by
  rw [Session.shelves_of_intact hintact]
  rfl

/-- If a catalog is given out after a run from the empty store, then all of them are. -/
theorem holdings_of_run
    {medium : Medium}
    {operations : List Operation}
    {name : CatalogName}
    {records : Fields}
    (h : (({ medium } : Session).run operations).shelves name = .ok records) :
    (({ medium } : Session).run operations).shelves =
        (Holdings.empty.run operations).shelves ∧
      records = Holdings.empty.run operations name := by
  have hintact : medium ≠ .brokenTable := by
    have hintact := Session.intact_of_shelf h
    rwa [medium_run] at hintact
  have hshelves := shelves_run (shelves_empty hintact) operations
  refine ⟨hshelves, ?_⟩
  rw [hshelves] at h
  exact (Except.ok.inj h).symm

end Runs

section Steps

/-- Records that come from others by writing some of a sort and by leaving some out. -/
inductive Reworked
    (sort : String → Json → Prop)
    (records : Fields) :
    Fields → Prop
  | same :
      Reworked sort records records
  | put
      {current : Fields}
      {handle : String}
      {value : Json}
      (before : Reworked sort records current)
      (good : sort handle value) :
      Reworked sort records (current.put handle value)
  | without
      {current : Fields}
      (handle : String)
      (before : Reworked sort records current) :
      Reworked sort records (current.without handle)

/-- The records that an operation may write, by what it finds on the shelves. -/
inductive Brings (shelves : Shelves) : Operation → CatalogName → String → Json → Prop
  | noted
      (script : DiscoveredScript)
      (now : Int) :
      Brings shelves (.recordIfNew script now) .discovered script.handle
        (.obj { script with found := now }.toRecord)
  | sighted
      {site : Site}
      {request : Request}
      {canManage : Option Bool}
      {now : Int}
      {queue : RenderQueue}
      (handle : String)
      (script : DiscoveredScript) :
      Brings shelves (.crawl site request canManage now queue) .discovered handle
        (.obj script.toRecord)
  | rendered
      {registry : Registry Id Request}
      {site : Site}
      {request : Request}
      {discover : Bool}
      {now : Int}
      {queue : RenderQueue}
      (handle : String)
      (script : DiscoveredScript) :
      Brings shelves (.render registry site request discover now queue) .discovered handle
        (.obj script.toRecord)
  | moved
      {handles : Json}
      {now : Int}
      {found : Fields}
      {handle : String}
      {record : Fields}
      (hfound : shelves .discovered = .ok found)
      (hrecord : (handle, .obj record) ∈ found) :
      Brings shelves (.dequeue handles now) .removed handle (.obj (movedRecord now record))
  | added
      {data : Json}
      {queue : Option RenderQueue}
      {now : Int}
      {form : Fields}
      (hform : validForm data = .ok form) :
      Brings shelves (.registerManual data queue now) .manual
        (Record.field "handle" form).display (.obj (addedRecord form now))
  | edited
      {handle : String}
      {fields : Fields}
      {now : Int}
      {manual current form : Fields}
      (hmanual : shelves .manual = .ok manual)
      (hcurrent : (handle, .obj current) ∈ manual)
      (hform :
        validForm (.obj (((editable current).putAll fields).put "handle" (.str handle))) =
          .ok form) :
      Brings shelves (.updateManual handle fields now) .manual handle
        (.obj (editedRecord current form now))
  | ruled
      {m : Type → Type}
      {γ : Type}
      {registry : Registry m γ}
      {catalog : ManagedCatalog}
      {handle : String}
      {fields all record : Fields}
      (hall : shelves catalog.name = .ok all)
      (hrecord : (handle, .obj record) ∈ all)
      (hvalid : (checkRules registry (.obj fields)).isValid = true) :
      Brings shelves (.setRules registry catalog.name handle (.obj fields)) catalog.name handle
        (.obj (record.put "rules" (.obj (normalRuleSet fields).wire)))
  | cleared
      {catalog : ManagedCatalog}
      {handle : String}
      {all record : Fields}
      (hall : shelves catalog.name = .ok all)
      (hrecord : (handle, .obj record) ∈ all) :
      Brings shelves (.clearRules catalog.name handle) catalog.name handle
        (.obj (record.without "rules"))

theorem Reworked.trans
    {sort : String → Json → Prop}
    {first second third : Fields}
    (hfirst : Reworked sort first second)
    (hsecond : Reworked sort second third) :
    Reworked sort first third := by
  induction hsecond with
  | same =>
      exact hfirst
  | put _ good ih =>
      exact .put ih good
  | without handle _ ih =>
      exact .without handle ih

/-- Discovery writes records of discovered scripts. -/
theorem reworked_sightAll
    {site : Site}
    {queue : RenderQueue}
    {known : List String}
    {now : Int}
    {queued : List String}
    {found : Fields}
    {come : Fields × List String}
    {sort : String → Json → Prop}
    (hsort : ∀ handle (script : DiscoveredScript), sort handle (.obj script.toRecord))
    (h : sightAll site queue known now queued found = .ok come) :
    Reworked sort found come.1 := by
  induction queued generalizing found come with
  | nil =>
      obtain rfl := Except.ok.inj h
      exact .same
  | cons first rest ih =>
      rcases sightAll_cons_cases h with
        ⟨hrest, -⟩ | ⟨script, file, added, -, -, -, -, hrest, -⟩
      · exact ih hrest
      · have hfirst := hsort first (sighting first script (file.map Prod.snd) now)
        have htail := ih hrest
        exact Reworked.trans (.put .same hfirst) htail

/-- Moving leaves records of the first catalog out, and writes what becomes of them to the second
one. -/
theorem reworked_moveAll
    (now : Int)
    (named : List String)
    (found removed : Fields)
    {sort : String → Json → Prop}
    (hsort : ∀ handle record,
      (handle, Json.obj record) ∈ found → sort handle (.obj (movedRecord now record)))
    (other : String → Json → Prop) :
    Reworked other found (moveAll now named found removed).1 ∧
      Reworked sort removed (moveAll now named found removed).2.1 := by
  induction named generalizing found removed with
  | nil =>
      exact ⟨.same, .same⟩
  | cons first rest ih =>
      cases hsound : sound? found first with
      | none =>
          simpa only [moveAll, hsound] using ih found removed hsort
      | some record =>
          have hfirst := hsort first record (mem_of_sound? hsound)
          obtain ⟨hleft, hgrown⟩ := ih (found.without first)
            (removed.put first (.obj (movedRecord now record)))
            fun handle record hmem => hsort handle record (Listing.mem_without hmem)
          simp only [moveAll, hsound]
          exact ⟨Reworked.trans (.without first .same) hleft,
            Reworked.trans (.put .same hfirst) hgrown⟩

theorem reworked_takeOut
    (named : List String)
    (records : Fields)
    (sort : String → Json → Prop) :
    Reworked sort records (takeOut named records).1 := by
  induction named generalizing records with
  | nil =>
      exact .same
  | cons first rest ih =>
      cases hvalue : records.value? first with
      | none =>
          simpa only [takeOut, hvalue] using ih records
      | some record =>
          simpa only [takeOut, hvalue] using
            Reworked.trans (.without first .same) (ih (records.without first))

/-- A write is accounted for if its records are reworked from those of its catalog, or if it leaves
none. -/
def Accounted
    (shelves : Shelves)
    (sort : CatalogName → String → Json → Prop)
    (change : Change) : Prop :=
  change.records = [] ∨
    ∃ records, shelves change.name = .ok records ∧
      Reworked (sort change.name) records change.records

section Plans

variable {shelves : Shelves}
variable {changes : List Change}
variable {sort : CatalogName → String → Json → Prop}

theorem accounted_of_crawlPlan
    {site : Site}
    {request : Request}
    {canManage : Option Bool}
    {now : Int}
    {queue : RenderQueue}
    {added : List String}
    (hsort : ∀ handle (script : DiscoveredScript),
      sort .discovered handle (.obj script.toRecord))
    (hplan : crawlPlan site request canManage now queue shelves = .ok (added, changes)) :
    ∀ change ∈ changes, Accounted shelves sort change := by
  rcases found_of_crawlPlan hplan with rfl | ⟨known, found, grown, hfound, hsight, rfl⟩
  · exact List.forall_mem_nil _
  · exact List.forall_mem_singleton.mpr
      (.inr ⟨found, hfound, reworked_sightAll hsort hsight⟩)

/-- Moving brings the records that the moved ones become. -/
theorem accounted_of_dequeuePlan
    {handles : Json}
    {now : Int}
    {moved : List String}
    (hsort : ∀ found handle record, shelves .discovered = .ok found →
      (handle, Json.obj record) ∈ found →
      sort .removed handle (.obj (movedRecord now record)))
    (hplan : dequeuePlan handles now shelves = .ok (moved, changes)) :
    ∀ change ∈ changes, Accounted shelves sort change := by
  obtain ⟨found, removed, named, left, grown, hfound, hremoved, -, hcome, hdone⟩ :=
    found_of_dequeuePlan hplan
  obtain ⟨hleft, hgrown⟩ := reworked_moveAll now named found removed
    (fun handle record hmem => hsort found handle record hfound hmem) (sort .discovered)
  rw [hcome] at hleft hgrown
  rcases hdone with ⟨-, rfl⟩ | rfl
  · exact List.forall_mem_nil _
  · exact List.forall_mem_cons.mpr ⟨.inr ⟨found, hfound, hleft⟩,
      List.forall_mem_singleton.mpr (.inr ⟨removed, hremoved, hgrown⟩)⟩

theorem accounted_of_deletePlan
    {name : CatalogName}
    {handles : Json}
    {taken : List String}
    (hplan : deletePlan name handles shelves = .ok (taken, changes)) :
    ∀ change ∈ changes, Accounted shelves sort change := by
  obtain ⟨all, named, left, hall, -, hcome, ⟨-, rfl⟩ | rfl⟩ := found_of_deletePlan hplan
  · exact List.forall_mem_nil _
  · have hleft := reworked_takeOut named all (sort name)
    rw [hcome] at hleft
    exact List.forall_mem_singleton.mpr (.inr ⟨all, hall, hleft⟩)

/-- An operation writes only records that it brings, and else only leaves records out. -/
theorem accounted_of_plan
    (operation : Operation)
    (hplan : operation.plan shelves = .ok changes) :
    ∀ change ∈ changes, Accounted shelves (Brings shelves operation) change := by
  cases operation with
  | recordIfNew script now =>
      obtain ⟨outcome, houtcome, rfl⟩ := ok_of_map hplan
      rcases found_of_recordIfNewPlan houtcome with hnone | ⟨found, hfound, hdone⟩
      · rw [hnone]
        exact List.forall_mem_nil _
      · rw [hdone]
        exact List.forall_mem_singleton.mpr
          (.inr ⟨found, hfound, .put .same (.noted script now)⟩)
  | crawl site request canManage now queue =>
      obtain ⟨outcome, houtcome, rfl⟩ := ok_of_map hplan
      exact accounted_of_crawlPlan .sighted houtcome
  | dequeue handles now =>
      obtain ⟨outcome, houtcome, rfl⟩ := ok_of_map hplan
      exact accounted_of_dequeuePlan (fun _ _ _ hfound hmem => .moved hfound hmem) houtcome
  | restore handles | forget handles | removeManual handles =>
      obtain ⟨outcome, houtcome, rfl⟩ := ok_of_map hplan
      exact accounted_of_deletePlan houtcome
  | clearDiscovered =>
      obtain rfl := Except.ok.inj hplan
      exact List.forall_mem_singleton.mpr (.inl rfl)
  | registerManual data queue now =>
      obtain ⟨⟨result, _⟩, houtcome, rfl⟩ := ok_of_map hplan
      obtain ⟨form, manual, hform, hmanual, rfl, rfl⟩ := found_of_registerManualPlan houtcome
      exact List.forall_mem_singleton.mpr (.inr ⟨manual, hmanual, .put .same (.added hform)⟩)
  | updateManual handle fields now =>
      obtain ⟨⟨result, _⟩, houtcome, rfl⟩ := ok_of_map hplan
      obtain ⟨manual, current, form, hmanual, hsound, hform, rfl⟩ :=
        found_of_updateManualPlan houtcome
      exact List.forall_mem_singleton.mpr
        (.inr ⟨manual, hmanual, .put .same (.edited hmanual (mem_of_sound? hsound) hform)⟩)
  | setRules registry name handle payload =>
      obtain ⟨⟨result, _⟩, houtcome, rfl⟩ := ok_of_map hplan
      obtain ⟨catalog, fields, all, record, rfl, rfl, hvalid, -, hall, hsound, rfl⟩ :=
        found_of_setRulesPlan houtcome
      exact List.forall_mem_singleton.mpr
        (.inr ⟨all, hall, .put .same (.ruled hall (mem_of_sound? hsound) hvalid)⟩)
  | clearRules name handle =>
      obtain ⟨⟨result, _⟩, houtcome, rfl⟩ := ok_of_map hplan
      obtain ⟨catalog, all, record, rfl, hall, hsound, rfl⟩ := found_of_clearRulesPlan houtcome
      exact List.forall_mem_singleton.mpr
        (.inr ⟨all, hall, .put .same (.cleared hall (mem_of_sound? hsound))⟩)
  | render registry site request discover now queue =>
      obtain ⟨outcome, houtcome, rfl⟩ := ok_of_map hplan
      obtain ⟨taken, crawled, hplan | hnone⟩ := changes_of_renderPlan houtcome
      · exact accounted_of_crawlPlan .rendered hplan
      · rw [hnone]
        exact List.forall_mem_nil _

end Plans

end Steps

section Invariants

/-- Each handle stands once, and its record is a good one. -/
structure Tidy
    (good : String → Json → Prop)
    (records : Fields) : Prop where
  distinct : Listing.Distinct records
  good : ∀ handle value, (handle, value) ∈ records → good handle value

theorem tidy_nil (good : String → Json → Prop) :
    Tidy good [] := by
  refine ⟨List.nodup_nil, fun handle value hmem => ?_⟩
  cases hmem

/-- Records stay tidy when good ones are written. -/
theorem Tidy.reworked
    {good : String → Json → Prop}
    {records changed : Fields}
    (h : Tidy good records)
    (hreworked : Reworked good records changed) :
    Tidy good changed := by
  induction hreworked with
  | same =>
      exact h
  | put _ hgood ih =>
      refine ⟨Listing.distinct_put ih.distinct _ _, fun handle value hmem => ?_⟩
      rcases Listing.mem_put hmem with heq | hold
      · cases heq
        exact hgood
      · exact ih.good handle value hold
  | without handle _ ih =>
      refine ⟨Listing.distinct_without ih.distinct handle, fun other value hmem => ?_⟩
      exact ih.good other value (Listing.mem_without hmem)

theorem Reworked.mono
    {sort good : String → Json → Prop}
    {records changed : Fields}
    (hsort : ∀ handle value, sort handle value → good handle value)
    (h : Reworked sort records changed) :
    Reworked good records changed := by
  induction h with
  | same =>
      exact .same
  | put _ hgood ih =>
      exact .put ih (hsort _ _ hgood)
  | without handle _ ih =>
      exact .without handle ih

namespace Holdings

/-- All three catalogs are tidy. -/
def Tidy
    (holdings : Holdings)
    (good : CatalogName → String → Json → Prop) : Prop :=
  ∀ name, PageScripts.Tidy (good name) (holdings name)

variable {good : CatalogName → String → Json → Prop}
variable {holdings : Holdings}

theorem tidy_changes
    {changes : List Change}
    (h : holdings.Tidy good)
    (hchanges : ∀ change ∈ changes, PageScripts.Tidy (good change.name) change.records) :
    (changes.foldl Holdings.change holdings).Tidy good := by
  induction changes generalizing holdings with
  | nil =>
      exact h
  | cons change rest ih =>
      obtain ⟨hfirst, hrest⟩ := List.forall_mem_cons.mp hchanges
      refine ih (fun name => ?_) hrest
      by_cases hname : name = change.name
      · rw [hname, change_self]
        exact hfirst
      · rw [change_of_ne holdings hname]
        exact h name

/-- A step that brings good records keeps the catalogs tidy. -/
theorem tidy_step
    {operation : Operation}
    (h : holdings.Tidy good)
    (hbrings : ∀ name handle value,
      Brings holdings.shelves operation name handle value → good name handle value) :
    (holdings.step operation).Tidy good := by
  unfold step
  cases hplan : operation.plan holdings.shelves with
  | error fault =>
      exact h
  | ok changes =>
      refine tidy_changes h fun change hmem => ?_
      rcases accounted_of_plan operation hplan change hmem with
        hnone | ⟨records, hrecords, hreworked⟩
      · rw [hnone]
        exact tidy_nil _
      · obtain rfl := Except.ok.inj hrecords
        exact (h change.name).reworked (hreworked.mono (hbrings change.name))

/-- So the catalogs are tidy after every run from the empty store. -/
theorem tidy_run
    {operations : List Operation}
    (hbrings : ∀ operation ∈ operations, ∀ holdings : Holdings, holdings.Tidy good →
      ∀ name handle value,
        Brings holdings.shelves operation name handle value → good name handle value) :
    (empty.run operations).Tidy good := by
  suffices h : ∀ holdings : Holdings, holdings.Tidy good →
      (holdings.run operations).Tidy good from h empty fun name => tidy_nil (good name)
  induction operations with
  | nil =>
      exact fun _ h => h
  | cons operation rest ih =>
      obtain ⟨hfirst, hrest⟩ := List.forall_mem_cons.mp hbrings
      exact fun holdings h => ih hrest (holdings.step operation) (tidy_step h (hfirst holdings h))

end Holdings

end Invariants

end PageScripts
