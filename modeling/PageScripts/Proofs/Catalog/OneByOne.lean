import PageScripts.Proofs.Catalog.Exclusive
import PageScripts.Proofs.Catalog.Local
import PageScripts.Site.Tree

/-!
# A crawl records the scripts one by one

A crawl looks into the catalogs once, goes over the queue with what it has seen, and writes once.
To record the queued scripts one at a time is to look into all catalogs and to write for each of
them anew.

**Steps.**
* `Snapshot`: the handles that were seen before, with the discovered scripts, are those of all
  catalogs; `snapshot_change`: so they are after a script has been recorded.
* `recordIfNewPlan_of_known`, `recordIfNewPlan_of_unknown`: what becomes of one script.
* `run_recordEach`: the scripts recorded one by one, against the queue gone over at once.

**Result.**  `crawl_one_by_one`: both come to the same handles and to the same options.
-/

namespace PageScripts

open Catalog

section Defs

/-- A script of the queue with the metadata of its file, as an entry that has not been recorded. -/
def RegisteredScript.entry
    (script : RegisteredScript)
    (handle : String)
    (file : Option (FilePath × SiteFile)) :
    DiscoveredScript :=
  { handle
    src := script.src
    version := script.version
    deps := script.deps
    inFooter := script.inFooter
    strategy := script.strategy
    size := file.map fun found => found.2.size
    mtime := file.map fun found => found.2.mtime }

/-- Records those of some queued scripts that are registered, one after another; the handles that
were new come back. -/
def Catalog.recordEach
    (site : Site)
    (queue : RenderQueue)
    (now : Int) :
    List String → Action (List String)
  | [] => return []
  | handle :: rest =>
      match queue.script? handle with
      | none => recordEach site queue now rest
      | some script => do
          let file ←
            liftM ((site.layout.localFile? site.files script.src).mapError Fault.address)
          let fresh ← recordIfNew (script.entry handle file) now
          let added ← recordEach site queue now rest
          return if fresh then handle :: added else added

/-- The addresses of the queued scripts can be taken apart. -/
def Site.Resolves
    (site : Site)
    (queue : RenderQueue)
    (queued : List String) : Prop :=
  ∀ handle ∈ queued, ∀ script, queue.script? handle = some script →
    ∃ file, site.layout.localFile? site.files script.src = .ok file

/-- The handles of all catalogs are those that were seen before and those of the discovered
scripts. -/
def Holdings.Snapshot
    (holdings : Holdings)
    (known : List String) : Prop :=
  ∀ handle, (∃ name, handle ∈ (holdings name).keys) ↔
    handle ∈ known ∨ handle ∈ (holdings .discovered).keys

end Defs

section Sight

variable {site : Site}
variable {queue : RenderQueue}
variable {known queued : List String}
variable {now : Int}
variable {found : Fields}
variable {come : Fields × List String}

/-- A crawl that adds no handle leaves the records. -/
theorem found_of_sightAll_nil
    (h : sightAll site queue known now queued found = .ok come)
    (hnone : come.2 = []) :
    come.1 = found := by
  induction queued with
  | nil =>
      cases h
      rfl
  | cons first rest ih =>
      rcases sightAll_cons_cases h with ⟨hrest, -⟩ | ⟨script, file, added, -, -, -, -, -, hcome⟩
      · exact ih hrest
      · rw [hcome] at hnone
        cases hnone

/-- A crawl adds queued handles, in the order of the queue, each once and none that is there. -/
theorem added_of_sightAll
    (h : sightAll site queue known now queued found = .ok come) :
    come.2.Nodup ∧ come.2.Sublist queued ∧ ∀ handle ∈ come.2, handle ∉ found.keys := by
  induction queued generalizing found come with
  | nil =>
      cases h
      exact ⟨List.nodup_nil, .slnil, List.forall_mem_nil _⟩
  | cons first rest ih =>
      rcases sightAll_cons_cases h with
        ⟨hrest, -⟩ | ⟨script, file, added, -, hnew, -, -, hrest, hcome⟩
      · obtain ⟨hnodup, hsublist, hfresh⟩ := ih hrest
        exact ⟨hnodup, hsublist.cons first, hfresh⟩
      · obtain ⟨hnodup, hsublist, hfresh⟩ := ih hrest
        rw [hcome]
        -- The rest of the queue is gone over with the record in place, so it adds other handles.
        have hother : ∀ handle ∈ added, handle ≠ first ∧ handle ∉ found.keys := by
          intro handle hmem
          exact not_or.mp fun hold => hfresh handle hmem ((Listing.mem_keys_put _ _ _ _).mpr hold)
        refine ⟨List.nodup_cons.mpr ⟨fun hmem => (hother first hmem).1 rfl, hnodup⟩,
          hsublist.cons_cons first, List.forall_mem_cons.mpr ⟨hnew, fun handle hmem => ?_⟩⟩
        exact (hother handle hmem).2

/-- A handle that has been seen, or is not registered, is passed over. -/
theorem sightAll_cons_of_skip
    {first : String}
    (h : (first ∈ known ∨ first ∈ found.keys) ∨ queue.script? first = none) :
    sightAll site queue known now (first :: queued) found =
      sightAll site queue known now queued found := by
  rw [sightAll]
  by_cases hseen : (known.contains first || found.has first) = true
  · rw [if_pos hseen]
  · rw [if_neg hseen]
    rw [Bool.or_eq_true, List.contains_iff_mem, Listing.has_iff_mem_keys] at hseen
    rw [h.resolve_left hseen]

/-- A registered script that has not been seen is written down. -/
theorem sightAll_cons_of_new
    {first : String}
    {script : RegisteredScript}
    {file : Option (FilePath × SiteFile)}
    (hnew : ¬ (first ∈ known ∨ first ∈ found.keys))
    (hscript : queue.script? first = some script)
    (hfile : site.layout.localFile? site.files script.src = .ok file) :
    sightAll site queue known now (first :: queued) found =
      (sightAll site queue known now queued
        (found.put first (.obj (sighting first script (file.map Prod.snd) now).toRecord))).map
          fun come => (come.1, first :: come.2) := by
  rw [← List.contains_iff_mem, ← Listing.has_iff_mem_keys, ← Bool.or_eq_true] at hnew
  rw [sightAll, if_neg hnew, hscript]
  simp only [hfile]
  rfl

end Sight

section Step

variable {holdings : Holdings}
variable {known : List String}

theorem snapshot_allHandles
    (h : holdings.shelves.allHandles = .ok known) :
    holdings.Snapshot known := by
  intro handle
  rw [Holdings.mem_allHandles_iff h]
  exact ⟨Or.inl, fun hmem => hmem.elim id fun hfound => ⟨_, hfound⟩⟩

/-- A script that is recorded is seen among the discovered ones. -/
theorem snapshot_change
    (h : holdings.Snapshot known)
    (handle : String)
    (record : Json) :
    (holdings.change
      (.replace .discovered ((holdings .discovered).put handle record))).Snapshot known := by
  intro other
  have hmem : ∀ name, other ∈ (holdings.change
      (.replace .discovered ((holdings .discovered).put handle record)) name).keys ↔
        other ∈ (holdings name).keys ∨ name = .discovered ∧ other = handle := by
    intro name
    cases name with
    | discovered =>
        refine (Listing.mem_keys_put handle other record (holdings .discovered)).trans ?_
        simp [or_comm]
    | removed | manual =>
        simp [Holdings.change, Change.name]
  simp only [hmem, exists_or, h other, exists_eq_left, true_and, or_assoc]

variable (script : DiscoveredScript)
variable (now : Int)

/-- A script that a catalog has is not recorded. -/
theorem recordIfNewPlan_of_known
    (hknown : ∃ name, script.handle ∈ (holdings name).keys) :
    recordIfNewPlan script now holdings.shelves = .ok (false, []) := by
  unfold recordIfNewPlan
  cases howner : holdings.shelves.ownerOf script.handle with
  | error fault =>
      rw [ownerOf_shelves] at howner
      cases howner
  | ok owner =>
      cases owner with
      | some name =>
          rfl
      | none =>
          obtain ⟨name, hmem⟩ := hknown
          exact absurd ⟨_, rfl, hmem⟩ (Shelves.not_keeps_of_ownerOf howner name)

/-- A handle that no catalog has is without an owner. -/
theorem ownerOf_of_unknown
    {handle : String}
    (hunknown : ¬ ∃ name, handle ∈ (holdings name).keys) :
    holdings.shelves.ownerOf handle = .ok none := by
  rw [ownerOf_shelves, Glimpse.owner?, List.find?_eq_none.mpr]
  intro name _ hsome
  exact hunknown ⟨name, (Listing.has_iff_mem_keys _ _).mp hsome⟩

/-- A script that no catalog has is recorded. -/
theorem recordIfNewPlan_of_unknown
    (hunknown : ¬ ∃ name, script.handle ∈ (holdings name).keys) :
    recordIfNewPlan script now holdings.shelves =
      .ok (true, [ .replace .discovered
        ((holdings .discovered).put script.handle (.obj { script with found := now }.toRecord)) ]) := by
  unfold recordIfNewPlan
  rw [ownerOf_of_unknown hunknown]
  rfl

end Step

section Runs

variable {site : Site}
variable {queue : RenderQueue}
variable (now : Int)
variable {known queued : List String}
variable {holdings : Holdings}
variable {session : Session}

/-- In a session that gives the catalogs out, to record a script comes to what is planned. -/
theorem run_recordIfNew
    {script : DiscoveredScript}
    {fresh : Bool}
    {changes : List Change}
    (h : session.shelves = holdings.shelves)
    (hplan : recordIfNewPlan script now holdings.shelves = .ok (fresh, changes)) :
    ∃ after,
      (recordIfNew script now).run session = (.ok fresh, after) ∧
      after.medium = session.medium ∧
      after.options = (changes.map Change.access).foldl Access.apply session.options ∧
      after.shelves = (changes.foldl Holdings.change holdings).shelves := by
  have hintact := Session.intact_of_shelf (congrFun h .discovered)
  rw [← h] at hplan
  obtain ⟨after, hrun, hmedium, hoptions, hshelves⟩ :=
    run_of_plan (follows_recordIfNew script now) hintact hplan
  rw [h, ← Holdings.shelves_changes] at hshelves
  exact ⟨after, hrun, hmedium, hoptions, hshelves⟩

/-- A registered script is recorded, and then the rest of the queue. -/
theorem run_recordEach_cons
    {first : String}
    {script : RegisteredScript}
    {file : Option (FilePath × SiteFile)}
    {fresh : Bool}
    {middle after : Session}
    {added : List String}
    (hscript : queue.script? first = some script)
    (hfile : site.layout.localFile? site.files script.src = .ok file)
    (hfirst : (recordIfNew (script.entry first file) now).run session = (.ok fresh, middle))
    (hrest : (recordEach site queue now queued).run middle = (.ok added, after)) :
    (recordEach site queue now (first :: queued)).run session =
      (.ok (if fresh then first :: added else added), after) := by
  simp only [recordEach, hscript, hfile, Except.mapError, Action.run_bind, Action.run_lift, hfirst,
    hrest, Action.run_pure]

/-- The scripts recorded one by one, against the queue gone over at once.  The first way writes the
option of the discovered scripts for each script that is new, so the last of its writes counts. -/
theorem run_recordEach
    (hgiven : session.shelves = holdings.shelves)
    (hsnapshot : holdings.Snapshot known)
    (hresolves : site.Resolves queue queued) :
    ∃ grown added after,
      sightAll site queue known now queued (holdings .discovered) = .ok (grown, added) ∧
      (recordEach site queue now queued).run session = (.ok added, after) ∧
      after.medium = session.medium ∧
      after.options =
        if added = [] then session.options
        else session.options.put CatalogName.discovered.option (.obj grown) := by
  induction queued generalizing session holdings with
  | nil =>
      exact ⟨_, _, session, rfl, rfl, rfl, rfl⟩
  | cons first rest ih =>
      have hlater : site.Resolves queue rest :=
        fun handle hmem => hresolves handle (List.mem_cons_of_mem first hmem)
      cases hscript : queue.script? first with
      | none =>
          rw [sightAll_cons_of_skip (.inr hscript), recordEach, hscript]
          exact ih hgiven hsnapshot hlater
      | some script =>
          obtain ⟨file, hfile⟩ := hresolves first List.mem_cons_self script hscript
          by_cases hknown : ∃ name, first ∈ (holdings name).keys
          · obtain ⟨middle, hfirst, hmedium, hoptions, hshelves⟩ := run_recordIfNew now hgiven
              (recordIfNewPlan_of_known (script.entry first file) now hknown)
            have hkept : middle.shelves = holdings.shelves := hshelves
            obtain ⟨grown, added, after, hsight, hrest, hsame, hdone⟩ :=
              ih hkept hsnapshot hlater
            refine ⟨grown, added, after, ?_, run_recordEach_cons now hscript hfile hfirst hrest,
              hsame.trans hmedium, ?_⟩
            · rw [sightAll_cons_of_skip (.inl ((hsnapshot first).mp hknown)), hsight]
            · rw [hdone, hoptions]
              rfl
          · have hrecord : ({ script.entry first file with found := now } : DiscoveredScript) =
                sighting first script (file.map Prod.snd) now := by
              cases file <;> rfl
            obtain ⟨middle, hfirst, hmedium, hoptions, hshelves⟩ := run_recordIfNew now hgiven
              (recordIfNewPlan_of_unknown (script.entry first file) now hknown)
            rw [hrecord] at hoptions hshelves
            obtain ⟨grown, added, after, hsight, hrest, hsame, hdone⟩ :=
              ih hshelves (snapshot_change hsnapshot first _) hlater
            refine ⟨grown, first :: added, after, ?_,
              run_recordEach_cons now hscript hfile hfirst hrest, hsame.trans hmedium, ?_⟩
            · rw [sightAll_cons_of_new (mt (hsnapshot first).mpr hknown) hscript hfile]
              exact congrArg _ hsight
            · rw [hdone, hoptions, if_neg (List.cons_ne_nil first added)]
              by_cases hnone : added = []
              · have hgrown : grown = _ := found_of_sightAll_nil hsight hnone
                rw [if_pos hnone, hgrown]
                rfl
              · rw [if_neg hnone]
                exact Listing.put_put _ _ _ _

/-- What a crawl plans that counts, in a session that gives the catalogs out. -/
theorem crawlPlan_eq
    {request : Request}
    {canManage : Option Bool}
    (hcounts : request.isFrontend = true ∧ canManage.getD request.canManage = true)
    (hknown : holdings.shelves.allHandles = .ok known) :
    crawlPlan site request canManage now queue holdings.shelves =
      (sightAll site queue known now queue.queued (holdings .discovered)).map fun come =>
        (come.2, if come.2 = [] then [] else [.replace .discovered come.1]) := by
  have hcount : (request.isFrontend && canManage.getD request.canManage) = true := by
    rw [hcounts.1, hcounts.2]
    rfl
  unfold crawlPlan crawlHandlesPlan
  rw [if_pos hcount, hknown]
  simp only [Holdings.shelves, bind, Except.bind]
  cases sightAll site queue known now queue.queued (holdings .discovered) with
  | error fault =>
      rfl
  | ok come =>
      obtain ⟨grown, added⟩ := come
      cases added <;> rfl

/-- In a session that gives the catalogs out, a crawl that counts comes to what its queue shows. -/
theorem run_crawl
    {request : Request}
    {canManage : Option Bool}
    {grown : Fields}
    {added : List String}
    (hcounts : request.isFrontend = true ∧ canManage.getD request.canManage = true)
    (hgiven : session.shelves = holdings.shelves)
    (hknown : holdings.shelves.allHandles = .ok known)
    (hsight : sightAll site queue known now queue.queued (holdings .discovered) =
      .ok (grown, added)) :
    ∃ after,
      (crawl site request canManage now queue).run session = (.ok added, after) ∧
      after.medium = session.medium ∧
      after.options =
        if added = [] then session.options
        else session.options.put CatalogName.discovered.option (.obj grown) := by
  have hintact := Session.intact_of_shelf (congrFun hgiven .discovered)
  have hplan : crawlPlan site request canManage now queue holdings.shelves =
      .ok (added, if added = [] then [] else [.replace .discovered grown]) := by
    rw [crawlPlan_eq now hcounts hknown, hsight]
    rfl
  rw [← hgiven] at hplan
  obtain ⟨after, hrun, hmedium, hoptions, -⟩ :=
    run_of_plan (follows_crawl site request canManage now queue) hintact hplan
  refine ⟨after, hrun, hmedium, ?_⟩
  rw [hoptions]
  by_cases hnone : added = []
  · rw [if_pos hnone, if_pos hnone]
    rfl
  · rw [if_neg hnone, if_neg hnone]
    rfl

end Runs

/-- A crawl records the scripts one by one.  Let any queue be crawled: it may name a handle more than
once, and handles that are not registered.
* If the request counts, the store gives all catalogs out, and the addresses of the queued scripts can
  be taken apart, then the crawl comes to the same handles as recording the registered ones of the
  queue one after another, and both leave the same options and so the same catalogs.  The handles
  come in the order of the queue, each once.
* If the request does not count, the crawl gives no handles and leaves the session as it is. -/
theorem crawl_one_by_one
    (site : Site)
    (request : Request)
    (canManage : Option Bool)
    (now : Int)
    (queue : RenderQueue)
    (session : Session) :
    let counts := request.isFrontend = true ∧ canManage.getD request.canManage = true
    let crawled := (crawl site request canManage now queue).run session
    let recorded := (recordEach site queue now queue.queued).run session
    (counts →
      (∀ name, ∃ records, session.shelves name = .ok records) →
      site.Resolves queue queue.queued →
      ∃ added,
        crawled.1 = .ok added ∧
        recorded.1 = .ok added ∧
        added.Sublist queue.queued ∧
        added.Nodup ∧
        crawled.2.options = recorded.2.options ∧
        crawled.2.shelves = recorded.2.shelves) ∧
    (¬ counts → crawled = (.ok [], session)) := by
  intro counts crawled recorded
  constructor
  · intro hcounts hgiven hresolves
    obtain ⟨holdings, hholdings⟩ := Classical.axiomOfChoice hgiven
    have hshelves : session.shelves = Holdings.shelves holdings := funext hholdings
    have hknown := Holdings.allHandles_shelves holdings
    obtain ⟨grown, added, after, hsight, heach, hmedium, hoptions⟩ :=
      run_recordEach now hshelves (snapshot_allHandles hknown) hresolves
    obtain ⟨left, hcrawl, hsame, hdone⟩ := run_crawl now hcounts hshelves hknown hsight
    obtain ⟨hnodup, hsublist, -⟩ := added_of_sightAll hsight
    have hequal : left.options = after.options := hdone.trans hoptions.symm
    refine ⟨added, congrArg Prod.fst hcrawl, congrArg Prod.fst heach, hsublist, hnodup, ?_, ?_⟩
    · simp only [crawled, recorded, hcrawl, heach, hequal]
    · simp only [crawled, recorded, hcrawl, heach]
      exact Session.shelves_congr hequal (hsame.trans hmedium.symm)
  · intro hcounts
    have hcount : ¬ (request.isFrontend && canManage.getD request.canManage) = true := by
      rwa [Bool.and_eq_true]
    simp only [crawled, crawl, if_neg hcount]
    rfl

/-- A site that has the file of one script. -/
def onePageSite : Site :=
  { layout := { siteUrl := "https://a.b", installDir := some (FilePath.ofText "www") }
    files := FileTree.siteFiles { entries := [(["www", "app.js"], { size := 12, mtime := 5 })] } }

/-- A queue that names one script twice, one that is not registered, and one that is in a catalog. -/
def repeatedQueue : RenderQueue :=
  { registered :=
      [ ("app", { handle := "app", src := "https://a.b/app.js", declared := "eager" }),
        ("old", { handle := "old", src := "https://a.b/old.js" }),
        ("map", { handle := "map", src := "/map.js", declared := "defer" }) ]
    queued := ["old", "app", "ghost", "app", "map"] }

/-- A store with a removed script and no discovered ones. -/
def sparseSession : Session :=
  { options := [("psa_found_scripts", .arr []), ("psa_dequeued_scripts", .obj [("old", .int 1)])]
    medium := .table }

/-- Two scripts are new, and the second time the first one is not. -/
theorem crawl_one_by_one_repeated :
    let crawled := (crawl onePageSite {} (some true) 7 repeatedQueue).run sparseSession
    let recorded :=
      (recordEach onePageSite repeatedQueue 7 repeatedQueue.queued).run sparseSession
    crawled.1 = .ok ["app", "map"] ∧
    recorded.1 = .ok ["app", "map"] ∧
    crawled.2.options = recorded.2.options := by
  have hcrawled : ((crawl onePageSite {} (some true) 7 repeatedQueue).run sparseSession).1 =
      .ok ["app", "map"] := by
    decide +kernel
  have hgiven : ∀ name, ∃ records, sparseSession.shelves name = .ok records := by
    intro name
    cases name <;> exact ⟨_, rfl⟩
  have hparsed : ∀ entry ∈ repeatedQueue.registered,
      (onePageSite.layout.localFile? onePageSite.files entry.2.src).isOk = true := by
    decide +kernel
  have hresolves : onePageSite.Resolves repeatedQueue repeatedQueue.queued := by
    intro handle _ script hscript
    have hok := hparsed (handle, script) (Listing.mem_of_value? hscript)
    cases hfile : onePageSite.layout.localFile? onePageSite.files script.src with
    | error fault =>
        rw [hfile] at hok
        cases hok
    | ok file =>
        exact ⟨file, rfl⟩
  obtain ⟨added, hcrawl, hrecord, -, -, hoptions, -⟩ :=
    (crawl_one_by_one onePageSite {} (some true) 7 repeatedQueue sparseSession).1
      ⟨rfl, rfl⟩ hgiven hresolves
  rw [hcrawled] at hcrawl
  obtain rfl := Except.ok.inj hcrawl
  exact ⟨hcrawled, hrecord, hoptions⟩

end PageScripts
