import PageScripts.Proofs.Catalog.Exclusive
import PageScripts.Proofs.Catalog.Holdings
import PageScripts.Proofs.Render.Queue

/-!
# A render pass may be repeated

The second of two passes over one page loads again what the first one removed, declares the
strategies again, and goes over another queue than the first one did.  Still it ends where it
began.

**Steps.**
* `enlist_again`: handles that are brought into a list and then filtered come to rest at once.
* `script?_loadAll_cases`: loading keeps a script, or registers it if need be and declares one
  strategy.
* `loops_again`: so the two loops of a pass, done twice, are the loops done once.
* `crawlPlan_again`: what was discovered once is not discovered again, wherever and whenever.

**Result.**  `renderPass_again`: a pass that came to a report comes to it again, without
discoveries, and leaves the page as it is.
-/

namespace PageScripts

open RenderQueue

section Handles

/-- Brings a handle into a list: it comes last, unless it is there. -/
def enlist
    (handles : List String)
    (handle : String) :
    List String :=
  if handle ∈ handles then handles else handles ++ [handle]

theorem mem_enlist
    (handles : List String)
    (handle other : String) :
    other ∈ enlist handles handle ↔ other ∈ handles ∨ other = handle := by
  unfold enlist
  by_cases hmem : handle ∈ handles
  · rw [if_pos hmem]
    constructor
    · exact Or.inl
    · rintro (hother | rfl)
      · exact hother
      · exact hmem
  · rw [if_neg hmem, List.mem_append, List.mem_singleton]

theorem mem_foldl_enlist
    (news handles : List String)
    (other : String) :
    other ∈ news.foldl enlist handles ↔ other ∈ handles ∨ other ∈ news := by
  induction news generalizing handles with
  | nil =>
      simp
  | cons first rest ih =>
      rw [List.foldl_cons, ih, mem_enlist, List.mem_cons, or_assoc]

/-- To bring in handles that are there changes nothing. -/
theorem foldl_enlist_of_subset
    {news handles : List String}
    (h : ∀ handle ∈ news, handle ∈ handles) :
    news.foldl enlist handles = handles := by
  induction news with
  | nil =>
      rfl
  | cons first rest ih =>
      have hfirst : enlist handles first = handles := if_pos (h first List.mem_cons_self)
      rw [List.foldl_cons, hfirst]
      exact ih fun handle hmem => h handle (List.mem_cons_of_mem first hmem)

theorem filter_enlist
    (keep : String → Bool)
    (handles : List String)
    (handle : String) :
    (enlist handles handle).filter keep =
      if keep handle then enlist (handles.filter keep) handle else handles.filter keep := by
  unfold enlist
  by_cases hkeep : keep handle = true
  · by_cases hmem : handle ∈ handles <;> simp [hkeep, hmem]
  · by_cases hmem : handle ∈ handles <;> simp [hkeep, hmem]

/-- It does not matter whether handles are filtered before or after they are brought in. -/
theorem filter_foldl_enlist
    (keep : String → Bool)
    (news handles : List String) :
    (news.foldl enlist handles).filter keep =
      (news.filter keep).foldl enlist (handles.filter keep) := by
  induction news generalizing handles with
  | nil =>
      rfl
  | cons first rest ih =>
      rw [List.foldl_cons, ih, filter_enlist, List.filter_cons]
      by_cases hkeep : keep first = true
      · rw [if_pos hkeep, if_pos hkeep, List.foldl_cons]
      · rw [if_neg hkeep, if_neg hkeep]

/-- Handles that are brought into a list and then filtered come to rest at once. -/
theorem enlist_again
    (keep : String → Bool)
    (news handles : List String) :
    let once := (news.foldl enlist handles).filter keep
    (news.foldl enlist once).filter keep = once := by
  intro once
  have hfiltered : once.filter keep = once := by
    simp only [once, List.filter_filter, Bool.and_self]
  have hthere : ∀ handle ∈ news.filter keep, handle ∈ once := by
    intro handle hmem
    obtain ⟨hnew, hkeep⟩ := List.mem_filter.mp hmem
    exact List.mem_filter.mpr ⟨(mem_foldl_enlist news handles handle).mpr (.inr hnew), hkeep⟩
  rw [filter_foldl_enlist, hfiltered, foldl_enlist_of_subset hthere]

end Handles

section Order

@[simp]
theorem keys_register
    (script : RegisteredScript)
    (queue : RenderQueue) :
    (queue.register script).registered.keys = enlist queue.registered.keys script.handle := by
  unfold register enlist
  simp only [Listing.has_iff_mem_keys]
  by_cases hmem : script.handle ∈ queue.registered.keys
  · rw [if_pos hmem, if_pos hmem]
  · rw [if_neg hmem, if_neg hmem, Listing.keys_put, if_neg hmem]

@[simp]
theorem registered_enqueue
    (handle : String)
    (queue : RenderQueue) :
    (queue.enqueue handle).registered = queue.registered := by
  unfold enqueue
  split <;> rfl

@[simp]
theorem keys_setStrategy
    (handle word : String)
    (queue : RenderQueue) :
    (queue.setStrategy handle word).registered.keys = queue.registered.keys := by
  unfold setStrategy
  cases hvalue : queue.registered.value? handle with
  | none =>
      rfl
  | some script =>
      simp only [Listing.keys_put, if_pos (Listing.mem_keys_of_value? hvalue)]

/-- One manual script, loaded: it is registered last, unless it is registered already. -/
theorem keys_load
    (handle : String)
    (script : ManagedScript)
    (queue : RenderQueue) :
    (queue.load handle script).registered.keys = enlist queue.registered.keys handle := by
  unfold load
  by_cases hplain : script.strategy = .plain
  · simp [hplain]
  · simp [hplain]

/-- All of them, loaded: in which order they are loaded, and registered. -/
theorem order_loadAll
    (scripts : Listing String ManagedScript)
    (queue : RenderQueue) :
    (queue.loadAll scripts).queued = scripts.keys.foldl enlist queue.queued ∧
    (queue.loadAll scripts).registered.keys =
      scripts.keys.foldl enlist queue.registered.keys := by
  induction scripts generalizing queue with
  | nil =>
      exact ⟨rfl, rfl⟩
  | cons entry rest ih =>
      obtain ⟨handle, script⟩ := entry
      have htail := ih (queue.load handle script)
      have hqueued : (queue.load handle script).queued = enlist queue.queued handle :=
        queued_load handle script queue
      rw [hqueued, keys_load] at htail
      exact htail

theorem keys_removeAll
    (handles : List String)
    (queue : RenderQueue) :
    (queue.removeAll handles).registered.keys =
      queue.registered.keys.filter fun handle => handle ∉ handles := by
  induction handles generalizing queue with
  | nil =>
      simp [removeAll]
  | cons first rest ih =>
      have htail := ih (queue.remove first)
      have hremove : (queue.remove first).registered.keys =
          queue.registered.keys.filter (· ≠ first) :=
        Listing.keys_without first queue.registered
      unfold removeAll at htail ⊢
      rw [List.foldl_cons, htail, hremove, List.filter_filter]
      apply List.filter_congr
      intro handle _
      by_cases heq : handle = first <;> simp [heq]

theorem reachable_removeAll
    (handles : List String)
    {queue : RenderQueue}
    (reachable : queue.Reachable) :
    (queue.removeAll handles).Reachable := by
  induction handles generalizing queue with
  | nil =>
      exact reachable
  | cons first rest ih =>
      exact ih (reachable.remove first)

end Order

section Loops

/-- The views of a queue, and the order of registration, are all there is to it. -/
theorem eq_of_views
    {first second : RenderQueue}
    (distinct : first.registered.Distinct)
    (hkeys : first.registered.keys = second.registered.keys)
    (hscripts : ∀ handle, first.script? handle = second.script? handle)
    (hqueued : first.queued = second.queued) :
    first = second := by
  cases first
  cases second
  obtain rfl := Listing.ext_of_value? distinct hkeys hscripts
  obtain rfl := hqueued
  rfl

/-- The script with another declaration, if there is one. -/
def RegisteredScript.declaring
    (word : Option String)
    (script : RegisteredScript) :
    RegisteredScript :=
  { script with declared := word.or script.declared }

theorem declaring_declaring
    (first second : Option String)
    (script : RegisteredScript) :
    (script.declaring first).declaring second = script.declaring (second.or first) := by
  unfold RegisteredScript.declaring
  rw [Option.or_assoc]

theorem declare_eq_declaring (script : ManagedScript) :
    ∃ word, ∀ known, script.declare known = known.declaring word := by
  by_cases hplain : script.strategy = .plain
  · exact ⟨none, fun known => if_pos hplain⟩
  · exact ⟨some script.strategy.word, fun known => if_neg hplain⟩

/-- Loading leaves what is registered under a handle; or it registers a script if there is none,
and declares one strategy. -/
theorem script?_loadAll_cases
    (scripts : Listing String ManagedScript)
    (handle : String) :
    (∀ queue : RenderQueue, (queue.loadAll scripts).script? handle = queue.script? handle) ∨
    ∃ fresh word, ∀ queue : RenderQueue,
      (queue.loadAll scripts).script? handle =
        some (((queue.script? handle).getD fresh).declaring word) := by
  induction scripts with
  | nil =>
      exact .inl fun queue => rfl
  | cons entry rest ih =>
      obtain ⟨first, script⟩ := entry
      have hcons (queue : RenderQueue) :
          (queue.loadAll ((first, script) :: rest)).script? handle =
            ((queue.load first script).loadAll rest).script? handle := rfl
      by_cases hfirst : first = handle
      · subst hfirst
        obtain ⟨word, hword⟩ := declare_eq_declaring script
        have hload (queue : RenderQueue) : (queue.load first script).script? first =
            some (((queue.script? first).getD (script.registration first)).declaring word) := by
          rw [script?_load, if_pos rfl, ManagedScript.loaded, hword]
        refine .inr ⟨script.registration first, ?_⟩
        rcases ih with hkeep | ⟨fresh, other, hrest⟩
        · exact ⟨word, fun queue => by rw [hcons, hkeep, hload]⟩
        · refine ⟨other.or word, fun queue => ?_⟩
          rw [hcons, hrest, hload, Option.getD_some, declaring_declaring]
      · have hload (queue : RenderQueue) :
            (queue.load first script).script? handle = queue.script? handle := by
          rw [script?_load, if_neg hfirst]
        rcases ih with hkeep | ⟨fresh, word, hrest⟩
        · exact .inl fun queue => by rw [hcons, hkeep, hload]
        · exact .inr ⟨fresh, word, fun queue => by rw [hcons, hrest, hload]⟩

/-- What is registered after loading, is so after loading again. -/
theorem script?_loadAll_again
    (scripts : Listing String ManagedScript)
    {first second : RenderQueue}
    {handle : String}
    (h : second.script? handle = (first.loadAll scripts).script? handle) :
    (second.loadAll scripts).script? handle = (first.loadAll scripts).script? handle := by
  rcases script?_loadAll_cases scripts handle with hkeep | ⟨fresh, word, hload⟩
  · rw [hkeep, h]
  · rw [hload, h, hload, Option.getD_some, declaring_declaring, Option.or_self]

/-- The two loops of a pass, done twice, are the loops done once. -/
theorem loops_again
    (scripts : Listing String ManagedScript)
    (handles : List String)
    {queue : RenderQueue}
    (reachable : queue.Reachable) :
    let once := (queue.loadAll scripts).removeAll handles
    (once.loadAll scripts).removeAll handles = once := by
  intro once
  have hloaded := reachable_loadAll scripts reachable
  have honce : once.Reachable := reachable_removeAll handles hloaded
  have hagain := reachable_loadAll scripts honce
  let keep (handle : String) : Bool := handle ∉ handles
  have hqueued : once.queued = (scripts.keys.foldl enlist queue.queued).filter keep := by
    rw [queued_removeAll handles (orderly_of_reachable hloaded).loadedOnce,
      (order_loadAll scripts queue).1]
  have hkeys : once.registered.keys =
      (scripts.keys.foldl enlist queue.registered.keys).filter keep := by
    rw [keys_removeAll, (order_loadAll scripts queue).2]
  have hqueued' : ((once.loadAll scripts).removeAll handles).queued = once.queued := by
    rw [queued_removeAll handles (orderly_of_reachable hagain).loadedOnce,
      (order_loadAll scripts once).1, hqueued]
    exact enlist_again keep scripts.keys queue.queued
  have hkeys' : ((once.loadAll scripts).removeAll handles).registered.keys =
      once.registered.keys := by
    rw [keys_removeAll, (order_loadAll scripts once).2, hkeys]
    exact enlist_again keep scripts.keys queue.registered.keys
  have hscripts (handle : String) :
      ((once.loadAll scripts).removeAll handles).script? handle = once.script? handle := by
    rw [script?_removeAll, script?_removeAll]
    by_cases hmem : handle ∈ handles
    · rw [if_pos hmem, if_pos hmem]
    · rw [if_neg hmem, if_neg hmem]
      apply script?_loadAll_again
      rw [script?_removeAll, if_neg hmem]
  have hdistinct := (orderly_of_reachable (reachable_removeAll handles hagain)).distinct
  exact eq_of_views hdistinct hkeys' hscripts hqueued'

end Loops

section Discovery

open Catalog

/-- Discovery passes the handle over: it is known, or nothing is registered under it. -/
def Settled
    (queue : RenderQueue)
    (known : List String)
    (found : Fields)
    (handle : String) : Prop :=
  handle ∈ known ∨ handle ∈ found.keys ∨ queue.script? handle = none

theorem sightAll_of_settled
    {queue : RenderQueue}
    {known : List String}
    {found : Fields}
    {handles : List String}
    (h : ∀ handle ∈ handles, Settled queue known found handle)
    (site : Site)
    (now : Int) :
    sightAll site queue known now handles found = .ok (found, []) := by
  induction handles with
  | nil =>
      rfl
  | cons first rest ih =>
      have hrest := ih fun handle hmem => h handle (List.mem_cons_of_mem first hmem)
      rw [sightAll]
      by_cases hskip : (known.contains first || found.has first) = true
      · rw [if_pos hskip]
        exact hrest
      · rw [if_neg hskip]
        rw [Bool.or_eq_true, not_or, List.contains_iff_mem, Listing.has_iff_mem_keys] at hskip
        rcases h first List.mem_cons_self with hknown | hfound | hnone
        · exact absurd hknown hskip.1
        · exact absurd hfound hskip.2
        · rw [hnone]
          exact hrest

/-- Discovery keeps the handles that were found before, settles those that it goes over, and
without a new one leaves the records. -/
theorem settled_of_sightAll
    {site : Site}
    {queue : RenderQueue}
    {known : List String}
    {now : Int}
    {handles : List String}
    {found : Fields}
    {come : Fields × List String}
    (h : sightAll site queue known now handles found = .ok come) :
    (∀ handle ∈ found.keys, handle ∈ come.1.keys) ∧
    (∀ handle ∈ handles, Settled queue known come.1 handle) ∧
    (come.2 = [] → come.1 = found) := by
  induction handles generalizing found come with
  | nil =>
      obtain rfl := Except.ok.inj h
      exact ⟨fun _ hmem => hmem, fun _ hmem => (List.not_mem_nil hmem).elim, fun _ => rfl⟩
  | cons first rest ih =>
      rcases sightAll_cons_cases h with
        ⟨hrest, hsettled⟩ | ⟨script, file, added, -, -, -, -, hrest, hcome⟩
      · obtain ⟨hkeep, hothers, hsame⟩ := ih hrest
        refine ⟨hkeep, fun handle hmem => ?_, hsame⟩
        rcases List.mem_cons.mp hmem with rfl | hmem
        · exact hsettled.imp_right (Or.imp_left (hkeep handle))
        · exact hothers handle hmem
      · obtain ⟨hkeep, hothers, -⟩ := ih hrest
        have hkeep' (handle : String) (hmem : handle = first ∨ handle ∈ found.keys) :
            handle ∈ come.1.keys :=
          hkeep handle ((Listing.mem_keys_put first handle _ found).mpr hmem)
        refine ⟨fun handle hmem => hkeep' handle (.inr hmem), fun handle hmem => ?_, ?_⟩
        · rcases List.mem_cons.mp hmem with rfl | hmem
          · exact .inr (.inl (hkeep' handle (.inl rfl)))
          · exact hothers handle hmem
        · intro hnone
          rw [hcome] at hnone
          cases hnone

/-- The plan of a crawl that has nothing left to discover. -/
theorem crawlHandlesPlan_of_settled
    {holdings : Holdings}
    {queue : RenderQueue}
    {handles : List String}
    (h : ∀ handle ∈ handles,
      (∃ name, handle ∈ (holdings name).keys) ∨ queue.script? handle = none)
    (site : Site)
    (now : Int) :
    crawlHandlesPlan site queue handles now holdings.shelves = .ok ([], []) := by
  have hknown := holdings.allHandles_shelves
  have hfound : holdings.shelves .discovered = .ok (holdings .discovered) := rfl
  have hsettled : ∀ handle ∈ handles, Settled queue _ (holdings .discovered) handle :=
    fun handle hmem => (h handle hmem).imp (Holdings.mem_allHandles_iff hknown handle).mpr .inr
  unfold crawlHandlesPlan
  rw [hknown, hfound]
  simp only [bind, Except.bind, sightAll_of_settled hsettled site now]
  rfl

/-- What a crawl leaves: the discovered scripts have become more, and every queued handle is in
a catalog now, or nothing is registered under it. -/
theorem crawlHandlesPlan_cases
    {site : Site}
    {queue : RenderQueue}
    {handles : List String}
    {now : Int}
    {holdings : Holdings}
    {result : List String}
    {changes : List Change}
    (h : crawlHandlesPlan site queue handles now holdings.shelves = .ok (result, changes)) :
    ∃ left : Holdings,
      changes.foldl Shelves.change holdings.shelves = left.shelves ∧
      (∀ name, name ≠ .discovered → left name = holdings name) ∧
      ∀ handle ∈ handles, (∃ name, handle ∈ (left name).keys) ∨ queue.script? handle = none := by
  obtain ⟨known, hknown, hrest⟩ := ok_of_bind h
  obtain ⟨found, hfound, hrest⟩ := ok_of_bind hrest
  obtain ⟨⟨grown, added⟩, hsight, hdone⟩ := ok_of_bind hrest
  obtain rfl := Except.ok.inj hfound
  obtain ⟨hkeep, hsettled, hsame⟩ := settled_of_sightAll hsight
  let left := holdings.change (.replace .discovered grown)
  have hfound : left .discovered = grown := holdings.change_self _
  have hothers (name : CatalogName) (hname : name ≠ .discovered) : left name = holdings name :=
    holdings.change_of_ne hname
  refine ⟨left, ?_, hothers, fun handle hmem => ?_⟩
  · cases added with
    | nil =>
        -- Nothing was written, and nothing has changed.
        obtain rfl : grown = holdings .discovered := hsame rfl
        cases hdone
        refine congrArg Holdings.shelves (funext fun name => ?_)
        by_cases hname : name = .discovered
        · rw [hname, hfound]
        · rw [hothers name hname]
    | cons handle rest =>
        cases hdone
        exact (holdings.shelves_change _).symm
  · rcases hsettled handle hmem with hold | hnew | hnone
    · obtain ⟨name, hname⟩ := (Holdings.mem_allHandles_iff hknown handle).mp hold
      refine .inl ⟨name, ?_⟩
      by_cases hcase : name = .discovered
      · rw [hcase, hfound]
        exact hkeep handle (hcase ▸ hname)
      · rw [hothers name hcase]
        exact hname
    · exact .inl ⟨.discovered, hfound ▸ hnew⟩
    · exact .inr hnone

/-- What was discovered once is not discovered again, on whatever site and whenever; and the
other catalogs are left alone. -/
theorem crawlPlan_again
    {site : Site}
    {request : Request}
    {canManage : Option Bool}
    {now : Int}
    {queue : RenderQueue}
    {shelves : Shelves}
    {result : List String}
    {changes : List Change}
    (h : crawlPlan site request canManage now queue shelves = .ok (result, changes)) :
    (∀ name, name ≠ .discovered → changes.foldl Shelves.change shelves name = shelves name) ∧
    ∀ later next,
      crawlPlan later request canManage next queue (changes.foldl Shelves.change shelves) =
        .ok ([], []) := by
  unfold crawlPlan at h ⊢
  by_cases hcounts : (request.isFrontend && canManage.getD request.canManage) = true
  · simp only [if_pos hcounts] at h ⊢
    obtain ⟨known, hknown, -⟩ := ok_of_bind h
    obtain ⟨holdings, rfl⟩ := (exists_holdings_iff shelves).mp ⟨known, hknown⟩
    obtain ⟨left, hleft, hothers, hsettled⟩ := crawlHandlesPlan_cases h
    rw [hleft]
    refine ⟨fun name hname => congrArg Except.ok (hothers name hname), fun later next => ?_⟩
    exact crawlHandlesPlan_of_settled hsettled later next
  · simp only [if_neg hcounts] at h ⊢
    cases h
    exact ⟨fun _ _ => rfl, fun _ _ => rfl⟩

end Discovery

section Pass

variable {registry : Registry Id Request} {request : Request}

/-- What a pass discovered is not discovered again. -/
theorem discoveryPlan_again
    {site : Site}
    {discover : Bool}
    {now : Int}
    {added removed : List String}
    {queue : RenderQueue}
    {shelves : Shelves}
    {report : RenderReport}
    {changes : List Change}
    (h : discoveryPlan site request discover now added removed queue shelves =
      .ok (report, changes)) :
    (∀ name, name ≠ .discovered → changes.foldl Shelves.change shelves name = shelves name) ∧
    ∀ later next,
      discoveryPlan later request discover next added removed queue
          (changes.foldl Shelves.change shelves) =
        .ok ({ report with discovered := [] }, []) := by
  unfold discoveryPlan at h ⊢
  cases discover with
  | false =>
      cases h
      exact ⟨fun _ _ => rfl, fun _ _ => rfl⟩
  | true =>
      obtain ⟨⟨discovered, _⟩, hcrawl, hreport⟩ := ok_of_map h
      cases hreport
      obtain ⟨hothers, hagain⟩ := crawlPlan_again hcrawl
      refine ⟨hothers, fun later next => ?_⟩
      rw [if_pos rfl, hagain later next]
      rfl

/-- The plan of a pass that came to a report, made again on what the pass left. -/
theorem renderPlan_again
    {site : Site}
    {discover : Bool}
    {now : Int}
    {queue after : RenderQueue}
    (reachable : queue.Reachable)
    {shelves : Shelves}
    {report : RenderReport}
    {changes : List Change}
    (h : renderPlan registry site request discover now queue shelves =
      (.ok (report, changes), after))
    (later : Site)
    (next : Int) :
    renderPlan registry later request discover next after
        (changes.foldl Shelves.change shelves) =
      (.ok ({ report with discovered := [] }, []), after) := by
  unfold renderPlan at h ⊢
  cases hboth : shelves.bothManaged with
  | error fault =>
      rw [hboth] at h
      cases h
  | ok catalogs =>
      obtain ⟨manual, removed⟩ := catalogs
      simp only [hboth, handles_additionStep, handles_removalStep, queue_of_steps] at h
      obtain ⟨hplan, rfl⟩ := Prod.mk.inj h
      obtain ⟨hothers, hagain⟩ := discoveryPlan_again hplan
      have hboth' : (changes.foldl Shelves.change shelves).bothManaged =
          .ok (manual, removed) := by
        have hmanual := hothers ManagedCatalog.manual.name (by decide)
        have hremoved := hothers ManagedCatalog.removed.name (by decide)
        simp only [Shelves.bothManaged, Shelves.managed, hmanual, hremoved] at hboth ⊢
        exact hboth
      simp only [hboth', handles_additionStep, handles_removalStep, queue_of_steps,
        loops_again _ _ reachable, hagain later next]

/-- A table that takes a plan to an end is not broken, if the plan needs a catalog. -/
theorem intact_of_renderPlan
    {site : Site}
    {discover : Bool}
    {now : Int}
    {queue after : RenderQueue}
    {session : Session}
    {report : RenderReport}
    {changes : List Change}
    (h : renderPlan registry site request discover now queue session.shelves =
      (.ok (report, changes), after)) :
    session.medium ≠ .brokenTable := by
  unfold renderPlan at h
  cases hboth : session.shelves.bothManaged with
  | error fault =>
      rw [hboth] at h
      cases h
  | ok catalogs =>
      obtain ⟨manual, hmanual, -⟩ := ok_of_bind hboth
      obtain ⟨records, hrecords, -⟩ := ok_of_bind hmanual
      exact Session.intact_of_shelf hrecords

/-- A render pass may be repeated.  If a pass comes to a report, then a second pass for the same
request over what it left, with whatever files and at whatever time, comes to the same report
without discoveries.  It leaves the queue as it is, and it only reads from the store. -/
theorem renderPass_again
    {site : Site}
    {discover : Bool}
    {now : Int}
    {page after : Rendering}
    (reachable : page.queue.Reachable)
    {report : RenderReport}
    (h : (renderPass registry site request discover now).run page = (.ok report, after))
    (later : Site)
    (next : Int) :
    ∃ session,
      (renderPass registry later request discover next).run after =
        (.ok { report with discovered := [] }, { queue := after.queue, session }) ∧
      after.session.ReadFrom session := by
  obtain ⟨reads, notices, hreads, hrun⟩ := run_renderPass registry site request discover now page
  rw [hrun] at h
  rcases hplan : renderPlan registry site request discover now page.queue page.session.shelves
    with ⟨outcome, queue⟩
  simp only [hplan] at h
  obtain ⟨hreport, rfl⟩ := Prod.mk.inj h
  obtain ⟨changes, rfl⟩ := Session.ok_of_settle hreport
  have hintact := intact_of_renderPlan hplan
  have hsettle : (page.session.settle reads notices (.ok (report, changes))).2 =
      page.session.advance (reads ++ changes.map Change.access) notices := by
    simp only [Session.settle, hintact, and_false, if_false]
  rw [hsettle]
  obtain ⟨more, further, hmore, hagain⟩ := run_renderPass registry later request discover next
    { queue, session := page.session.advance (reads ++ changes.map Change.access) notices }
  simp only [Session.shelves_advance_changes hintact hreads,
    renderPlan_again reachable hplan later next, Session.settle, ne_eq, not_true, false_and,
    if_false, List.map_nil, List.append_nil] at hagain
  exact ⟨_, hagain, Session.readFrom_advance _ hmore further⟩

/-- A page as `sharedPage`, on which a script that no catalog knows is loaded too. -/
def crowdedPage : Rendering :=
  { sharedPage with
    queue := (sharedPage.queue.register { handle := "stats", src := "/s.js" }).enqueue "stats" }

/-- The first pass writes down the unknown script, adds and takes out the script in both
catalogs, and loads the one that was only registered; the second one changes nothing. -/
theorem renderPass_again_crowded :
    ∃ (after : Rendering) (session : Session),
      (renderPass Vocabulary.registry {} { canManage := true } true 7).run crowdedPage =
        (.ok
          { added := ["chat", "map", "slider"]
            removed := ["slider", "absent"]
            discovered := ["stats"] }, after) ∧
      after.queue.queued = ["stats", "chat", "map"] ∧
      (renderPass Vocabulary.registry {} { canManage := true } true 9).run after =
        (.ok { added := ["chat", "map", "slider"], removed := ["slider", "absent"] },
          { queue := after.queue, session }) ∧
      after.session.ReadFrom session := by
  have hreachable : crowdedPage.queue.Reachable := by
    have hslider := Reachable.empty.register { handle := "slider", src := "/slider.js" }
    have hchat := hslider.register { handle := "chat", src := "/chat.js", inFooter := true }
    have hstats := (hchat.enqueue "slider").register { handle := "stats", src := "/s.js" }
    exact hstats.enqueue "stats"
  have hreport :
      ((renderPass Vocabulary.registry {} { canManage := true } true 7).run crowdedPage).1 =
        .ok
          { added := ["chat", "map", "slider"]
            removed := ["slider", "absent"]
            discovered := ["stats"] } := by
    decide +kernel
  have hqueued :
      ((renderPass Vocabulary.registry {} { canManage := true } true 7).run
        crowdedPage).2.queue.queued = ["stats", "chat", "map"] := by
    decide +kernel
  rcases hrun : (renderPass Vocabulary.registry {} { canManage := true } true 7).run crowdedPage
    with ⟨outcome, after⟩
  rw [hrun] at hreport hqueued
  subst hreport
  obtain ⟨session, hagain, hread⟩ := renderPass_again hreachable hrun {} 9
  exact ⟨after, session, rfl, hqueued, hagain, hread⟩

end Pass

end PageScripts
