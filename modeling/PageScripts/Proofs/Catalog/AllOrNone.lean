import PageScripts.Proofs.Catalog.FirstSeen
import PageScripts.Proofs.Catalog.OneByOne
import PageScripts.Proofs.Site.Layout

/-!
# A crawl records all new scripts or none

A script is new to a crawl if it is registered and no catalog has its handle.  To record it, the crawl
looks for its file; a script without a file has no size and no time.  But the search can stop at an
address that starts as that of the site does and cannot be taken apart, and then the crawl stops too.

* `added_of_sightAll_eq`, `keys_of_sightAll`: a crawl that goes through adds all that is new.
* `fault_of_sightAll`, `not_stops_of_sightAll`: a crawl that does not has met such an address, and one
  that does has met none.
* `crawl_all_or_none`: the crawl goes through exactly if no script that is new has such an address, and
  then it records all that are new; else it records none.  `crawl_lost_to_one` shows what one address
  costs.
-/

namespace PageScripts

open Catalog
open Url (AddressError)

section Defs

/-- A handle is registered, and neither known before nor among the discovered scripts. -/
def RenderQueue.unseen
    (queue : RenderQueue)
    (known : List String)
    (found : Fields)
    (handle : String) :
    Bool :=
  (queue.script? handle).isSome && !(known.contains handle || found.has handle)

/-- A handle is registered, and no catalog has it. -/
def Holdings.isNew
    (holdings : Holdings)
    (queue : RenderQueue)
    (handle : String) :
    Bool :=
  (queue.script? handle).isSome && !CatalogName.all.any fun name => (holdings name).has handle

/-- The script of a handle has an address that stops the search for its file. -/
def Site.Stops
    (site : Site)
    (queue : RenderQueue)
    (handle : String)
    (cause : AddressError) : Prop :=
  ∃ script, queue.script? handle = some script ∧ site.layout.Refuses script.src cause

end Defs

section Sight

variable {site : Site}
variable {queue : RenderQueue}
variable {known queued : List String}
variable {now : Int}
variable {found : Fields}
variable {come : Fields × List String}
variable {handle first : String}

theorem unseen_eq_true_iff :
    queue.unseen known found handle = true ↔
      (∃ script, queue.script? handle = some script) ∧ ¬ (handle ∈ known ∨ handle ∈ found.keys) := by
  rw [RenderQueue.unseen, Bool.and_eq_true, Option.isSome_iff_exists, Bool.not_eq_true',
    ← Bool.not_eq_true, Bool.or_eq_true, List.contains_iff_mem, Listing.has_iff_mem_keys]

/-- A script that has been written down is not new any more, and the others are as before. -/
theorem unseen_put
    (value : Json) :
    queue.unseen known (found.put first value) handle =
      (!handle == first && queue.unseen known found handle) := by
  rw [Bool.eq_iff_iff, Bool.and_eq_true, unseen_eq_true_iff, unseen_eq_true_iff,
    Listing.mem_keys_put, Bool.not_eq_true', beq_eq_false_iff_ne]
  tauto

/-- A crawl adds all that is new, in the order of the queue and each once. -/
theorem added_of_sightAll_eq
    (h : sightAll site queue known now queued found = .ok come) :
    come.2 = (queued.filter (queue.unseen known found)).eraseDups := by
  induction queued generalizing found come with
  | nil =>
      cases h
      rfl
  | cons first rest ih =>
      rcases sightAll_cons_cases h with
        ⟨hrest, hskip⟩ | ⟨script, file, added, hknown, hfound, hscript, -, hrest, hcome⟩
      · have hseen : ¬ queue.unseen known found first = true := by
          rw [unseen_eq_true_iff]
          rintro ⟨⟨script, hscript⟩, hnew⟩
          rcases hskip with hold | hold | hnone
          · exact hnew (.inl hold)
          · exact hnew (.inr hold)
          · cases hnone.symm.trans hscript
        rw [List.filter_cons_of_neg hseen]
        exact ih hrest
      · have hunseen : queue.unseen known found first = true :=
          unseen_eq_true_iff.mpr ⟨⟨script, hscript⟩, not_or.mpr ⟨hknown, hfound⟩⟩
        rw [hcome, eraseDups_filter_cons hunseen (fun key => unseen_put _) rest]
        exact congrArg _ (ih hrest)

/-- What a crawl adds comes behind the records that are there. -/
theorem keys_of_sightAll
    (h : sightAll site queue known now queued found = .ok come) :
    come.1.keys = found.keys ++ come.2 := by
  induction queued generalizing found come with
  | nil =>
      cases h
      exact (List.append_nil _).symm
  | cons first rest ih =>
      rcases sightAll_cons_cases h with
        ⟨hrest, -⟩ | ⟨script, file, added, -, hnew, -, -, hrest, hcome⟩
      · exact ih hrest
      · have hkeys : come.1.keys = _ ++ added := ih hrest
        rw [hkeys, hcome, Listing.put_of_not_mem _ hnew, Listing.keys, List.map_append,
          List.append_assoc]
        rfl

/-- The address of a script that is new may stop the crawl. -/
theorem sightAll_cons_of_refused
    {script : RegisteredScript}
    {cause : AddressError}
    (hnew : ¬ (first ∈ known ∨ first ∈ found.keys))
    (hscript : queue.script? first = some script)
    (hfile : site.layout.localFile? site.files script.src = .error cause) :
    sightAll site queue known now (first :: queued) found = .error (.address cause) := by
  rw [← List.contains_iff_mem, ← Listing.has_iff_mem_keys, ← Bool.or_eq_true] at hnew
  rw [sightAll, if_neg hnew, hscript]
  simp only [hfile]

/-- A crawl that fails has met the address of a script that is new. -/
theorem fault_of_sightAll
    (hsplits : site.layout.Splits)
    {fault : Fault}
    (h : sightAll site queue known now queued found = .error fault) :
    ∃ handle ∈ queued.filter (queue.unseen known found),
      ∃ cause, site.Stops queue handle cause ∧ fault = .address cause := by
  simp only [List.mem_filter]
  induction queued generalizing found with
  | nil =>
      cases h
  | cons first rest ih =>
      by_cases hunseen : queue.unseen known found first = true
      · obtain ⟨⟨script, hscript⟩, hnew⟩ := unseen_eq_true_iff.mp hunseen
        cases hfile : site.layout.localFile? site.files script.src with
        | error cause =>
            rw [sightAll_cons_of_refused hnew hscript hfile] at h
            cases h
            have hrefused := (SiteLayout.localFile?_error_iff hsplits).mp hfile
            exact ⟨first, ⟨List.mem_cons_self, hunseen⟩, cause, ⟨script, hscript, hrefused⟩, rfl⟩
        | ok file =>
            rw [sightAll_cons_of_new hnew hscript hfile] at h
            cases hrest : sightAll site queue known now rest
                (found.put first (.obj (sighting first script (file.map Prod.snd) now).toRecord)) with
            | ok come =>
                rw [hrest] at h
                cases h
            | error cause =>
                rw [hrest] at h
                cases h
                obtain ⟨handle, ⟨hmem, hlater⟩, hstops⟩ := ih hrest
                rw [unseen_put, Bool.and_eq_true] at hlater
                exact ⟨handle, ⟨List.mem_cons_of_mem first hmem, hlater.2⟩, hstops⟩
      · rw [unseen_eq_true_iff, not_and_or, not_not] at hunseen
        have hskip : (first ∈ known ∨ first ∈ found.keys) ∨ queue.script? first = none := by
          refine hunseen.symm.imp_right fun hnone => ?_
          exact Option.eq_none_iff_forall_ne_some.mpr fun script hscript => hnone ⟨script, hscript⟩
        rw [sightAll_cons_of_skip hskip] at h
        obtain ⟨handle, ⟨hmem, hnew⟩, hstops⟩ := ih h
        exact ⟨handle, ⟨List.mem_cons_of_mem first hmem, hnew⟩, hstops⟩

/-- A crawl that goes through has met no such address. -/
theorem not_stops_of_sightAll
    (hsplits : site.layout.Splits)
    (h : sightAll site queue known now queued found = .ok come)
    (hmem : handle ∈ queued.filter (queue.unseen known found))
    (cause : AddressError) :
    ¬ site.Stops queue handle cause := by
  rintro ⟨script, hscript, hrefused⟩
  have hadded : handle ∈ come.2 := by
    rw [added_of_sightAll_eq h]
    exact List.mem_eraseDups.mpr hmem
  obtain ⟨same, file, hsame, hfile, -⟩ := sighted_of_sightAll h hadded
  cases hscript.symm.trans hsame
  cases hfile.symm.trans ((SiteLayout.localFile?_error_iff hsplits).mpr hrefused)

end Sight

section Runs

variable {site : Site}
variable {queue : RenderQueue}
variable {request : Request}
variable {canManage : Option Bool}
variable {now : Int}
variable {known : List String}
variable {holdings : Holdings}
variable {session : Session}

/-- What no catalog has is what has not been seen before. -/
theorem isNew_eq_unseen
    (hknown : holdings.shelves.allHandles = .ok known) :
    holdings.isNew queue = queue.unseen known (holdings .discovered) := by
  funext handle
  rw [Bool.eq_iff_iff, unseen_eq_true_iff, ← snapshot_allHandles hknown handle, Holdings.isNew,
    Bool.and_eq_true, Option.isSome_iff_exists, Bool.not_eq_true', ← Bool.not_eq_true,
    List.any_eq_true]
  simp only [CatalogName.mem_all, true_and, Listing.has_iff_mem_keys]

/-- A crawl that fails leaves the options. -/
theorem crawl_of_fault
    {fault : Fault}
    (hcounts : request.isFrontend = true ∧ canManage.getD request.canManage = true)
    (hgiven : session.shelves = holdings.shelves)
    (hknown : holdings.shelves.allHandles = .ok known)
    (hsight : sightAll site queue known now queue.queued (holdings .discovered) = .error fault) :
    ((crawl site request canManage now queue).run session).1 = .error fault ∧
    ((crawl site request canManage now queue).run session).2.options = session.options := by
  obtain ⟨reads, notices, hreads, hrun⟩ :=
    follows_crawl site request canManage now queue session
  rw [hgiven, crawlPlan_eq now hcounts hknown, hsight] at hrun
  rw [hrun]
  exact ⟨rfl, Access.foldl_apply_of_reads reads session.options hreads⟩

/-- A crawl that goes through leaves the records that it has come to. -/
theorem crawl_of_sight
    {grown : Fields}
    {added : List String}
    (hcounts : request.isFrontend = true ∧ canManage.getD request.canManage = true)
    (hgiven : session.shelves = holdings.shelves)
    (hknown : holdings.shelves.allHandles = .ok known)
    (hsight : sightAll site queue known now queue.queued (holdings .discovered) =
      .ok (grown, added)) :
    ((crawl site request canManage now queue).run session).1 = .ok added ∧
    ∀ name, ((crawl site request canManage now queue).run session).2.shelves name =
      .ok (if name = .discovered then grown else holdings name) := by
  have hintact := Session.intact_of_shelf (congrFun hgiven .discovered)
  have hplan : crawlPlan site request canManage now queue session.shelves =
      .ok (added, if added = [] then [] else [.replace .discovered grown]) := by
    rw [hgiven, crawlPlan_eq now hcounts hknown, hsight]
    rfl
  obtain ⟨after, hrun, -, -, hshelves⟩ :=
    run_of_plan (follows_crawl site request canManage now queue) hintact hplan
  rw [hrun]
  refine ⟨rfl, fun name => ?_⟩
  rw [hshelves, hgiven]
  by_cases hnone : added = []
  · have hsame : grown = holdings .discovered := found_of_sightAll_nil hsight hnone
    rw [if_pos hnone, List.foldl_nil, hsame]
    cases name <;> rfl
  · rw [if_neg hnone]
    cases name <;> rfl

/-- A crawl records all new scripts or none.  Let the layout's own addresses be in order, the request
count, and all catalogs be given out, and let the queue be any.
* The search for a file stops just at the addresses that start as that of the site does and cannot be
  taken apart.  Else it comes to nothing or to a file that is there.
* The crawl goes through exactly if no script of the queue that is new has such an address.
* If it goes through, it adds all that are new, in the order of the queue.  Each has its record behind
  those that were there, with nulls if there is no file; these stay, as do the other catalogs.
* If it does not, it has met such an address, and it leaves the options as they are. -/
theorem crawl_all_or_none
    (site : Site)
    (now : Int)
    (queue : RenderQueue)
    (hsplits : site.layout.Splits)
    (hcounts : request.isFrontend = true ∧ canManage.getD request.canManage = true)
    (hgiven : session.shelves = holdings.shelves) :
    let crawled := (crawl site request canManage now queue).run session
    let new := queue.queued.filter (holdings.isNew queue)
    (∀ src,
      (∀ cause, site.layout.localFile? site.files src = .error cause ↔
        site.layout.Refuses src cause) ∧
      ∀ found, site.layout.localFile? site.files src = .ok (some found) →
        site.files.find? found.1 = some found.2) ∧
    ((∃ added, crawled.1 = .ok added) ↔ ∀ handle ∈ new, ∀ cause, ¬ site.Stops queue handle cause) ∧
    (∀ added, crawled.1 = .ok added →
      added = new.eraseDups ∧
      ∃ grown : Fields,
        (∀ name, crawled.2.shelves name =
          .ok (if name = .discovered then grown else holdings name)) ∧
        grown.keys = (holdings .discovered).keys ++ added ∧
        (∀ handle value, (holdings .discovered).value? handle = some value →
          grown.value? handle = some value) ∧
        ∀ handle ∈ added, ∃ script file record,
          queue.script? handle = some script ∧
          site.layout.localFile? site.files script.src = .ok file ∧
          record = (sighting handle script (file.map Prod.snd) now).toRecord ∧
          grown.value? handle = some (.obj record) ∧
          (file = none → record.value? "size" = some .null ∧ record.value? "mtime" = some .null)) ∧
    ∀ fault, crawled.1 = .error fault →
      (∃ handle ∈ new, ∃ cause, site.Stops queue handle cause ∧ fault = .address cause) ∧
      crawled.2.options = session.options := by
  intro crawled new
  have hknown := Holdings.allHandles_shelves holdings
  have hnew : new = queue.queued.filter _ :=
    congrArg (queue.queued.filter ·) (isNew_eq_unseen hknown)
  refine ⟨fun src => ⟨fun cause => SiteLayout.localFile?_error_iff hsplits, fun found hfound => ?_⟩, ?_⟩
  · obtain ⟨more, a, root, -, -, -, hfile, -⟩ := SiteLayout.localFile?_ok hfound
    exact hfile
  rw [hnew]
  cases hsight : sightAll site queue _ now queue.queued (holdings .discovered) with
  | error fault =>
      obtain ⟨hfault, hoptions⟩ := crawl_of_fault hcounts hgiven hknown hsight
      obtain ⟨handle, hmem, cause, hstops, rfl⟩ := fault_of_sightAll hsplits hsight
      refine ⟨iff_of_false ?_ fun h => h handle hmem cause hstops, ?_, ?_⟩
      · rintro ⟨added, hadded⟩
        cases hfault.symm.trans hadded
      · intro added hadded
        cases hfault.symm.trans hadded
      · intro other hother
        cases hfault.symm.trans hother
        exact ⟨⟨handle, hmem, cause, hstops, rfl⟩, hoptions⟩
  | ok come =>
      obtain ⟨grown, added⟩ := come
      obtain ⟨hadded, hshelves⟩ := crawl_of_sight hcounts hgiven hknown hsight
      refine ⟨iff_of_true ⟨added, hadded⟩ fun handle hmem => not_stops_of_sightAll hsplits hsight hmem,
        ?_, ?_⟩
      · intro other hother
        cases hadded.symm.trans hother
        refine ⟨added_of_sightAll_eq hsight, grown, hshelves, keys_of_sightAll hsight,
          fun handle value hvalue => value?_sightAll hsight hvalue, fun handle hmem => ?_⟩
        obtain ⟨script, file, hscript, hfile, hvalue⟩ := sighted_of_sightAll hsight hmem
        refine ⟨script, file, _, hscript, hfile, rfl, hvalue, ?_⟩
        rintro rfl
        exact ⟨rfl, rfl⟩
      · intro fault hfault
        cases hadded.symm.trans hfault

/-- A queue that names one script twice, one that is not registered, and one that is in a catalog: two
scripts are new, and one of them has a file. -/
theorem crawl_all_or_none_repeated :
    let crawled := (crawl onePageSite {} (some true) 7 repeatedQueue).run sparseSession
    crawled.1 = .ok ["app", "map"] ∧
    ∃ grown : Fields, crawled.2.shelves .discovered = .ok grown ∧ grown.keys = ["app", "map"] := by
  intro crawled
  let holdings : Holdings := fun name => if name = .removed then [("old", .int 1)] else []
  have hgiven : sparseSession.shelves = holdings.shelves := by
    funext name
    cases name <;> rfl
  have hsplits : onePageSite.layout.Splits := ⟨⟨_, rfl⟩, ⟨_, rfl⟩⟩
  have hadded : crawled.1 = .ok ["app", "map"] := by
    decide +kernel
  obtain ⟨-, grown, hshelves, hkeys, -⟩ :=
    (crawl_all_or_none onePageSite 7 repeatedQueue hsplits ⟨rfl, rfl⟩ hgiven).2.2.1 _ hadded
  exact ⟨hadded, grown, hshelves .discovered, hkeys⟩

/-- A page with a script whose address has a bracket that is not closed, and another script. -/
def bracketQueue : RenderQueue :=
  { registered :=
      [ ("odd", { handle := "odd", src := "https://a.b[/x.js" }),
        ("app", { handle := "app", src := "/app.js" }) ]
    queued := ["odd", "app"] }

/-- One address costs the discovery of both scripts. -/
theorem crawl_lost_to_one :
    let crawled :=
      (crawl { layout := { siteUrl := "https://a.b" } } {} (some true) 7 bracketQueue).run {}
    crawled.1 = .error (.address .brackets) ∧ crawled.2.options = [] := by
  intro crawled
  constructor
  · decide +kernel
  · decide +kernel

end Runs

end PageScripts
