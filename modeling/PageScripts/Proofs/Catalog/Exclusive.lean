import PageScripts.Proofs.Catalog.Operation
import PageScripts.Proofs.Catalog.TakingOut
import PageScripts.Proofs.Listing

/-!
# No script is in two catalogs

The catalogs are exclusive when no handle is in two of them.  Each operation sees to this in its
own way: some look into all catalogs before they add a handle, some only write to handles that
are there, and moving takes a handle out of one catalog before it comes into the other.

* `Shelves.Safe`: the catalogs stay exclusive through changes, also if the later ones never come.
* `Operation.safe_of_plan`: the changes that an operation plans are safe.
* `Passes`: the sessions that a run passes, those in the middle of a step among them.
* `exclusive_of_passes`: they all have exclusive catalogs.
-/

namespace PageScripts

open PageScripts.Action

namespace Shelves

/-- The catalog has the handle. -/
def Keeps
    (shelves : Shelves)
    (name : CatalogName)
    (handle : String) :
    Prop :=
  ∃ records, shelves name = .ok records ∧ handle ∈ records.keys

/-- No handle is in two catalogs. -/
def Exclusive (shelves : Shelves) : Prop :=
  ∀ handle first second,
    shelves.Keeps first handle → shelves.Keeps second handle → first = second

/-- The catalogs are exclusive after any number of the changes. -/
def Safe
    (shelves : Shelves)
    (changes : List Change) :
    Prop :=
  ∀ done left, changes = done ++ left → (done.foldl change shelves).Exclusive

theorem safe_nil
    {shelves : Shelves}
    (h : shelves.Exclusive) :
    shelves.Safe [] := by
  intro done left hsplit
  obtain ⟨rfl, -⟩ := List.append_eq_nil_iff.mp hsplit.symm
  exact h

theorem safe_cons
    {shelves : Shelves}
    {change : Change}
    {rest : List Change}
    (h : shelves.Exclusive)
    (hrest : (shelves.change change).Safe rest) :
    shelves.Safe (change :: rest) := by
  intro done left hsplit
  cases done with
  | nil =>
      exact h
  | cons first done =>
      obtain ⟨rfl, hleft⟩ := List.cons.inj hsplit
      exact hrest done left hleft

theorem keeps_change_self
    (shelves : Shelves)
    (change : Change)
    {name : CatalogName}
    (handle : String)
    (h : name = change.name) :
    (shelves.change change).Keeps name handle ↔ handle ∈ change.records.keys := by
  subst h
  constructor
  · rintro ⟨records, hrecords, hmem⟩
    rw [change_self] at hrecords
    rwa [Except.ok.inj hrecords]
  · intro hmem
    exact ⟨change.records, change_self shelves change, hmem⟩

theorem keeps_change_of_ne
    (shelves : Shelves)
    (change : Change)
    {name : CatalogName}
    (handle : String)
    (h : name ≠ change.name) :
    (shelves.change change).Keeps name handle ↔ shelves.Keeps name handle := by
  simp only [Keeps, change_of_ne shelves change h]

/-- A write keeps the catalogs exclusive if the handles that it brings in are in no other
catalog. -/
theorem exclusive_change
    {shelves : Shelves}
    {change : Change}
    (h : shelves.Exclusive)
    (hfresh : ∀ handle ∈ change.records.keys,
      ∀ name, name ≠ change.name → ¬ shelves.Keeps name handle) :
    (shelves.change change).Exclusive := by
  intro handle first second hfirst hsecond
  by_cases h₁ : first = change.name
  · by_cases h₂ : second = change.name
    · rw [h₁, h₂]
    · rw [keeps_change_self _ _ _ h₁] at hfirst
      rw [keeps_change_of_ne _ _ _ h₂] at hsecond
      exact absurd hsecond (hfresh handle hfirst second h₂)
  · rw [keeps_change_of_ne _ _ _ h₁] at hfirst
    by_cases h₂ : second = change.name
    · rw [keeps_change_self _ _ _ h₂] at hsecond
      exact absurd hfirst (hfresh handle hsecond first h₁)
    · rw [keeps_change_of_ne _ _ _ h₂] at hsecond
      exact h handle first second hfirst hsecond

/-- A handle of a catalog is in no other one. -/
theorem Exclusive.not_keeps
    {shelves : Shelves}
    (h : shelves.Exclusive)
    {name other : CatalogName}
    {records : Fields}
    {handle : String}
    (hrecords : shelves name = .ok records)
    (hmem : handle ∈ records.keys)
    (hne : other ≠ name) :
    ¬ shelves.Keeps other handle :=
  fun hother => hne (h handle other name hother ⟨records, hrecords, hmem⟩)

/-- A write to one catalog is safe if each handle that it leaves was there or is in no catalog. -/
theorem safe_replace
    {shelves : Shelves}
    {name : CatalogName}
    {records changed : Fields}
    (h : shelves.Exclusive)
    (hrecords : shelves name = .ok records)
    (hkeys : ∀ handle ∈ changed.keys,
      handle ∈ records.keys ∨ ∀ other, ¬ shelves.Keeps other handle) :
    shelves.Safe [.replace name changed] := by
  refine safe_cons h (safe_nil (exclusive_change h ?_))
  intro handle hmem other hne
  rcases hkeys handle hmem with hold | hnew
  · exact h.not_keeps hrecords hold hne
  · exact hnew other

/-! ## What the reading finds -/

theorem not_keeps_of_ownerAmong
    {shelves : Shelves}
    {handle : String}
    {names : List CatalogName}
    (h : shelves.ownerAmong handle names = .ok none) :
    ∀ name ∈ names, ¬ shelves.Keeps name handle := by
  induction names with
  | nil =>
      intro name hname
      cases hname
  | cons first rest ih =>
      obtain ⟨records, hrecords, hrest⟩ := ok_of_bind h
      by_cases hhas : records.has handle
      · rw [if_pos hhas] at hrest
        cases hrest
      · rw [if_neg hhas] at hrest
        intro name hname
        rcases List.mem_cons.mp hname with rfl | hname
        · rintro ⟨others, hothers, hmem⟩
          obtain rfl := Except.ok.inj (hrecords.symm.trans hothers)
          exact hhas ((Listing.has_iff_mem_keys handle records).mpr hmem)
        · exact ih hrest name hname

/-- A handle without an owner is in no catalog. -/
theorem not_keeps_of_ownerOf
    {shelves : Shelves}
    {handle : String}
    (h : shelves.ownerOf handle = .ok none)
    (name : CatalogName) :
    ¬ shelves.Keeps name handle :=
  not_keeps_of_ownerAmong h name (CatalogName.mem_all name)

/-- A handle that is not among those of all catalogs is in no catalog. -/
theorem not_keeps_of_allHandles
    {shelves : Shelves}
    {known : List String}
    (h : shelves.allHandles = .ok known)
    {handle : String}
    (hunknown : handle ∉ known)
    (name : CatalogName) :
    ¬ shelves.Keeps name handle := by
  obtain ⟨catalogs, hcatalogs, hknown⟩ := ok_of_bind h
  obtain rfl := Except.ok.inj hknown
  rintro ⟨records, hrecords, hmem⟩
  apply hunknown
  rw [List.mem_eraseDups, List.mem_flatMap]
  exact ⟨records, mem_of_mapM hcatalogs (CatalogName.mem_all name) hrecords, hmem⟩

end Shelves

namespace Catalog

/-! ## What the cores of the operations do to the handles -/

theorem mem_keys_of_sound?
    {records record : Fields}
    {handle : String}
    (h : sound? records handle = some record) :
    handle ∈ records.keys := by
  obtain ⟨value, hvalue, -⟩ := Option.bind_eq_some_iff.mp h
  exact Listing.mem_keys_of_value? hvalue

/-- Moving takes handles from the first catalog to the second, and each is gone from the first
when it is in the second. -/
theorem keys_moveAll
    (now : Int)
    (handles : List String)
    (found removed : Fields) :
    (∀ handle ∈ (moveAll now handles found removed).1.keys, handle ∈ found.keys) ∧
      ∀ handle ∈ (moveAll now handles found removed).2.1.keys,
        handle ∈ removed.keys ∨
          (handle ∈ found.keys ∧ handle ∉ (moveAll now handles found removed).1.keys) := by
  induction handles generalizing found removed with
  | nil =>
      exact ⟨fun _ h => h, fun _ h => Or.inl h⟩
  | cons first rest ih =>
      cases hsound : sound? found first with
      | none =>
          simpa only [moveAll, hsound] using ih found removed
      | some record =>
          obtain ⟨hleft, hgrown⟩ := ih (found.without first)
            (removed.put first (.obj (movedRecord now record)))
          have hfirst : first ∈ found.keys := mem_keys_of_sound? hsound
          simp only [moveAll, hsound]
          refine ⟨fun handle h => ?_, fun handle h => ?_⟩
          · exact ((Listing.mem_keys_without first handle found).mp (hleft handle h)).2
          · rcases hgrown handle h with hold | ⟨hmem, hgone⟩
            · rcases (Listing.mem_keys_put first handle _ removed).mp hold with rfl | hold
              · refine Or.inr ⟨hfirst, fun hstill => ?_⟩
                exact ((Listing.mem_keys_without handle handle found).mp
                  (hleft handle hstill)).1 rfl
              · exact Or.inl hold
            · exact Or.inr ⟨((Listing.mem_keys_without first handle found).mp hmem).2, hgone⟩

theorem keys_takeOut
    (handles : List String)
    (records : Fields) :
    ∀ handle ∈ (takeOut handles records).1.keys, handle ∈ records.keys := by
  intro handle h
  rw [left_takeOut] at h
  exact (List.filter_sublist.map Prod.fst).subset h

/-- A queued handle is passed over, or it is new and its record is added. -/
theorem sightAll_cons_cases
    {site : Site}
    {queue : RenderQueue}
    {known : List String}
    {now : Int}
    {first : String}
    {rest : List String}
    {found : Fields}
    {come : Fields × List String}
    (h : sightAll site queue known now (first :: rest) found = .ok come) :
    (sightAll site queue known now rest found = .ok come ∧
      (first ∈ known ∨ first ∈ found.keys ∨ queue.script? first = none)) ∨
      ∃ script file added,
        first ∉ known ∧ first ∉ found.keys ∧
        queue.script? first = some script ∧
        site.layout.localFile? site.files script.src = .ok file ∧
        sightAll site queue known now rest
          (found.put first (.obj (sighting first script (file.map Prod.snd) now).toRecord)) =
            .ok (come.1, added) ∧
        come.2 = first :: added := by
  rw [sightAll] at h
  by_cases hskip : (known.contains first || found.has first) = true
  · rw [if_pos hskip] at h
    rw [Bool.or_eq_true, List.contains_iff_mem, Listing.has_iff_mem_keys] at hskip
    exact Or.inl ⟨h, hskip.imp_right Or.inl⟩
  · rw [if_neg hskip] at h
    rw [Bool.or_eq_true, not_or, List.contains_iff_mem, Listing.has_iff_mem_keys] at hskip
    cases hscript : queue.script? first with
    | none =>
        rw [hscript] at h
        exact Or.inl ⟨h, Or.inr (Or.inr rfl)⟩
    | some script =>
        rw [hscript] at h
        cases hfile : site.layout.localFile? site.files script.src with
        | error fault =>
            simp only [hfile] at h
            cases h
        | ok file =>
            simp only [hfile] at h
            obtain ⟨⟨left, added⟩, hrest, hcome⟩ := ok_of_bind h
            obtain rfl := Except.ok.inj hcome
            exact Or.inr ⟨script, file, added, hskip.1, hskip.2, rfl, hfile, hrest, rfl⟩

/-- Discovery only adds handles that are not known. -/
theorem keys_sightAll
    {site : Site}
    {queue : RenderQueue}
    {known : List String}
    {now : Int}
    {queued : List String}
    {found : Fields}
    {come : Fields × List String}
    (h : sightAll site queue known now queued found = .ok come) :
    ∀ handle ∈ come.1.keys, handle ∈ found.keys ∨ handle ∉ known := by
  induction queued generalizing found come with
  | nil =>
      obtain rfl := Except.ok.inj h
      exact fun _ hmem => Or.inl hmem
  | cons first rest ih =>
      intro handle hmem
      rcases sightAll_cons_cases h with ⟨hrest, -⟩ | ⟨script, file, added, hnew, -, -, -, hrest, -⟩
      · exact ih hrest handle hmem
      · rcases ih hrest handle hmem with hold | hunknown
        · rcases (Listing.mem_keys_put first handle _ found).mp hold with rfl | hold
          · exact Or.inr hnew
          · exact Or.inl hold
        · exact Or.inr hunknown

/-! ## The plans are safe -/

section Safe

variable {shelves : Shelves} {changes : List Change} (h : shelves.Exclusive)
include h

theorem safe_recordIfNewPlan
    {script : DiscoveredScript}
    {now : Int}
    {result : Bool}
    (hplan : recordIfNewPlan script now shelves = .ok (result, changes)) :
    shelves.Safe changes := by
  obtain ⟨owner, howner, hrest⟩ := ok_of_bind hplan
  cases owner with
  | some name =>
      cases hrest
      exact Shelves.safe_nil h
  | none =>
      obtain ⟨found, hfound, hdone⟩ := ok_of_bind hrest
      cases hdone
      refine Shelves.safe_replace h hfound fun handle hmem => ?_
      rcases (Listing.mem_keys_put script.handle handle _ found).mp hmem with rfl | hold
      · exact Or.inr (Shelves.not_keeps_of_ownerOf howner)
      · exact Or.inl hold

theorem safe_crawlPlan
    {site : Site}
    {request : Request}
    {canManage : Option Bool}
    {now : Int}
    {queue : RenderQueue}
    {result : List String}
    (hplan : crawlPlan site request canManage now queue shelves = .ok (result, changes)) :
    shelves.Safe changes := by
  rw [crawlPlan] at hplan
  split at hplan
  · obtain ⟨known, hknown, hrest⟩ := ok_of_bind hplan
    obtain ⟨found, hfound, hrest⟩ := ok_of_bind hrest
    obtain ⟨⟨grown, added⟩, hsight, hdone⟩ := ok_of_bind hrest
    by_cases hempty : added.isEmpty = true
    · simp only [hempty] at hdone
      cases hdone
      exact Shelves.safe_nil h
    · simp only [hempty] at hdone
      cases hdone
      refine Shelves.safe_replace h hfound fun handle hmem => ?_
      exact (keys_sightAll hsight handle hmem).imp_right
        (Shelves.not_keeps_of_allHandles hknown)
  · cases hplan
    exact Shelves.safe_nil h

/-- When a moved handle has left the first catalog and not yet come into the second, it is in
none. -/
theorem safe_dequeuePlan
    {handles : Json}
    {now : Int}
    {result : List String}
    (hplan : dequeuePlan handles now shelves = .ok (result, changes)) :
    shelves.Safe changes := by
  obtain ⟨found, hfound, hrest⟩ := ok_of_bind hplan
  obtain ⟨removed, hremoved, hrest⟩ := ok_of_bind hrest
  obtain ⟨named, -, hdone⟩ := ok_of_bind hrest
  obtain ⟨hleft, hgrown⟩ := keys_moveAll now named found removed
  generalize moveAll now named found removed = moved at hleft hgrown hdone
  obtain ⟨left, grown, moved⟩ := moved
  by_cases hempty : moved.isEmpty = true
  · simp only [hempty] at hdone
    cases hdone
    exact Shelves.safe_nil h
  · simp only [hempty] at hdone
    cases hdone
    have hfirst : (shelves.change (.replace .discovered left)).Exclusive :=
      Shelves.exclusive_change h fun handle hmem name hne =>
        h.not_keeps hfound (hleft handle hmem) hne
    refine Shelves.safe_cons h (Shelves.safe_cons hfirst
      (Shelves.safe_nil (Shelves.exclusive_change hfirst fun handle hmem name hne => ?_)))
    by_cases hname : name = .discovered
    · subst hname
      intro hkeeps
      have hstill := (Shelves.keeps_change_self _ _ _ rfl).mp hkeeps
      rcases hgrown handle hmem with hold | ⟨-, hgone⟩
      · exact h.not_keeps hremoved hold hne ⟨found, hfound, hleft handle hstill⟩
      · exact hgone hstill
    · rw [Shelves.keeps_change_of_ne _ _ _ hname]
      rcases hgrown handle hmem with hold | ⟨hfrom, -⟩
      · exact h.not_keeps hremoved hold hne
      · exact h.not_keeps hfound hfrom hname

theorem safe_deletePlan
    {name : CatalogName}
    {handles : Json}
    {result : List String}
    (hplan : deletePlan name handles shelves = .ok (result, changes)) :
    shelves.Safe changes := by
  obtain ⟨all, hall, hrest⟩ := ok_of_bind hplan
  obtain ⟨named, -, hdone⟩ := ok_of_bind hrest
  have hkeys := keys_takeOut named all
  generalize takeOut named all = out at hkeys hdone
  obtain ⟨left, taken⟩ := out
  by_cases hempty : taken.isEmpty = true
  · simp only [hempty] at hdone
    cases hdone
    exact Shelves.safe_nil h
  · simp only [hempty] at hdone
    cases hdone
    exact Shelves.safe_replace h hall fun handle hmem => Or.inl (hkeys handle hmem)

omit h in
theorem ownerOf_of_freeView
    {handle : String}
    {queue : Option RenderQueue}
    (hfree : freeView handle queue shelves = .ok ()) :
    shelves.ownerOf handle = .ok none := by
  obtain ⟨owner, howner, hqueue⟩ := ok_of_bind hfree
  cases owner with
  | some name =>
      cases hqueue
  | none =>
      exact howner

theorem safe_registerManualPlan
    {data : Json}
    {queue : Option RenderQueue}
    {now : Int}
    {result : String}
    (hplan : registerManualPlan data queue now shelves = .ok (result, changes)) :
    shelves.Safe changes := by
  obtain ⟨form, -, hrest⟩ := ok_of_bind hplan
  obtain ⟨_, hfree, hrest⟩ := ok_of_bind hrest
  obtain ⟨manual, hmanual, hdone⟩ := ok_of_bind hrest
  cases hdone
  refine Shelves.safe_replace h hmanual fun handle hmem => ?_
  rcases (Listing.mem_keys_put _ handle _ manual).mp hmem with rfl | hold
  · exact Or.inr (Shelves.not_keeps_of_ownerOf (ownerOf_of_freeView hfree))
  · exact Or.inl hold

/-- A write to the record of a handle that is there brings no handle in. -/
theorem safe_put
    {name : CatalogName}
    {all record : Fields}
    {handle : String}
    (value : Json)
    (hall : shelves name = .ok all)
    (hsound : sound? all handle = some record) :
    shelves.Safe [.replace name (all.put handle value)] := by
  refine Shelves.safe_replace h hall fun other hmem => Or.inl ?_
  rcases (Listing.mem_keys_put handle other value all).mp hmem with rfl | hold
  · exact mem_keys_of_sound? hsound
  · exact hold

theorem safe_updateManualPlan
    {handle : String}
    {fields : Fields}
    {now : Int}
    {result : Fields}
    (hplan : updateManualPlan handle fields now shelves = .ok (result, changes)) :
    shelves.Safe changes := by
  unfold updateManualPlan at hplan
  simp only at hplan
  split at hplan
  · cases hplan
  · obtain ⟨manual, hmanual, hrest⟩ := ok_of_bind hplan
    cases hsound : sound? manual handle with
    | none =>
        simp only [hsound] at hrest
        cases hrest
    | some current =>
        simp only [hsound] at hrest
        obtain ⟨form, -, hdone⟩ := ok_of_bind hrest
        cases hdone
        exact safe_put h _ hmanual hsound

omit h in
theorem managedRecordView_eq_ok
    {catalog : ManagedCatalog}
    {handle : String}
    {all record : Fields}
    (hview : managedRecordView catalog handle shelves = .ok (all, record)) :
    shelves catalog.name = .ok all ∧ sound? all handle = some record := by
  obtain ⟨records, hrecords, hrest⟩ := ok_of_bind hview
  cases hsound : sound? records handle with
  | none =>
      simp only [hsound] at hrest
      cases hrest
  | some found =>
      simp only [hsound] at hrest
      cases hrest
      exact ⟨hrecords, hsound⟩

theorem safe_setRulesPlan
    {m : Type → Type}
    {γ : Type}
    {registry : Registry m γ}
    {name : CatalogName}
    {handle : String}
    {payload : Json}
    {result : RuleSet}
    (hplan : setRulesPlan registry name handle payload shelves = .ok (result, changes)) :
    shelves.Safe changes := by
  obtain ⟨catalog, -, hrest⟩ := ok_of_bind hplan
  obtain ⟨⟨all, record⟩, hview, hdone⟩ := ok_of_bind hrest
  obtain ⟨hall, hsound⟩ := managedRecordView_eq_ok hview
  simp only at hdone
  split at hdone
  · cases hdone
    exact safe_put h _ hall hsound
  · cases hdone

theorem safe_clearRulesPlan
    {name : CatalogName}
    {handle : String}
    {result : Unit}
    (hplan : clearRulesPlan name handle shelves = .ok (result, changes)) :
    shelves.Safe changes := by
  obtain ⟨catalog, -, hrest⟩ := ok_of_bind hplan
  obtain ⟨⟨all, record⟩, hview, hdone⟩ := ok_of_bind hrest
  obtain ⟨hall, hsound⟩ := managedRecordView_eq_ok hview
  cases hdone
  exact safe_put h _ hall hsound

end Safe

end Catalog

/-- The changes of a render pass are those of the crawl at its end. -/
theorem changes_of_renderPlan
    {registry : Registry Id Request}
    {site : Site}
    {request : Request}
    {discover : Bool}
    {now : Int}
    {queue : RenderQueue}
    {shelves : Shelves}
    {outcome : Outcome RenderReport}
    (h : (renderPlan registry site request discover now queue shelves).1 = .ok outcome) :
    ∃ taken crawled,
      Catalog.crawlPlan site request none now taken shelves = .ok (crawled, outcome.2) ∨
        outcome.2 = [] := by
  unfold renderPlan at h
  cases hboth : shelves.bothManaged with
  | error fault =>
      simp only [hboth] at h
      cases h
  | ok both =>
      simp only [hboth] at h
      cases discover with
      | false =>
          cases h
          exact ⟨queue, [], Or.inr rfl⟩
      | true =>
          obtain ⟨crawl, hcrawl, rfl⟩ := ok_of_map h
          exact ⟨_, crawl.1, Or.inl hcrawl⟩

namespace Operation

/-- The changes that an operation plans are safe. -/
theorem safe_of_plan
    {shelves : Shelves}
    {changes : List Change}
    (operation : Operation)
    (h : shelves.Exclusive)
    (hplan : operation.plan shelves = .ok changes) :
    shelves.Safe changes := by
  cases operation with
  | recordIfNew script now =>
      obtain ⟨outcome, houtcome, rfl⟩ := ok_of_map hplan
      exact Catalog.safe_recordIfNewPlan h houtcome
  | crawl site request canManage now queue =>
      obtain ⟨outcome, houtcome, rfl⟩ := ok_of_map hplan
      exact Catalog.safe_crawlPlan h houtcome
  | dequeue handles now =>
      obtain ⟨outcome, houtcome, rfl⟩ := ok_of_map hplan
      exact Catalog.safe_dequeuePlan h houtcome
  | restore handles =>
      obtain ⟨outcome, houtcome, rfl⟩ := ok_of_map hplan
      exact Catalog.safe_deletePlan h houtcome
  | forget handles =>
      obtain ⟨outcome, houtcome, rfl⟩ := ok_of_map hplan
      exact Catalog.safe_deletePlan h houtcome
  | clearDiscovered =>
      obtain rfl := Except.ok.inj hplan
      refine Shelves.safe_cons h (Shelves.safe_nil (Shelves.exclusive_change h ?_))
      intro handle hmem
      cases hmem
  | registerManual data queue now =>
      obtain ⟨outcome, houtcome, rfl⟩ := ok_of_map hplan
      exact Catalog.safe_registerManualPlan h houtcome
  | updateManual handle fields now =>
      obtain ⟨outcome, houtcome, rfl⟩ := ok_of_map hplan
      exact Catalog.safe_updateManualPlan h houtcome
  | removeManual handles =>
      obtain ⟨outcome, houtcome, rfl⟩ := ok_of_map hplan
      exact Catalog.safe_deletePlan h houtcome
  | setRules registry name handle payload =>
      obtain ⟨outcome, houtcome, rfl⟩ := ok_of_map hplan
      exact Catalog.safe_setRulesPlan h houtcome
  | clearRules name handle =>
      obtain ⟨outcome, houtcome, rfl⟩ := ok_of_map hplan
      exact Catalog.safe_clearRulesPlan h houtcome
  | render registry site request discover now queue =>
      obtain ⟨outcome, houtcome, rfl⟩ := ok_of_map hplan
      obtain ⟨taken, crawled, hcrawl⟩ := changes_of_renderPlan houtcome
      rcases hcrawl with hcrawl | hnone
      · exact Catalog.safe_crawlPlan h hcrawl
      · rw [hnone]
        exact Shelves.safe_nil h

/-- The changes that an operation makes in a session are safe. -/
theorem safe_changes
    (operation : Operation)
    {session : Session}
    (h : Shelves.Exclusive session.stored) :
    Shelves.Safe session.stored (operation.changes session) := by
  unfold changes
  by_cases hbroken : session.medium = .brokenTable
  · have hnone : session.taken (operation.plan session.shelves) = [] := by
      cases operation.plan session.shelves <;> simp [Session.taken, hbroken]
    rw [hnone]
    exact Shelves.safe_nil h
  · rw [Session.shelves_of_intact hbroken]
    cases hplan : operation.plan session.stored with
    | error fault =>
        exact Shelves.safe_nil h
    | ok changes =>
        rw [Session.taken, if_neg hbroken]
        exact operation.safe_of_plan h hplan

/-- Whatever a step does, the catalogs stay exclusive through all of its accesses. -/
theorem exclusive_of_prefix
    (operation : Operation)
    {session : Session}
    (h : Shelves.Exclusive session.stored)
    {reads : List Access}
    (hreads : OnlyReads reads)
    {done left : List Access}
    (hsplit : reads ++ (operation.changes session).map Change.access = done ++ left)
    (notices : List Notice) :
    Shelves.Exclusive (session.advance done notices).stored := by
  rcases List.append_eq_append_iff.mp hsplit with ⟨made, rfl, hmade⟩ | ⟨unread, rfl, -⟩
  · obtain ⟨changed, unchanged, hchanges, rfl, -⟩ := List.map_eq_append_iff.mp hmade
    have hread := Session.stored_advance_reads session [] hreads
    have hafter := Session.stored_advance_changes (session.advance reads []) changed notices
    rw [Session.advance_advance, hread] at hafter
    rw [List.nil_append] at hafter
    rw [hafter]
    exact operation.safe_changes h changed unchanged hchanges
  · have hdone : OnlyReads done := fun access hmem =>
      hreads access (List.mem_append_left _ hmem)
    rw [Session.stored_advance_reads session notices hdone]
    exact h

end Operation

/-! ## Runs -/

/-- The sessions that a run of operations passes.  A step may succeed or fail, and it may be
cut short between two accesses to the store; the run goes on from where it leaves off. -/
inductive Passes (start : Session) : Session → Prop
  | start :
      Passes start start
  | step
      {session : Session}
      (operation : Operation) :
      Passes start session →
      Passes start (operation.after session)
  | within
      {session : Session}
      (operation : Operation)
      (done left : List Access) :
      Passes start session →
      (operation.after session).accesses = session.accesses ++ (done ++ left) →
      Passes start (session.advance done [])

/-- If no handle is in two catalogs at first, none is after any step of a run, whether it
succeeds or fails, nor after any single access to the store within a step.  The accesses of a
step account for all that it does to the store. -/
theorem exclusive_of_passes
    {start session : Session}
    (hstart : Shelves.Exclusive start.stored)
    (hpasses : Passes start session) :
    Shelves.Exclusive session.stored ∧
      ∀ operation : Operation, ∃ accesses notices,
        operation.after session = session.advance accesses notices ∧
          ∀ done left, accesses = done ++ left →
            Shelves.Exclusive (session.advance done []).stored := by
  have hexclusive : Shelves.Exclusive session.stored := by
    induction hpasses with
    | start =>
        exact hstart
    | step operation _ ih =>
        obtain ⟨reads, notices, hreads, hafter⟩ := operation.after_eq _
        rw [hafter]
        exact operation.exclusive_of_prefix ih hreads (List.append_nil _).symm notices
    | @within session operation done left _ haccesses ih =>
        obtain ⟨reads, notices, hreads, hafter⟩ := operation.after_eq session
        rw [hafter] at haccesses
        exact operation.exclusive_of_prefix ih hreads
          (List.append_cancel_left haccesses) []
  refine ⟨hexclusive, fun operation => ?_⟩
  obtain ⟨reads, notices, hreads, hafter⟩ := operation.after_eq session
  refine ⟨_, notices, hafter, fun done left hsplit => ?_⟩
  exact operation.exclusive_of_prefix hexclusive hreads hsplit []

theorem exclusive_empty :
    Shelves.Exclusive ({} : Session).stored := by
  rintro handle first second ⟨records, hrecords, hmem⟩ -
  obtain rfl := Except.ok.inj hrecords
  cases hmem

/-- A script is noted in the empty store and then moved, but the second write of the move never
happens. -/
theorem exclusive_of_passes_moving :
    Shelves.Exclusive ({} : Session).stored ∧
      Shelves.Exclusive
        (((Operation.recordIfNew { handle := "app", src := "/app.js" } 1).after {}).advance
          [ .select "psa_found_scripts", .select "psa_dequeued_scripts",
            .upsert "psa_found_scripts" (.obj []) ] []).stored := by
  refine ⟨exclusive_empty, ?_⟩
  have hnoted : Passes {}
      ((Operation.recordIfNew { handle := "app", src := "/app.js" } 1).after {}) :=
    .step _ .start
  have hcut := Passes.within (.dequeue (.arr [.str "app"]) 2)
    [ .select "psa_found_scripts", .select "psa_dequeued_scripts",
      .upsert "psa_found_scripts" (.obj []) ]
    [ .upsert "psa_dequeued_scripts" (.obj
        [ ("app", .obj (Catalog.movedRecord 2
            (DiscoveredScript.toRecord
              { handle := "app", src := "/app.js", found := 1 }))) ]) ]
    hnoted (by decide +kernel)
  exact (exclusive_of_passes exclusive_empty hcut).1

end PageScripts
