import PageScripts.Proofs.Catalog.Run
import PageScripts.Proofs.Page
import PageScripts.Proofs.Render.Damage
import PageScripts.Site.Tree

/-!
# The first sight of a script counts

A crawl writes down the scripts that no catalog knows, as the queue of the page has them.  From then
on the record stands: later crawls see the same handle with other metadata, and whole catalogs are
written back by every operation, but none of them touches it unless the script is named.

**Steps.**
* `sighted_of_sightAll`: what a crawl writes down; `value?_sightAll`: it leaves what is there.
* `value?_moveAll`: moving leaves what is not named.
* `retained_of_plan`, `retained_step`: so a step leaves the record.

**Reading.**
* `ok_discovered_iff`: the discovered scripts can be read exactly if the catalog is given out and
  each number in its records has an integer part.
* `value?_discovered`: then each is what its record says.

**Result.**  `first_seen_kept`: through all runs that do not name the script or clear the catalog the
record stays, and it says what was seen.
-/

namespace PageScripts

open Catalog

section Defs

/-- The operation does not clear the discovered scripts, and neither forgets nor moves the handle. -/
def Operation.Retains
    (handle : String) :
    Operation → Prop
  | .dequeue handles _ => ∀ named, handlesIn handles = .ok named → handle ∉ named
  | .forget handles => ∀ named, handlesIn handles = .ok named → handle ∉ named
  | .clearDiscovered => False
  | _ => True

/-- The fields of a discovered script's record that are read as numbers. -/
def DiscoveredScript.numberFields : List String :=
  ["size", "mtime", "found"]

/-- Every number in the record has an integer part. -/
def DiscoveredScript.Counted (record : Fields) : Prop :=
  ∀ name ∈ numberFields, (Record.field name record).HasWhole

/-- The discovered scripts are given out, and so are the numbers in their records. -/
def Shelves.Counted (shelves : Shelves) : Prop :=
  ∃ records, shelves .discovered = .ok records ∧
    ∀ handle record, (handle, Json.obj record) ∈ records → DiscoveredScript.Counted record

/-- The discovered scripts. -/
def Shelves.discovered (shelves : Shelves) : Except Fault (Listing String DiscoveredScript) := do
  let all ← shelves .discovered
  (soundRecords all).mapM fun entry => do
    return (entry.1, ← DiscoveredScript.ofFields entry.1 entry.2)

end Defs

section Sight

variable {site : Site}
variable {queue : RenderQueue}
variable {known queued : List String}
variable {now : Int}
variable {found : Fields}
variable {come : Fields × List String}
variable {handle : String}

/-- A crawl leaves the records that are there. -/
theorem value?_sightAll
    (h : sightAll site queue known now queued found = .ok come)
    {value : Json}
    (hvalue : found.value? handle = some value) :
    come.1.value? handle = some value := by
  induction queued generalizing found come with
  | nil =>
      cases h
      exact hvalue
  | cons first rest ih =>
      rcases sightAll_cons_cases h with ⟨hrest, -⟩ | ⟨script, file, added, -, hnew, -, -, hrest, -⟩
      · exact ih hrest hvalue
      · have hne : first ≠ handle := by
          rintro rfl
          exact hnew (Listing.mem_keys_of_value? hvalue)
        have htail := ih hrest (by rw [Listing.value?_put, if_neg hne, hvalue])
        exact htail

/-- What a crawl adds is a script of the queue, with the metadata of its file. -/
theorem sighted_of_sightAll
    (h : sightAll site queue known now queued found = .ok come)
    (hmem : handle ∈ come.2) :
    ∃ script file,
      queue.script? handle = some script ∧
      site.layout.localFile? site.files script.src = .ok file ∧
      come.1.value? handle =
        some (.obj (sighting handle script (file.map Prod.snd) now).toRecord) := by
  induction queued generalizing found come with
  | nil =>
      cases h
      cases hmem
  | cons first rest ih =>
      rcases sightAll_cons_cases h with
        ⟨hrest, -⟩ | ⟨script, file, added, -, -, hscript, hfile, hrest, hcome⟩
      · exact ih hrest hmem
      · rw [hcome] at hmem
        rcases List.mem_cons.mp hmem with rfl | hlater
        · refine ⟨script, file, hscript, hfile, value?_sightAll hrest ?_⟩
          rw [Listing.value?_put, if_pos rfl]
        · have htail := ih hrest hlater
          exact htail

/-- A crawl that adds something has been given all catalogs, and writes the discovered scripts. -/
theorem sighted_of_crawlPlan
    {request : Request}
    {canManage : Option Bool}
    {shelves : Shelves}
    {added : List String}
    {changes : List Change}
    (hplan : crawlPlan site request canManage now queue shelves = .ok (added, changes))
    (hmem : handle ∈ added) :
    ∃ known found grown,
      shelves.allHandles = .ok known ∧
      sightAll site queue known now queue.queued found = .ok (grown, added) ∧
      changes = [.replace .discovered grown] := by
  unfold crawlPlan at hplan
  split at hplan
  · obtain ⟨known, hknown, hrest⟩ := ok_of_bind hplan
    obtain ⟨found, -, hrest⟩ := ok_of_bind hrest
    obtain ⟨⟨grown, sighted⟩, hsight, hdone⟩ := ok_of_bind hrest
    by_cases hempty : sighted.isEmpty = true
    · simp only [hempty] at hdone
      cases hdone
      cases hmem
    · simp only [hempty] at hdone
      cases hdone
      exact ⟨known, found, grown, hknown, hsight, rfl⟩
  · cases hplan
    cases hmem

end Sight

section Steps

variable {shelves : Shelves}
variable {handle : String}
variable {value : Json}

theorem value?_moveAll
    (now : Int)
    {named : List String}
    (found removed : Fields)
    (hnamed : handle ∉ named) :
    (moveAll now named found removed).1.value? handle = found.value? handle := by
  induction named generalizing found removed with
  | nil =>
      rfl
  | cons first rest ih =>
      obtain ⟨hfirst, hrest⟩ := not_or.mp (mt List.mem_cons.mpr hnamed)
      cases hsound : sound? found first with
      | none =>
          simpa only [moveAll, hsound] using ih found removed hrest
      | some record =>
          simp only [moveAll, hsound]
          rw [ih _ _ hrest, Listing.value?_without, if_neg (Ne.symm hfirst)]

/-- The change leaves a record of a discovered script. -/
def Change.RetainsRecord
    (handle : String)
    (value : Json)
    (change : Change) : Prop :=
  change.name = .discovered → change.records.value? handle = some value

/-- A catalog other than that of the discovered scripts is written. -/
theorem retains_of_ne
    {name : CatalogName}
    {records : Fields}
    (hname : name ≠ .discovered) :
    ∀ change ∈ [Change.replace name records], change.RetainsRecord handle value :=
  List.forall_mem_singleton.mpr fun heq => absurd heq hname

theorem retains_of_crawlPlan
    {site : Site}
    {request : Request}
    {canManage : Option Bool}
    {now : Int}
    {queue : RenderQueue}
    {added : List String}
    {changes : List Change}
    {found : Fields}
    (hfound : shelves .discovered = .ok found)
    (hvalue : found.value? handle = some value)
    (hplan : crawlPlan site request canManage now queue shelves = .ok (added, changes)) :
    ∀ change ∈ changes, change.RetainsRecord handle value := by
  rcases found_of_crawlPlan hplan with rfl | ⟨known, all, grown, hall, hsight, rfl⟩
  · exact List.forall_mem_nil _
  · obtain rfl := Except.ok.inj (hfound.symm.trans hall)
    exact List.forall_mem_singleton.mpr fun _ => value?_sightAll hsight hvalue

theorem retains_of_deletePlan
    {name : CatalogName}
    {handles : Json}
    {taken : List String}
    {changes : List Change}
    {found : Fields}
    (hfound : shelves .discovered = .ok found)
    (hvalue : found.value? handle = some value)
    (hnamed : name = .discovered → ∀ named, handlesIn handles = .ok named → handle ∉ named)
    (hplan : deletePlan name handles shelves = .ok (taken, changes)) :
    ∀ change ∈ changes, change.RetainsRecord handle value := by
  obtain ⟨all, named, left, hall, hread, hcome, ⟨-, rfl⟩ | rfl⟩ := found_of_deletePlan hplan
  · exact List.forall_mem_nil _
  · refine List.forall_mem_singleton.mpr fun hname => ?_
    obtain rfl : name = .discovered := hname
    obtain rfl := Except.ok.inj (hfound.symm.trans hall)
    have hleft := value?_left_takeOut found named handle
    rw [hcome, if_neg (hnamed rfl named hread)] at hleft
    exact hleft.trans hvalue

/-- An operation that retains a handle plans no change of its record. -/
theorem retains_of_plan
    {operation : Operation}
    {changes : List Change}
    {found : Fields}
    (hretains : operation.Retains handle)
    (hfound : shelves .discovered = .ok found)
    (hvalue : found.value? handle = some value)
    (hplan : operation.plan shelves = .ok changes) :
    ∀ change ∈ changes, change.RetainsRecord handle value := by
  cases operation with
  | recordIfNew script now =>
      obtain ⟨⟨written, _⟩, houtcome, rfl⟩ := ok_of_map hplan
      obtain ⟨owner, howner, hrest⟩ := ok_of_bind houtcome
      cases owner with
      | some name =>
          cases hrest
          exact List.forall_mem_nil _
      | none =>
          obtain ⟨all, hall, hdone⟩ := ok_of_bind hrest
          cases hdone
          obtain rfl := Except.ok.inj (hfound.symm.trans hall)
          -- it is written down because no catalog owns it, and `handle` is owned
          have hne : script.handle ≠ handle := by
            rintro rfl
            exact Shelves.not_keeps_of_ownerOf howner .discovered
              ⟨found, hfound, Listing.mem_keys_of_value? hvalue⟩
          refine List.forall_mem_singleton.mpr fun _ => ?_
          rw [Change.records, Listing.value?_put, if_neg hne, hvalue]
  | crawl site request canManage now queue =>
      obtain ⟨outcome, houtcome, rfl⟩ := ok_of_map hplan
      exact retains_of_crawlPlan hfound hvalue houtcome
  | dequeue handles now =>
      obtain ⟨outcome, houtcome, rfl⟩ := ok_of_map hplan
      obtain ⟨all, removed, named, left, grown, hall, -, hread, hcome, hdone⟩ :=
        found_of_dequeuePlan houtcome
      rcases hdone with ⟨-, hnone⟩ | hboth
      · rw [hnone]
        exact List.forall_mem_nil _
      · obtain rfl := Except.ok.inj (hfound.symm.trans hall)
        have hleft := value?_moveAll now found removed (hretains named hread)
        rw [hcome] at hleft
        rw [hboth]
        exact List.forall_mem_cons.mpr
          ⟨fun _ => hleft.trans hvalue, retains_of_ne (by decide)⟩
  | forget handles =>
      obtain ⟨outcome, houtcome, rfl⟩ := ok_of_map hplan
      exact retains_of_deletePlan hfound hvalue (fun _ => hretains) houtcome
  | restore handles | removeManual handles =>
      obtain ⟨outcome, houtcome, rfl⟩ := ok_of_map hplan
      exact retains_of_deletePlan hfound hvalue (fun hname => by cases hname) houtcome
  | clearDiscovered =>
      exact hretains.elim
  | registerManual data queue now =>
      obtain ⟨outcome, houtcome, rfl⟩ := ok_of_map hplan
      obtain ⟨form, manual, -, -, -, hchanges⟩ := found_of_registerManualPlan houtcome
      rw [hchanges]
      exact retains_of_ne (by decide)
  | updateManual other fields now =>
      obtain ⟨outcome, houtcome, rfl⟩ := ok_of_map hplan
      obtain ⟨manual, current, form, -, -, -, hchanges⟩ := found_of_updateManualPlan houtcome
      rw [hchanges]
      exact retains_of_ne (by decide)
  | setRules registry name other payload =>
      obtain ⟨outcome, houtcome, rfl⟩ := ok_of_map hplan
      obtain ⟨catalog, fields, all, record, -, -, -, -, -, -, hchanges⟩ :=
        found_of_setRulesPlan houtcome
      rw [hchanges]
      exact retains_of_ne (by cases catalog <;> decide)
  | clearRules name other =>
      obtain ⟨outcome, houtcome, rfl⟩ := ok_of_map hplan
      obtain ⟨catalog, all, record, -, -, -, hchanges⟩ := found_of_clearRulesPlan houtcome
      rw [hchanges]
      exact retains_of_ne (by cases catalog <;> decide)
  | render registry site request discover now queue =>
      obtain ⟨outcome, houtcome, rfl⟩ := ok_of_map hplan
      obtain ⟨taken, crawled, hcrawl | hnone⟩ := changes_of_renderPlan houtcome
      · exact retains_of_crawlPlan hfound hvalue hcrawl
      · rw [hnone]
        exact List.forall_mem_nil _

theorem retained_of_changes
    {holdings : Holdings}
    {changes : List Change}
    (hvalue : (holdings .discovered).value? handle = some value)
    (hchanges : ∀ change ∈ changes, change.RetainsRecord handle value) :
    (changes.foldl Holdings.change holdings .discovered).value? handle = some value := by
  induction changes generalizing holdings with
  | nil =>
      exact hvalue
  | cons change rest ih =>
      obtain ⟨hfirst, hrest⟩ := List.forall_mem_cons.mp hchanges
      refine ih ?_ hrest
      by_cases hname : CatalogName.discovered = change.name
      · rw [hname, Holdings.change_self]
        exact hfirst hname.symm
      · rw [holdings.change_of_ne hname]
        exact hvalue

/-- A step that retains a handle leaves its record. -/
theorem retained_step
    {holdings : Holdings}
    {operation : Operation}
    (hretains : operation.Retains handle)
    (hvalue : (holdings .discovered).value? handle = some value) :
    (holdings.step operation .discovered).value? handle = some value := by
  unfold Holdings.step
  cases hplan : operation.plan holdings.shelves with
  | error fault =>
      exact hvalue
  | ok changes =>
      exact retained_of_changes hvalue (retains_of_plan hretains rfl hvalue hplan)

theorem retained_run
    {holdings : Holdings}
    {operations : List Operation}
    (hretains : ∀ operation ∈ operations, operation.Retains handle)
    (hvalue : (holdings .discovered).value? handle = some value) :
    (holdings.run operations .discovered).value? handle = some value := by
  induction operations generalizing holdings with
  | nil =>
      exact hvalue
  | cons operation rest ih =>
      obtain ⟨hfirst, hrest⟩ := List.forall_mem_cons.mp hretains
      exact ih hrest (retained_step hfirst hvalue)

end Steps

section Reading

open DiscoveredScript

variable {shelves : Shelves}

theorem reads_discovered :
    Action.Reads Catalog.discovered Shelves.discovered :=
  reads_scripts .discovered DiscoveredScript.ofFields

/-- A stored number is read, unless it is an infinite number or not a number. -/
theorem ok_wholeNumber_iff (value : Json) :
    (∃ number, Record.wholeNumber value = .ok number) ↔ value.HasWhole := by
  cases value with
  | float x =>
      cases x with
      | finite negative significand exponent =>
          exact ⟨fun _ => trivial, fun _ => ⟨_, rfl⟩⟩
      | infinite negative | nan =>
          constructor
          · rintro ⟨number, h⟩
            cases h
          · exact False.elim
  | _ =>
      exact ⟨fun _ => trivial, fun _ => ⟨_, rfl⟩⟩

/-- A record becomes a script exactly if its numbers can be read. -/
theorem ok_ofFields_iff
    (handle : String)
    (record : Fields) :
    (∃ script, ofFields handle record = .ok script) ↔ Counted record := by
  have hnumber (name : String) := ok_wholeNumber_iff (Record.field name record)
  constructor
  · rintro ⟨script, h⟩
    obtain ⟨size, hsize, hrest⟩ := ok_of_bind h
    obtain ⟨mtime, hmtime, hrest⟩ := ok_of_bind hrest
    obtain ⟨time, htime, -⟩ := ok_of_bind hrest
    obtain ⟨found, hfound, -⟩ := ok_of_bind htime
    intro name hname
    simp only [numberFields, List.mem_cons, List.not_mem_nil, or_false] at hname
    rcases hname with rfl | rfl | rfl
    · exact (hnumber "size").mp ⟨size, hsize⟩
    · exact (hnumber "mtime").mp ⟨mtime, hmtime⟩
    · exact (hnumber "found").mp ⟨found, hfound⟩
  · intro counted
    obtain ⟨size, hsize⟩ := (hnumber "size").mpr (counted "size" (by decide))
    obtain ⟨mtime, hmtime⟩ := (hnumber "mtime").mpr (counted "mtime" (by decide))
    obtain ⟨found, hfound⟩ := (hnumber "found").mpr (counted "found" (by decide))
    unfold ofFields Record.timeField
    rw [hsize, hmtime, hfound]
    exact ⟨_, rfl⟩

/-- The discovered scripts can be read exactly if their catalog is given out and all numbers in it
can be read. -/
theorem ok_discovered_iff :
    (∃ scripts, shelves.discovered = .ok scripts) ↔ shelves.Counted := by
  have hscripts (records : Fields) := ok_scripts_iff records ok_ofFields_iff
  constructor
  · rintro ⟨scripts, h⟩
    obtain ⟨records, hrecords, hread⟩ := ok_of_bind h
    exact ⟨records, hrecords, (hscripts records).mp ⟨scripts, hread⟩⟩
  · rintro ⟨records, hrecords, hcounted⟩
    unfold Shelves.discovered
    rw [hrecords]
    exact (hscripts records).mpr hcounted

theorem value?_soundRecords
    {records record : Fields}
    {handle : String}
    (h : records.value? handle = some (.obj record)) :
    Listing.value? handle (soundRecords records) = some record := by
  induction records with
  | nil =>
      cases h
  | cons entry rest ih =>
      obtain ⟨key, value⟩ := entry
      by_cases hkey : key = handle
      · simp only [Listing.value?, if_pos hkey, Option.some.injEq] at h
        subst h
        simp [soundRecords, Json.fields?, Listing.value?, hkey]
      · simp only [Listing.value?, if_neg hkey] at h
        have htail := ih h
        cases value with
        | obj fields =>
            simpa [soundRecords, Json.fields?, Listing.value?, hkey] using htail
        | _ =>
            simpa [soundRecords, Json.fields?] using htail

/-- What is read under a key is read from what stands there. -/
theorem value?_of_mapM
    {α β : Type}
    {f : String → α → Except Fault β}
    {entries : Listing String α}
    {results : Listing String β}
    (h : (entries.mapM fun entry => do return (entry.1, ← f entry.1 entry.2)) = .ok results)
    {key : String}
    {a : α}
    (hvalue : entries.value? key = some a) :
    ∃ b, f key a = .ok b ∧ results.value? key = some b := by
  induction entries generalizing results with
  | nil =>
      cases hvalue
  | cons entry rest ih =>
      obtain ⟨first, item⟩ := entry
      rw [List.mapM_cons] at h
      obtain ⟨pair, hpair, hrest⟩ := ok_of_bind h
      obtain ⟨tail, htail, hresults⟩ := ok_of_bind hrest
      obtain ⟨b, hb, hdone⟩ := ok_of_bind hpair
      cases hdone
      cases hresults
      by_cases hfirst : first = key
      · subst hfirst
        simp only [Listing.value?, if_true, Option.some.injEq] at hvalue
        subst hvalue
        exact ⟨b, hb, by simp [Listing.value?]⟩
      · simp only [Listing.value?, if_neg hfirst] at hvalue ⊢
        exact ih htail hvalue

/-- A discovered script is what its record says. -/
theorem value?_discovered
    {scripts : Listing String DiscoveredScript}
    {found record : Fields}
    {handle : String}
    (h : shelves.discovered = .ok scripts)
    (hfound : shelves .discovered = .ok found)
    (hvalue : found.value? handle = some (.obj record)) :
    ∃ script, ofFields handle record = .ok script ∧ scripts.value? handle = some script := by
  obtain ⟨records, hrecords, hscripts⟩ := ok_of_bind h
  obtain rfl := Except.ok.inj (hfound.symm.trans hrecords)
  exact value?_of_mapM hscripts (value?_soundRecords hvalue)

end Reading

section Runs

variable {session : Session}
variable {site : Site}
variable {request : Request}
variable {canManage : Option Bool}
variable {now : Int}
variable {queue : RenderQueue}
variable {handle : String}

/-- A crawl that adds something is given all catalogs, and does what it has planned. -/
theorem holdings_of_crawl
    {added : List String}
    (hcrawl :
      ((Operation.crawl site request canManage now queue).perform session).1 = .ok added)
    (hadded : handle ∈ added) :
    ∃ (holdings : Holdings) (known : List String) (found : Fields),
      sightAll site queue known now queue.queued found = .ok (holdings .discovered, added) ∧
      ((Operation.crawl site request canManage now queue).after session).shelves =
        holdings.shelves := by
  obtain ⟨reads, notices, -, hperform⟩ :=
    (Operation.crawl site request canManage now queue).perform_eq session
  rw [hperform] at hcrawl
  obtain ⟨changes, houtcome⟩ := Session.ok_of_settle hcrawl
  obtain ⟨known, found, grown, hknown, hsight, rfl⟩ := sighted_of_crawlPlan houtcome hadded
  obtain ⟨holdings, hholdings⟩ := (exists_holdings_iff _).mp ⟨known, hknown⟩
  have hplan : (Operation.crawl site request canManage now queue).plan holdings.shelves =
      .ok [.replace .discovered grown] := by
    rw [Operation.plan_eq_outcome, ← hholdings, houtcome]
    rfl
  have hafter := shelves_after hholdings (.crawl site request canManage now queue)
  unfold Holdings.step at hafter
  rw [hplan] at hafter
  exact ⟨holdings.change (.replace .discovered grown), known, found, hsight, hafter⟩

/-- The first sight of a script counts.  On any store, let a crawl of a queue that was read add a
handle, and let a run follow that does not clear the discovered scripts, and neither forgets nor
moves the handle.  The queue has a script of the handle, and its file is found or there is none; let
`seen` be what is seen of the two at that time.
* The record of the handle is that of `seen`, after the crawl and after the run.
* It is read as `seen`.
* The discovered scripts can be read exactly if all numbers in their records have an integer part;
  and then `seen` is the one of the handle. -/
theorem first_seen_kept
    (hbuilt : queue.Built)
    {added : List String}
    (hcrawl :
      ((Operation.crawl site request canManage now queue).perform session).1 = .ok added)
    (hadded : handle ∈ added)
    {operations : List Operation}
    (hretains : ∀ operation ∈ operations, operation.Retains handle) :
    let crawled := (Operation.crawl site request canManage now queue).after session
    let later := crawled.run operations
    ∃ script file,
      queue.script? handle = some script ∧
      site.layout.localFile? site.files script.src = .ok file ∧
      let seen : DiscoveredScript :=
        { handle
          src := script.src
          version := script.version
          deps := script.deps
          inFooter := script.inFooter
          strategy := script.strategy
          size := file.map fun place => place.2.size
          mtime := file.map fun place => place.2.mtime
          found := now }
      (∃ found, ((raw .discovered).run crawled).1 = .ok found ∧
        found.value? handle = some (.obj seen.toRecord)) ∧
      (∃ found, ((raw .discovered).run later).1 = .ok found ∧
        found.value? handle = some (.obj seen.toRecord)) ∧
      DiscoveredScript.ofFields handle seen.toRecord = .ok seen ∧
      ((∃ scripts, (discovered.run later).1 = .ok scripts) ↔ later.shelves.Counted) ∧
      ∀ scripts, (discovered.run later).1 = .ok scripts → scripts.value? handle = some seen := by
  intro crawled later
  obtain ⟨holdings, known, found, hsight, hcrawled⟩ := holdings_of_crawl hcrawl hadded
  obtain ⟨script, file, hscript, hfile, hvalue⟩ := sighted_of_sightAll hsight hadded
  refine ⟨script, file, hscript, hfile, ?_⟩
  intro seen
  have hseen : sighting handle script (file.map Prod.snd) now = seen := by
    unfold sighting
    cases file <;> rfl
  rw [hseen] at hvalue
  have hlater : later.shelves = (holdings.run operations).shelves :=
    shelves_run hcrawled operations
  have hkept := retained_run hretains hvalue
  have hsettled := settled_of_built hbuilt handle script hscript
  have hread : DiscoveredScript.ofFields handle seen.toRecord = .ok seen :=
    DiscoveredScript.ofFields_toRecord ⟨hsettled.version, hsettled.deps⟩
  have hraw := (Action.Reads.raw .discovered).result
  have hanswer := reads_discovered.result later
  refine ⟨⟨_, (hraw crawled).trans (congrFun hcrawled .discovered), hvalue⟩,
    ⟨_, (hraw later).trans (congrFun hlater .discovered), hkept⟩, hread, ?_, fun scripts h => ?_⟩
  · rw [hanswer]
    exact ok_discovered_iff
  · rw [hanswer] at h
    obtain ⟨read, hagain, hentry⟩ :=
      value?_discovered h (congrFun hlater .discovered) hkept
    rw [hread] at hagain
    exact hentry.trans (congrArg some (Except.ok.inj hagain).symm)

/-- A site that has the file of one script. -/
def firstSite : Site :=
  { layout := { siteUrl := "https://a.b", installDir := some (FilePath.ofText "www") }
    files := FileTree.siteFiles { entries := [(["www", "app.js"], { size := 12, mtime := 5 })] } }

/-- The items of a page with this script; its version is empty, its dependencies are not trimmed. -/
def firstItems : Json :=
  .arr
    [ .obj
        [ ("handle", .str "app"), ("src", .str "https://a.b/app.js"), ("ver", .str ""),
          ("deps", .arr [.str " x ", .int 3]), ("strategy", .str "defer") ] ]

/-- The queue of these items. -/
def firstQueue : RenderQueue :=
  { registered :=
      [("app", { handle := "app", src := "https://a.b/app.js", deps := ["x"], declared := "defer" })]
    queued := ["app"] }

/-- A page where the same handle is another script. -/
def otherQueue : RenderQueue :=
  { registered := [("app", { handle := "app", src := "https://c.d/app.js", version := "2" })]
    queued := ["app"] }

/-- A store with a discovered script and a damaged record. -/
def firstSession : Session :=
  { options :=
      [ ("psa_found_scripts",
          .obj [("old", .obj [("src", .str "/o.js"), ("size", .int 3)]), ("torn", .int 7)]) ]
    medium := .textTable }

/-- The handle is seen again, the other script is moved, and a catalog is cleared of a name that it
does not have. -/
def laterRun : List Operation :=
  [ .crawl {} {} (some true) 9 otherQueue, .recordIfNew { handle := "app", src := "/x.js" } 10,
    .dequeue (.arr [.str "old"]) 11, .forget (.arr [.str "torn", .str "gone"]),
    .setRules Vocabulary.registry .removed "app" (.obj []) ]

/-- The script is read as it was seen at first. -/
theorem first_seen_kept_again :
    let crawl := Operation.crawl firstSite {} (some true) 7 firstQueue
    (crawl.perform firstSession).1 = .ok ["app"] ∧
    ∃ scripts, (discovered.run ((crawl.after firstSession).run laterRun)).1 = .ok scripts ∧
      scripts.value? "app" =
        some
          { handle := "app"
            src := "https://a.b/app.js"
            deps := ["x"]
            strategy := .defer
            size := some 12
            mtime := some 5
            found := 7 } := by
  intro crawl
  have hbuilt : firstQueue.Built :=
    .ofItems (show RenderQueue.ofItems firstItems = .ok firstQueue by decide +kernel)
  have hcrawl : (crawl.perform firstSession).1 = .ok ["app"] := by
    change ((Catalog.crawl firstSite {} (some true) 7 firstQueue).run firstSession).1 = .ok ["app"]
    decide +kernel
  have hretains : ∀ operation ∈ laterRun, operation.Retains "app" := by
    simp only [laterRun, List.forall_mem_cons, Operation.Retains, true_and]
    refine ⟨fun named h => ?_, fun named h => ?_, List.forall_mem_nil _⟩
    · cases h
      decide
    · cases h
      decide
  obtain ⟨script, file, hscript, hfile, -, -, -, -, hseen⟩ :=
    first_seen_kept hbuilt hcrawl List.mem_cons_self hretains
  refine ⟨hcrawl, ?_⟩
  cases hscripts : (discovered.run ((crawl.after firstSession).run laterRun)).1 with
  | error fault =>
      have hread : (discovered.run ((crawl.after firstSession).run laterRun)).1.isOk = true := by
        decide +kernel
      rw [hscripts] at hread
      cases hread
  | ok scripts =>
      have hplace : (firstSite.layout.localFile? firstSite.files "https://a.b/app.js").map
          (Option.map Prod.snd) = .ok (some { size := 12, mtime := 5 }) := by
        decide +kernel
      refine ⟨scripts, rfl, ?_⟩
      rw [hseen scripts hscripts]
      cases hscript
      rw [hfile] at hplace
      cases file with
      | none =>
          cases hplace
      | some place =>
          obtain ⟨path, found⟩ := place
          cases hplace
          rfl

/-- A store with a discovered script whose size is an infinite number. -/
def sizelessSession : Session :=
  { options :=
      [ ("psa_found_scripts",
          .obj [("bad", .obj [("src", .str "/b.js"), ("size", .float (.infinite false))])]) ] }

/-- One size stops the reading, although the script that was seen has its record. -/
theorem first_seen_blocked_by_size :
    let crawl := Operation.crawl {} {} (some true) 7 firstQueue
    (crawl.perform sizelessSession).1 = .ok ["app"] ∧
    (discovered.run (crawl.after sizelessSession)).1 = .error .infiniteNumber := by
  intro crawl
  constructor
  · change ((Catalog.crawl {} {} (some true) 7 firstQueue).run sizelessSession).1 = .ok ["app"]
    decide +kernel
  · decide +kernel

end Runs

end PageScripts
