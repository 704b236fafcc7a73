import PageScripts.Proofs.Catalog.Stamped
import PageScripts.Proofs.Rule.Wire

/-!
# Rules in force over whole runs

A record either has no rules, or rules without conditions, or rules with some; the three make a
great difference to a page.  Which it is only depends on the last step that meant to change it.

**Ledger.**  A `Ledger` is kept along a run by what its steps come to, without a look at the
records: which scripts have come into a managed catalog, and the rules that they got there.

**Steps.**
* `rulingOf_moveAll`, `rulingOf_takeOut`: what moving and taking out do to the rules in a catalog.
* `ruling_step`: a step changes the rules in the records just as the ledger says.
* `note_of_spares`: a step that does not name a script does not change its entry.

**Result.**  `rules_in_force`: at the end of every run from the empty store the rules of a script
are those in the ledger, and a further step leaves them unless it is meant to change them.
-/

namespace PageScripts

open Catalog

section Defs

/-- The rules that a removed script gets at first: it is removed on the pages of visitors. -/
def visitorRules : RuleSet :=
  { conditions := [(⟨Vocabulary.frontendName, false⟩, .bool true)], explicitMode := false }

/-- The scripts of the managed catalogs, each with its rules if it has any. -/
abbrev Ledger := ManagedCatalog → String → Option (Option RuleSet)

namespace Ledger

/-- There are no scripts yet. -/
def blank : Ledger :=
  fun _ _ => none

/-- Enters the same for some handles of a catalog. -/
def enter
    (catalog : ManagedCatalog)
    (handles : List String)
    (entry : Option (Option RuleSet))
    (ledger : Ledger) :
    Ledger :=
  fun other handle => if other = catalog ∧ handle ∈ handles then entry else ledger other handle

/-- The ledger after a step, by what the step came to. -/
def note (ledger : Ledger) : (operation : Operation) → Except Fault operation.Result → Ledger
  | .dequeue _ _, .ok moved => ledger.enter .removed moved (some (some visitorRules))
  | .restore _, .ok taken => ledger.enter .removed taken none
  | .registerManual _ _ _, .ok handle => ledger.enter .manual [handle] (some none)
  | .removeManual _, .ok taken => ledger.enter .manual taken none
  | .setRules _ name handle payload, .ok _ =>
      match name.managed?, payload with
      | some catalog, .obj fields =>
          ledger.enter catalog [handle] (some (some (normalRuleSet fields)))
      | _, _ => ledger
  | .clearRules name handle, .ok _ =>
      match name.managed? with
      | some catalog => ledger.enter catalog [handle] (some none)
      | none => ledger
  -- A step that fails enters nothing, and so do discovery, rendering and the editing of a script.
  | _, _ => ledger

/-- The ledger after a run, each step of which comes to something in the session that it is done
in. -/
def follow
    (ledger : Ledger)
    (session : Session) :
    List Operation → Ledger
  | [] => ledger
  | operation :: rest =>
      (ledger.note operation (operation.perform session).1).follow (operation.after session) rest

end Ledger

/-- The operation is not meant to change the rules of a script.  Editing a manual script is never
meant to. -/
def Operation.Spares
    (handle : String) :
    Operation → Prop
  | .dequeue handles _ => ∀ named, handlesIn handles = .ok named → handle ∉ named
  | .restore handles => ∀ named, handlesIn handles = .ok named → handle ∉ named
  | .registerManual data _ _ =>
      ∀ form, validForm data = .ok form → (Record.field "handle" form).display ≠ handle
  | .removeManual handles => ∀ named, handlesIn handles = .ok named → handle ∉ named
  | .setRules _ _ other _ => other ≠ handle
  | .clearRules _ other => other ≠ handle
  | _ => True

end Defs

section Records

open ManagedScript Record

theorem rulesOf_wire
    {rules : RuleSet}
    (faithful : rules.Faithful) :
    rulesOf (.obj rules.wire) = some rules :=
  congrArg some (RuleSet.ofFields_wire faithful)

theorem rulesOf_movedRecord
    (now : Int)
    (record : Fields) :
    rulesOf (field "rules" (movedRecord now record)) = some visitorRules := by
  unfold field
  rw [value?_movedRecord, if_pos rfl]
  decide +kernel

theorem rulesOf_addedRecord
    (form : Fields)
    (now : Int) :
    rulesOf (field "rules" (addedRecord form now)) = none := by
  have hrules : "rules" ∉ manualFields := by decide
  unfold field
  rw [value?_addedRecord, if_neg (by decide), if_neg hrules]
  rfl

theorem rulesOf_editedRecord
    (current form : Fields)
    (now : Int) :
    rulesOf (field "rules" (editedRecord current form now)) = rulesOf (field "rules" current) := by
  unfold field
  rw [value?_editedRecord, if_neg (by decide), if_neg (by decide), if_pos rfl]

theorem rulesOf_ruledRecord (fields record : Fields) :
    rulesOf (field "rules" (record.put "rules" (.obj (normalRuleSet fields).wire))) =
      some (normalRuleSet fields) := by
  have hfaithful : (normalRuleSet fields).Faithful :=
    RuleSet.faithful_ofFields (normalRules fields)
  unfold field
  rw [Listing.value?_put, if_pos rfl]
  exact rulesOf_wire hfaithful

theorem rulesOf_clearedRecord (record : Fields) :
    rulesOf (field "rules" (record.without "rules")) = none := by
  unfold field
  rw [Listing.value?_without, if_pos rfl]
  rfl

end Records

section Catalogs

variable (records : Fields)
variable (key handle : String)

theorem rulingOf_put (record : Fields) :
    rulingOf (records.put key (.obj record)) handle =
      if key = handle then some (ManagedScript.rulesOf (Record.field "rules" record))
      else rulingOf records handle := by
  unfold rulingOf sound?
  rw [Listing.value?_put]
  split <;> rfl

/-- To write what a record of the same rules becomes changes no rules. -/
theorem rulingOf_put_same
    {current record : Fields}
    (hcurrent : sound? records key = some current)
    (hrules : ManagedScript.rulesOf (Record.field "rules" record) =
      ManagedScript.rulesOf (Record.field "rules" current)) :
    rulingOf (records.put key (.obj record)) = rulingOf records := by
  funext handle
  rw [rulingOf_put]
  split
  · next hkey =>
      rw [← hkey, rulingOf, hcurrent, Option.map_some, hrules]
  · rfl

/-- What is moved gets new rules in the catalog that it comes to. -/
theorem rulingOf_moveAll
    (now : Int)
    (named : List String)
    (found removed : Fields) :
    rulingOf (moveAll now named found removed).2.1 handle =
      if handle ∈ (moveAll now named found removed).2.2 then some (some visitorRules)
      else rulingOf removed handle := by
  induction named generalizing found removed with
  | nil =>
      simp [moveAll]
  | cons first rest ih =>
      cases hsound : sound? found first with
      | none =>
          simpa only [moveAll, hsound] using ih found removed
      | some record =>
          have htail := ih (found.without first) (removed.put first (.obj (movedRecord now record)))
          simp only [moveAll, hsound, List.mem_cons]
          rw [htail, rulingOf_put, rulesOf_movedRecord]
          -- Should the rest name the handle once more, it gets the same rules there.
          by_cases hfirst : handle = first
          · simp [hfirst]
          · simp [hfirst, Ne.symm hfirst]

/-- What is taken out leaves the catalog.  A null record goes without being counted, but it had no
rules to lose. -/
theorem rulingOf_takeOut (named : List String) :
    rulingOf (takeOut named records).1 handle =
      if handle ∈ (takeOut named records).2 then none else rulingOf records handle := by
  unfold rulingOf sound?
  rw [value?_left_takeOut, handles_takeOut]
  simp only [List.mem_eraseDups, List.mem_filter]
  cases hvalue : records.value? handle with
  | none =>
      simp
  | some record =>
      rw [counts_of_value? records hvalue]
      by_cases hnull : record = .null
      · simp [hnull, Json.fields?]
      · by_cases hnamed : handle ∈ named <;> simp [hnull, hnamed]

end Catalogs

section Steps

variable {holdings : Holdings}

theorem ruling_replace
    (catalog : ManagedCatalog)
    {records : Fields}
    {handles : List String}
    {entry : Option (Option RuleSet)}
    (h : ∀ handle, rulingOf records handle =
      if handle ∈ handles then entry else rulingOf (holdings catalog.name) handle) :
    (holdings.change (.replace catalog.name records)).ruling =
      Ledger.enter catalog handles entry holdings.ruling := by
  funext other handle
  unfold Holdings.ruling Ledger.enter
  by_cases hother : other = catalog
  · subst hother
    have hself := holdings.change_self (.replace other.name records)
    simp only [Change.name, Change.records] at hself
    rw [hself, h]
    simp
  · have hname : other.name ≠ catalog.name := mt ManagedCatalog.name_injective hother
    rw [holdings.change_of_ne hname]
    simp [hother]

/-- The discovered scripts have no rules. -/
theorem ruling_replace_discovered (records : Fields) :
    (holdings.change (.replace .discovered records)).ruling = holdings.ruling := by
  funext catalog handle
  cases catalog <;> rfl

theorem enter_nil
    (ledger : Ledger)
    (catalog : ManagedCatalog)
    (entry : Option (Option RuleSet)) :
    ledger.enter catalog [] entry = ledger := by
  funext other handle
  simp [Ledger.enter]

variable {changes : List Change}

theorem ruling_of_crawlPlan
    {site : Site}
    {request : Request}
    {canManage : Option Bool}
    {now : Int}
    {queue : RenderQueue}
    {added : List String}
    (h : crawlPlan site request canManage now queue holdings.shelves = .ok (added, changes)) :
    (changes.foldl Holdings.change holdings).ruling = holdings.ruling := by
  rcases found_of_crawlPlan h with rfl | ⟨known, found, grown, -, -, rfl⟩
  · rfl
  · exact ruling_replace_discovered grown

theorem ruling_of_dequeuePlan
    {handles : Json}
    {now : Int}
    {moved : List String}
    (h : dequeuePlan handles now holdings.shelves = .ok (moved, changes)) :
    (changes.foldl Holdings.change holdings).ruling =
      Ledger.enter .removed moved (some (some visitorRules)) holdings.ruling := by
  obtain ⟨found, removed, named, left, grown, -, hremoved, -, hcome, hdone⟩ :=
    found_of_dequeuePlan h
  obtain rfl := Except.ok.inj hremoved
  rcases hdone with ⟨rfl, rfl⟩ | rfl
  · exact (enter_nil holdings.ruling .removed _).symm
  · have hgrown (handle : String) := rulingOf_moveAll handle now named found (holdings .removed)
    simp only [hcome] at hgrown
    have hleft : (holdings.change (.replace .discovered left)).ruling = holdings.ruling :=
      ruling_replace_discovered left
    rw [← hleft]
    exact ruling_replace .removed hgrown

theorem ruling_of_deletePlan
    (catalog : ManagedCatalog)
    {handles : Json}
    {taken : List String}
    (h : deletePlan catalog.name handles holdings.shelves = .ok (taken, changes)) :
    (changes.foldl Holdings.change holdings).ruling =
      Ledger.enter catalog taken none holdings.ruling := by
  obtain ⟨all, named, left, hall, -, hcome, ⟨rfl, rfl⟩ | rfl⟩ := found_of_deletePlan h
  · exact (enter_nil holdings.ruling catalog none).symm
  · obtain rfl := Except.ok.inj hall
    refine ruling_replace catalog fun handle => ?_
    have hleft := rulingOf_takeOut (holdings catalog.name) handle named
    rwa [hcome] at hleft

/-- To write a record under a handle is to enter its rules. -/
theorem ruling_put
    (catalog : ManagedCatalog)
    (handle : String)
    (record : Fields) :
    (holdings.change
        (.replace catalog.name ((holdings catalog.name).put handle (.obj record)))).ruling =
      Ledger.enter catalog [handle]
        (some (ManagedScript.rulesOf (Record.field "rules" record))) holdings.ruling := by
  refine ruling_replace catalog fun other => ?_
  rw [rulingOf_put]
  simp only [List.mem_singleton, eq_comm (b := other)]

theorem ruling_of_registerManualPlan
    {data : Json}
    {queue : Option RenderQueue}
    {now : Int}
    {handle : String}
    (h : registerManualPlan data queue now holdings.shelves = .ok (handle, changes)) :
    (changes.foldl Holdings.change holdings).ruling =
      Ledger.enter .manual [handle] (some none) holdings.ruling := by
  obtain ⟨form, manual, -, hmanual, -, rfl⟩ := found_of_registerManualPlan h
  obtain rfl := Except.ok.inj hmanual
  rw [← rulesOf_addedRecord form now]
  exact ruling_put .manual handle (addedRecord form now)

theorem ruling_of_updateManualPlan
    {handle : String}
    {fields : Fields}
    {now : Int}
    {record : Fields}
    (h : updateManualPlan handle fields now holdings.shelves = .ok (record, changes)) :
    (changes.foldl Holdings.change holdings).ruling = holdings.ruling := by
  obtain ⟨manual, current, form, hmanual, hcurrent, -, rfl⟩ := found_of_updateManualPlan h
  obtain rfl := Except.ok.inj hmanual
  have hsame := rulingOf_put_same (holdings .manual) handle hcurrent
    (rulesOf_editedRecord current form now)
  rw [← enter_nil holdings.ruling .manual none]
  exact ruling_replace .manual fun other => congrFun hsame other

/-- The changes of an operation that succeeds are those that the ledger notes. -/
theorem ruling_changes
    {operation : Operation}
    {result : operation.Result}
    (h : operation.outcome holdings.shelves = .ok (result, changes)) :
    (changes.foldl Holdings.change holdings).ruling =
      Ledger.note holdings.ruling operation (.ok result) := by
  cases operation with
  | recordIfNew script now =>
      rcases found_of_recordIfNewPlan h with rfl | ⟨found, -, rfl⟩
      · rfl
      · exact ruling_replace_discovered _
  | crawl site request canManage now queue =>
      exact ruling_of_crawlPlan h
  | dequeue handles now =>
      exact ruling_of_dequeuePlan h
  | restore handles =>
      exact ruling_of_deletePlan .removed h
  | forget handles =>
      obtain ⟨all, named, left, -, -, -, ⟨-, rfl⟩ | rfl⟩ := found_of_deletePlan h
      · rfl
      · exact ruling_replace_discovered left
  | clearDiscovered =>
      cases h
      funext catalog handle
      cases catalog <;> rfl
  | registerManual data queue now =>
      exact ruling_of_registerManualPlan h
  | updateManual handle fields now =>
      exact ruling_of_updateManualPlan h
  | removeManual handles =>
      exact ruling_of_deletePlan .manual h
  | setRules registry name handle payload =>
      obtain ⟨catalog, fields, all, record, rfl, rfl, -, -, hall, -, rfl⟩ :=
        found_of_setRulesPlan h
      obtain rfl := Except.ok.inj hall
      simp only [Ledger.note, ManagedCatalog.managed?_name]
      rw [← rulesOf_ruledRecord fields record]
      exact ruling_put catalog handle _
  | clearRules name handle =>
      obtain ⟨catalog, all, record, rfl, hall, -, rfl⟩ := found_of_clearRulesPlan h
      obtain rfl := Except.ok.inj hall
      simp only [Ledger.note, ManagedCatalog.managed?_name]
      rw [← rulesOf_clearedRecord record]
      exact ruling_put catalog handle _
  | render registry site request discover now queue =>
      obtain ⟨taken, crawled, hplan | rfl⟩ := changes_of_renderPlan h
      · exact ruling_of_crawlPlan hplan
      · rfl

/-- A step changes the rules in the records just as the ledger says. -/
theorem ruling_step
    (holdings : Holdings)
    (operation : Operation) :
    (holdings.step operation).ruling =
      Ledger.note holdings.ruling operation
        ((operation.outcome holdings.shelves).map Prod.fst) := by
  unfold Holdings.step
  rw [Operation.plan_eq_outcome]
  cases houtcome : operation.outcome holdings.shelves with
  | error fault =>
      cases operation <;> rfl
  | ok come =>
      exact ruling_changes houtcome

end Steps

section Runs

theorem enter_of_not_mem
    (ledger : Ledger)
    (catalog other : ManagedCatalog)
    {handles : List String}
    {handle : String}
    (h : handle ∉ handles)
    (entry : Option (Option RuleSet)) :
    ledger.enter catalog handles entry other handle = ledger other handle := by
  simp [Ledger.enter, h]

/-- A fault is not noted. -/
theorem note_of_fault
    (ledger : Ledger)
    (operation : Operation)
    (fault : Fault) :
    ledger.note operation (.error fault) = ledger := by
  cases operation <;> rfl

/-- A step that spares a script does not change its entry: what it reports to have done is among what
it was told to do. -/
theorem note_of_spares
    {operation : Operation}
    {handle : String}
    (hspares : operation.Spares handle)
    (ledger : Ledger)
    (shelves : Shelves)
    (catalog : ManagedCatalog) :
    ledger.note operation ((operation.outcome shelves).map Prod.fst) catalog handle =
      ledger catalog handle := by
  cases houtcome : operation.outcome shelves with
  | error fault =>
      exact congrFun (congrFun (note_of_fault ledger operation fault) catalog) handle
  | ok come =>
      obtain ⟨result, changes⟩ := come
      cases operation with
      | dequeue handles now =>
          obtain ⟨named, hnamed, hkeys⟩ := keys_of_dequeuePlan houtcome
          exact enter_of_not_mem ledger .removed catalog
            (mt (hkeys handle) (hspares named hnamed)) _
      | restore handles =>
          obtain ⟨named, hnamed, hkeys⟩ := keys_of_deletePlan houtcome
          exact enter_of_not_mem ledger .removed catalog
            (mt (hkeys handle) (hspares named hnamed)) none
      | registerManual data queue now =>
          obtain ⟨form, manual, hform, -, rfl, -⟩ := found_of_registerManualPlan houtcome
          exact enter_of_not_mem ledger .manual catalog
            (mt List.mem_singleton.mp (Ne.symm (hspares form hform))) _
      | removeManual handles =>
          obtain ⟨named, hnamed, hkeys⟩ := keys_of_deletePlan houtcome
          exact enter_of_not_mem ledger .manual catalog
            (mt (hkeys handle) (hspares named hnamed)) none
      | setRules registry name other payload =>
          obtain ⟨owner, fields, all, record, rfl, rfl, -⟩ := found_of_setRulesPlan houtcome
          simp only [Except.map, Ledger.note, ManagedCatalog.managed?_name]
          exact enter_of_not_mem ledger owner catalog
            (mt List.mem_singleton.mp (Ne.symm hspares)) _
      | clearRules name other =>
          obtain ⟨owner, all, record, rfl, -⟩ := found_of_clearRulesPlan houtcome
          simp only [Except.map, Ledger.note, ManagedCatalog.managed?_name]
          exact enter_of_not_mem ledger owner catalog
            (mt List.mem_singleton.mp (Ne.symm hspares)) _
      | _ =>
          rfl

/-- So the rules in the records are those in the ledger, after every run. -/
theorem ruling_run
    {session : Session}
    {holdings : Holdings}
    (h : session.shelves = holdings.shelves)
    (operations : List Operation) :
    (holdings.run operations).ruling = Ledger.follow holdings.ruling session operations := by
  induction operations generalizing session holdings with
  | nil =>
      rfl
  | cons operation rest ih =>
      have hrest := ih (shelves_after h operation)
      rw [ruling_step, ← result_perform h] at hrest
      exact hrest

end Runs

section Answers

theorem mem_keys_normalRules
    (fields : Fields)
    (key : String) :
    key ∈ (normalRules fields).keys ↔ ∃ raw ∈ fields.keys, Text.trim raw = key := by
  unfold normalRules
  rw [Listing.mem_keys_ofEntries]
  simp [Listing.keys, key_normalEntry]

/-- Rules without conditions come from payloads that have nothing but a mode, if that. -/
theorem stateOf_normalRuleSet_iff (fields : Fields) :
    RuleSet.stateOf (some (normalRuleSet fields)) = .empty ↔
      ∀ key ∈ fields.keys, Text.trim key = modeKey := by
  have hdistinct := distinct_normalRules fields
  have hstate : RuleSet.stateOf (some (normalRuleSet fields)) = .empty ↔
      (normalRuleSet fields).conditions = [] := by
    by_cases hnone : (normalRuleSet fields).conditions = []
    · simp [RuleSet.stateOf, RuleSet.isEmpty, hnone]
    · simp [RuleSet.stateOf, RuleSet.isEmpty, hnone]
  rw [hstate, normalRuleSet, conditions_ofFields hdistinct, List.map_eq_nil_iff, wireConditions,
    List.filter_eq_nil_iff]
  constructor
  · intro h key hkey
    obtain ⟨value, hmem⟩ :=
      Listing.mem_of_mem_keys ((mem_keys_normalRules fields _).mpr ⟨key, hkey, rfl⟩)
    simpa using h _ hmem
  · rintro h ⟨key, value⟩ hmem
    obtain ⟨raw, hraw, rfl⟩ :=
      (mem_keys_normalRules fields key).mp (Listing.mem_keys_of_mem hmem)
    simpa using h raw hraw

/-- After a further step the answer is what that step has left in the ledger. -/
theorem rules_after
    {session : Session}
    {holdings : Holdings}
    (h : session.shelves = holdings.shelves)
    (htidy : holdings.Tidy fun name _ value => Stamped name value)
    (operation : Operation)
    (catalog : ManagedCatalog)
    (handle : String) :
    (operation.after session).rules catalog handle =
      catalog.answer handle
        (Ledger.note holdings.ruling operation (operation.perform session).1 catalog handle) := by
  have hstep : (holdings.step operation).Tidy fun name _ value => Stamped name value :=
    Holdings.tidy_step htidy fun _ _ _ hbrings => stamped_of_brings htidy hbrings
  rw [rules_of_shelves catalog handle (shelves_after h operation) hstep, ruling_step,
    result_perform h]

/-- Where rules are set, the ledger gets those of the normal form of the payload. -/
theorem note_of_setRules
    {m : Type → Type}
    {γ : Type}
    {registry : Registry m γ}
    {catalog : ManagedCatalog}
    {handle : String}
    {payload : Json}
    {session : Session}
    {holdings : Holdings}
    {ruled : RuleSet}
    (h : session.shelves = holdings.shelves)
    (hruled :
      ((Operation.setRules registry catalog.name handle payload).perform session).1 = .ok ruled)
    (ledger : Ledger) :
    ∃ fields : Fields, payload = .obj fields ∧
      ledger.note (.setRules registry catalog.name handle payload) (.ok ruled) catalog handle =
        some (some (normalRuleSet fields)) := by
  have houtcome := result_perform h (.setRules registry catalog.name handle payload)
  rw [hruled] at houtcome
  obtain ⟨⟨_, changes⟩, hplan, rfl⟩ := ok_of_map houtcome.symm
  obtain ⟨owner, fields, all, record, -, rfl, -⟩ := found_of_setRulesPlan hplan
  exact ⟨fields, rfl, by simp [Ledger.note, Ledger.enter]⟩

variable {medium : Medium}
variable {operations : List Operation}
variable {catalog : ManagedCatalog}
variable {records : Fields}

/-- Rules in force.  After every run from the empty store, the scripts of a managed catalog are
those in the ledger, and the answer to the question for the rules of one of them is its entry.  A
further step leaves the answer if it fails or spares the script.  Where it sets the rules, they are
those of the normal form of the payload; and without conditions they are empty, not absent. -/
theorem rules_in_force
    (hrecords : (({ medium } : Session).run operations).shelves catalog.name = .ok records)
    (handle : String) :
    let session := ({ medium } : Session).run operations
    let entry := Ledger.blank.follow { medium } operations catalog handle
    (handle ∈ records.keys ↔ entry.isSome = true) ∧
    ∀ rules, entry = some rules →
      session.rules catalog handle = .ok rules ∧
      (∀ operation : Operation,
        operation.Spares handle ∨ (∃ fault, (operation.perform session).1 = .error fault) →
        (operation.after session).rules catalog handle = .ok rules) ∧
      ∀ {m : Type → Type} {γ : Type} (registry : Registry m γ) payload ruled,
        let operation := Operation.setRules registry catalog.name handle payload
        (operation.perform session).1 = .ok ruled →
        ∃ fields : Fields, payload = .obj fields ∧
          (operation.after session).rules catalog handle = .ok (some (normalRuleSet fields)) ∧
          (RuleSet.stateOf (some (normalRuleSet fields)) = .empty ↔
            ∀ key ∈ fields.keys, Text.trim key = modeKey) := by
  intro session entry
  obtain ⟨hshelves, rfl⟩ := holdings_of_run hrecords
  have htidy := stamped_run operations
  have hintact : medium ≠ .brokenTable := by
    have hintact := Session.intact_of_shelf hrecords
    rwa [medium_run] at hintact
  have hruling : (Holdings.empty.run operations).ruling catalog handle = entry :=
    congrFun (congrFun (ruling_run (shelves_empty hintact) operations) catalog) handle
  have hafter (operation : Operation) := rules_after hshelves htidy operation catalog handle
  refine ⟨?_, fun rules hentry => ⟨?_, ?_, ?_⟩⟩
  · rw [← hruling]
    exact mem_keys_iff_ruling catalog handle htidy
  · rw [rules_of_shelves catalog handle hshelves htidy, hruling, hentry]
    rfl
  · rintro operation (hspares | ⟨fault, hfault⟩)
    · rw [hafter, result_perform hshelves, note_of_spares hspares, hruling, hentry]
      rfl
    · rw [hafter, hfault, note_of_fault, hruling, hentry]
      rfl
  · intro m γ registry payload ruled operation hruled
    obtain ⟨fields, hpayload, hnote⟩ := note_of_setRules hshelves hruled _
    refine ⟨fields, hpayload, ?_, stateOf_normalRuleSet_iff fields⟩
    rw [hafter, hruled, hnote]
    rfl

/-- A script is found and removed, its conditions are taken away, and two more steps fail. -/
def emptiedRun : List Operation :=
  [ .recordIfNew { handle := "app", src := "/app.js" } 1,
    .dequeue (.arr [.str "app", .str "ghost"]) 2,
    .setRules Vocabulary.registry .removed "app" (.obj [(" __mode", .str "All ")]),
    .setRules Vocabulary.registry .removed "app" (.obj [("is_nowhere", .bool true)]),
    .clearRules .manual "app" ]

/-- Its rules are empty then, and not absent.  No edit of a manual script changes that, and an empty
payload gives it empty rules again. -/
theorem rules_in_force_emptied :
    let session := ({ medium := .table } : Session).run emptiedRun
    let edit := Operation.updateManual "app" [("src", .str "https://a.b/c.js")] 6
    let rule := Operation.setRules Vocabulary.registry .removed "app" (.obj [])
    session.rules .removed "app" = .ok (some { mode := .all }) ∧
    (edit.after session).rules .removed "app" = .ok (some { mode := .all }) ∧
    (rule.after session).rules .removed "app" = .ok (some { explicitMode := false }) := by
  intro session edit rule
  have hrecords : session.shelves ManagedCatalog.removed.name = .ok
      [("app", .obj (((movedRecord 2
        ({ handle := "app", src := "/app.js", found := 1 } : DiscoveredScript).toRecord)).put
          "rules" (.obj [("__mode", .str "all")])))] := by
    decide +kernel
  have hentry : Ledger.blank.follow { medium := .table } emptiedRun .removed "app" =
      some (some { mode := .all }) := by
    decide +kernel
  have hruled : ((setRules Vocabulary.registry .removed "app" (.obj [])).run session).1 =
      .ok { explicitMode := false } := by
    decide +kernel
  obtain ⟨-, hforce⟩ := rules_in_force hrecords "app"
  obtain ⟨hrules, hkept, hset⟩ := hforce (some { mode := .all }) hentry
  obtain ⟨fields, hfields, hafter, -⟩ := hset Vocabulary.registry (.obj []) _ hruled
  cases hfields
  exact ⟨hrules, hkept edit (.inl trivial), hafter⟩

end Answers

end PageScripts
