import PageScripts.Proofs.Catalog.Operation

/-!
# What operations come to

An operation comes to a result or to a fault, and it leaves a session behind.  `perform` gives
the two together, so that results can be compared; the type of the result depends on the
operation.

* `Operation.outcome` is the plan of an operation with its result.
* `Operation.perform_eq`: to perform an operation is some reading and then its outcome.
* `options_of_fault`: whatever the fault, a failing operation has only read, and every option
  is as it was.
-/

namespace PageScripts

open PageScripts.Action

namespace Operation

/-- What an operation gives when it succeeds. -/
def Result : Operation → Type
  | recordIfNew _ _ => Bool
  | crawl _ _ _ _ _ => List String
  | dequeue _ _ => List String
  | restore _ => List String
  | forget _ => List String
  | clearDiscovered => Unit
  | registerManual _ _ _ => String
  | updateManual _ _ _ => Fields
  | removeManual _ => List String
  | setRules _ _ _ _ => RuleSet
  | clearRules _ _ => Unit
  | render _ _ _ _ _ _ => RenderReport

/-- The result or the fault of an operation, and the session after it. -/
def perform
    (operation : Operation)
    (session : Session) :
    Except Fault operation.Result × Session :=
  match operation with
  | recordIfNew script now => (Catalog.recordIfNew script now).run session
  | crawl site request canManage now queue =>
      (Catalog.crawl site request canManage now queue).run session
  | dequeue handles now => (Catalog.dequeue handles now).run session
  | restore handles => (Catalog.restore handles).run session
  | forget handles => (Catalog.forget handles).run session
  | clearDiscovered => Catalog.clearDiscovered.run session
  | registerManual data queue now => (Catalog.registerManual data queue now).run session
  | updateManual handle fields now => (Catalog.updateManual handle fields now).run session
  | removeManual handles => (Catalog.removeManual handles).run session
  | setRules registry name handle payload =>
      (Catalog.setRules registry name handle payload).run session
  | clearRules name handle => (Catalog.clearRules name handle).run session
  | render registry site request discover now queue =>
      let page := (renderPass registry site request discover now).run { queue, session }
      (page.1, page.2.session)

/-- What an operation comes to, worked out of the shelves. -/
def outcome
    (operation : Operation)
    (shelves : Shelves) :
    Except Fault (Outcome operation.Result) :=
  match operation with
  | recordIfNew script now => Catalog.recordIfNewPlan script now shelves
  | crawl site request canManage now queue =>
      Catalog.crawlPlan site request canManage now queue shelves
  | dequeue handles now => Catalog.dequeuePlan handles now shelves
  | restore handles => Catalog.deletePlan .removed handles shelves
  | forget handles => Catalog.deletePlan .discovered handles shelves
  | clearDiscovered => .ok ((), [.drop .discovered])
  | registerManual data queue now => Catalog.registerManualPlan data queue now shelves
  | updateManual handle fields now => Catalog.updateManualPlan handle fields now shelves
  | removeManual handles => Catalog.deletePlan .manual handles shelves
  | setRules registry name handle payload =>
      Catalog.setRulesPlan registry name handle payload shelves
  | clearRules name handle => Catalog.clearRulesPlan name handle shelves
  | render registry site request discover now queue =>
      (renderPlan registry site request discover now queue shelves).1

/-- The planned changes are those of the outcome. -/
theorem plan_eq_outcome
    (operation : Operation)
    (shelves : Shelves) :
    operation.plan shelves = (operation.outcome shelves).map Prod.snd := by
  cases operation <;> rfl

/-- To perform an operation is some reading and then its outcome. -/
theorem perform_eq
    (operation : Operation)
    (session : Session) :
    ∃ reads notices, OnlyReads reads ∧
      operation.perform session =
        session.settle reads notices (operation.outcome session.shelves) := by
  cases operation with
  | recordIfNew script now =>
      exact Catalog.follows_recordIfNew script now session
  | crawl site request canManage now queue =>
      exact Catalog.follows_crawl site request canManage now queue session
  | dequeue handles now =>
      exact Catalog.follows_dequeue handles now session
  | restore handles =>
      exact Catalog.follows_deleteFrom .removed handles session
  | forget handles =>
      exact Catalog.follows_deleteFrom .discovered handles session
  | clearDiscovered =>
      exact Catalog.follows_clearDiscovered session
  | registerManual data queue now =>
      exact Catalog.follows_registerManual data queue now session
  | updateManual handle fields now =>
      exact Catalog.follows_updateManual handle fields now session
  | removeManual handles =>
      exact Catalog.follows_deleteFrom .manual handles session
  | setRules registry name handle payload =>
      exact Catalog.follows_setRules registry name handle payload session
  | clearRules name handle =>
      exact Catalog.follows_clearRules name handle session
  | render registry site request discover now queue =>
      obtain ⟨reads, notices, hreads, hrun⟩ :=
        run_renderPass registry site request discover now { queue, session }
      refine ⟨reads, notices, hreads, ?_⟩
      unfold perform
      simp only [hrun]
      rfl

end Operation

namespace Catalog

/-- The view of `getRules`. -/
def getRulesView
    (name : CatalogName)
    (handle : String)
    (shelves : Shelves) :
    Except Fault (Option RuleSet) := do
  let catalog ← managedName name
  let (_, record) ← managedRecordView catalog handle shelves
  let script ← ManagedScript.ofFields handle catalog record
  return script.rules

theorem reads_getRules
    (name : CatalogName)
    (handle : String) :
    Reads (getRules name handle) (getRulesView name handle) := by
  refine (reads_requireManaged name).bind fun catalog => ?_
  refine (reads_managedRecord catalog handle).bind fun found => ?_
  refine (Reads.lift (ManagedScript.ofFields handle catalog found.2)).bind fun script => ?_
  exact Reads.pure script.rules

end Catalog

/-! ## Faults leave the store alone -/

/-- One session comes from another by reading alone, and so has the same options. -/
structure Session.ReadFrom (before after : Session) : Prop where
  options : after.options = before.options
  accesses : ∃ reads, OnlyReads reads ∧ after.accesses = before.accesses ++ reads

theorem Session.readFrom_advance
    (session : Session)
    {reads : List Access}
    (hreads : OnlyReads reads)
    (notices : List Notice) :
    session.ReadFrom (session.advance reads notices) where
  options := Access.foldl_apply_of_reads reads session.options hreads
  accesses := ⟨reads, hreads, rfl⟩

/-- A fault is settled without a write: it was there before the changes, or a broken table took
none of them. -/
theorem Session.readFrom_of_settle
    {α : Type}
    {session : Session}
    {reads : List Access}
    (hreads : OnlyReads reads)
    {notices : List Notice}
    {outcome : Except Fault (Outcome α)}
    {fault : Fault}
    (h : (session.settle reads notices outcome).1 = .error fault) :
    session.ReadFrom (session.settle reads notices outcome).2 := by
  cases outcome with
  | error cause =>
      exact session.readFrom_advance hreads notices
  | ok come =>
      obtain ⟨result, changes⟩ := come
      unfold settle at h ⊢
      by_cases hrefused : changes ≠ [] ∧ session.medium = .brokenTable
      · simp only [if_pos hrefused]
        exact session.readFrom_advance hreads notices
      · simp only [if_neg hrefused] at h
        cases h

theorem Action.Reads.readFrom
    {α : Type}
    {action : Action α}
    {view : Shelves → Except Fault α}
    (h : Reads action view)
    (session : Session) :
    session.ReadFrom (action.run session).2 := by
  obtain ⟨reads, notices, hreads, hrun⟩ := h session
  rw [hrun]
  exact session.readFrom_advance hreads notices

/-- Faults leave the store alone.  Whatever the store holds and whatever the arguments are, an
operation that ends in a fault has only read: every option has the value that it had before.
So it is for the question for the rules of a script. -/
theorem options_of_fault (session : Session) :
    (∀ (operation : Operation) (fault : Fault),
      (operation.perform session).1 = .error fault →
      session.ReadFrom (operation.perform session).2) ∧
    (∀ (name : CatalogName) (handle : String) (fault : Fault),
      ((Catalog.getRules name handle).run session).1 = .error fault →
      session.ReadFrom ((Catalog.getRules name handle).run session).2) := by
  constructor
  · intro operation fault hfault
    obtain ⟨reads, notices, hreads, hperform⟩ := operation.perform_eq session
    rw [hperform] at hfault ⊢
    exact Session.readFrom_of_settle hreads hfault
  · intro name handle fault _
    exact (Catalog.reads_getRules name handle).readFrom session

/-- A store with a discovered script, a corrupt catalog of removed scripts, and a manual script
whose time of addition is no finite number. -/
def damagedSession : Session :=
  { options :=
      [ ("psa_found_scripts", .obj [("app", .obj [("src", .str "/app.js")])]),
        ("psa_dequeued_scripts", .int 3),
        ("psa_manual_scripts", .obj [("map", .obj [("added_on", .float (.infinite false))])]) ] }

/-- A script cannot be moved to the corrupt catalog, and stays where it was; and the rules of
the other script cannot be told. -/
theorem options_of_fault_damaged :
    damagedSession.ReadFrom
        ((Operation.dequeue (.arr [.str "app"]) 5).perform damagedSession).2 ∧
      damagedSession.ReadFrom ((Catalog.getRules .manual "map").run damagedSession).2 := by
  have hmove : ((Operation.dequeue (.arr [.str "app"]) 5).perform damagedSession).1 =
      .error (.corruptCatalog .removed .int) := rfl
  have hrules : ((Catalog.getRules .manual "map").run damagedSession).1 =
      .error .infiniteNumber := rfl
  obtain ⟨hoperation, hquestion⟩ := options_of_fault damagedSession
  exact ⟨hoperation _ _ hmove, hquestion _ _ _ hrules⟩

end PageScripts
