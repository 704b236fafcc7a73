import PageScripts.Proofs.Render.Plan

/-!
# Operations, steps and runs

The twelve operations that write catalogs are put into one type, so that runs of them can be
spoken of.  An operation that fails leaves the session where the fault arose, and a run goes on
from there.

* `Operation.after` is the session after an operation, whether it succeeds or fails.
* `Operation.plan` gives the changes that an operation makes, or its fault.
* `Operation.after_eq`: a step is some reading and then the planned changes.
-/

namespace PageScripts

open PageScripts.Action

/-- An operation on the catalogs, with its arguments. -/
inductive Operation : Type 1
  | recordIfNew (script : DiscoveredScript) (now : Int)
  | crawl
      (site : Site)
      (request : Request)
      (canManage : Option Bool)
      (now : Int)
      (queue : RenderQueue)
  | dequeue (handles : Json) (now : Int)
  | restore (handles : Json)
  | forget (handles : Json)
  | clearDiscovered
  | registerManual (data : Json) (queue : Option RenderQueue) (now : Int)
  | updateManual (handle : String) (fields : Fields) (now : Int)
  | removeManual (handles : Json)
  | setRules
      {m : Type → Type}
      {γ : Type}
      (registry : Registry m γ)
      (name : CatalogName)
      (handle : String)
      (payload : Json)
  | clearRules (name : CatalogName) (handle : String)
  | render
      (registry : Registry Id Request)
      (site : Site)
      (request : Request)
      (discover : Bool)
      (now : Int)
      (queue : RenderQueue)

/-- The changes that a session takes of those that are planned: all, unless there is a fault or
the table is broken. -/
def Session.taken
    (session : Session) :
    Except Fault (List Change) → List Change
  | .ok changes => if session.medium = .brokenTable then [] else changes
  | .error _ => []

/-- The session in which an outcome leaves off. -/
theorem Session.settle_snd
    {α : Type}
    (session : Session)
    (reads : List Access)
    (notices : List Notice)
    (outcome : Except Fault (Outcome α)) :
    (session.settle reads notices outcome).2 =
      session.advance
        (reads ++ (session.taken (outcome.map Prod.snd)).map Change.access)
        notices := by
  cases outcome with
  | error fault =>
      simp [settle, taken, Except.map]
  | ok come =>
      obtain ⟨result, changes⟩ := come
      by_cases hbroken : session.medium = .brokenTable
      · cases changes <;> simp [settle, taken, Except.map, hbroken]
      · simp [settle, taken, Except.map, hbroken]

namespace Operation

/-- The session after an operation, whether it succeeds or fails. -/
def after
    (operation : Operation)
    (session : Session) :
    Session :=
  match operation with
  | recordIfNew script now => ((Catalog.recordIfNew script now).run session).2
  | crawl site request canManage now queue =>
      ((Catalog.crawl site request canManage now queue).run session).2
  | dequeue handles now => ((Catalog.dequeue handles now).run session).2
  | restore handles => ((Catalog.restore handles).run session).2
  | forget handles => ((Catalog.forget handles).run session).2
  | clearDiscovered => (Catalog.clearDiscovered.run session).2
  | registerManual data queue now => ((Catalog.registerManual data queue now).run session).2
  | updateManual handle fields now => ((Catalog.updateManual handle fields now).run session).2
  | removeManual handles => ((Catalog.removeManual handles).run session).2
  | setRules registry name handle payload =>
      ((Catalog.setRules registry name handle payload).run session).2
  | clearRules name handle => ((Catalog.clearRules name handle).run session).2
  | render registry site request discover now queue =>
      ((renderPass registry site request discover now).run { queue, session }).2.session

/-- The changes that an operation makes, or its fault. -/
def plan
    (operation : Operation)
    (shelves : Shelves) :
    Except Fault (List Change) :=
  match operation with
  | recordIfNew script now => (Catalog.recordIfNewPlan script now shelves).map Prod.snd
  | crawl site request canManage now queue =>
      (Catalog.crawlPlan site request canManage now queue shelves).map Prod.snd
  | dequeue handles now => (Catalog.dequeuePlan handles now shelves).map Prod.snd
  | restore handles => (Catalog.deletePlan .removed handles shelves).map Prod.snd
  | forget handles => (Catalog.deletePlan .discovered handles shelves).map Prod.snd
  | clearDiscovered => .ok [.drop .discovered]
  | registerManual data queue now =>
      (Catalog.registerManualPlan data queue now shelves).map Prod.snd
  | updateManual handle fields now =>
      (Catalog.updateManualPlan handle fields now shelves).map Prod.snd
  | removeManual handles => (Catalog.deletePlan .manual handles shelves).map Prod.snd
  | setRules registry name handle payload =>
      (Catalog.setRulesPlan registry name handle payload shelves).map Prod.snd
  | clearRules name handle => (Catalog.clearRulesPlan name handle shelves).map Prod.snd
  | render registry site request discover now queue =>
      (renderPlan registry site request discover now queue shelves).1.map Prod.snd

/-- The changes that an operation makes in a session. -/
def changes
    (operation : Operation)
    (session : Session) :
    List Change :=
  session.taken (operation.plan session.shelves)

theorem after_of_follows
    {α : Type}
    {action : Action α}
    {plan : Shelves → Except Fault (Outcome α)}
    (h : Follows action plan)
    (session : Session) :
    ∃ reads notices, OnlyReads reads ∧
      (action.run session).2 =
        session.advance
          (reads ++ (session.taken ((plan session.shelves).map Prod.snd)).map Change.access)
          notices := by
  obtain ⟨reads, notices, hreads, hrun⟩ := h session
  refine ⟨reads, notices, hreads, ?_⟩
  rw [hrun, Session.settle_snd]

/-- A step is some reading and then the planned changes. -/
theorem after_eq
    (operation : Operation)
    (session : Session) :
    ∃ reads notices, OnlyReads reads ∧
      operation.after session =
        session.advance
          (reads ++ (operation.changes session).map Change.access)
          notices := by
  cases operation with
  | recordIfNew script now =>
      exact after_of_follows (Catalog.follows_recordIfNew script now) session
  | crawl site request canManage now queue =>
      exact after_of_follows (Catalog.follows_crawl site request canManage now queue) session
  | dequeue handles now =>
      exact after_of_follows (Catalog.follows_dequeue handles now) session
  | restore handles =>
      exact after_of_follows (Catalog.follows_deleteFrom .removed handles) session
  | forget handles =>
      exact after_of_follows (Catalog.follows_deleteFrom .discovered handles) session
  | clearDiscovered =>
      exact after_of_follows Catalog.follows_clearDiscovered session
  | registerManual data queue now =>
      exact after_of_follows (Catalog.follows_registerManual data queue now) session
  | updateManual handle fields now =>
      exact after_of_follows (Catalog.follows_updateManual handle fields now) session
  | removeManual handles =>
      exact after_of_follows (Catalog.follows_deleteFrom .manual handles) session
  | setRules registry name handle payload =>
      exact after_of_follows (Catalog.follows_setRules registry name handle payload) session
  | clearRules name handle =>
      exact after_of_follows (Catalog.follows_clearRules name handle) session
  | render registry site request discover now queue =>
      obtain ⟨reads, notices, hreads, hrun⟩ :=
        run_renderPass registry site request discover now { queue, session }
      refine ⟨reads, notices, hreads, ?_⟩
      have hafter : (render registry site request discover now queue).after session =
          (session.settle reads notices
            (renderPlan registry site request discover now queue session.shelves).1).2 := by
        simp only [after, hrun]
      rw [hafter, Session.settle_snd]
      rfl

end Operation
end PageScripts
