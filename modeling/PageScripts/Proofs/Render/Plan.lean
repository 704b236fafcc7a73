import PageScripts.Proofs.Catalog.Plan

/-!
# The plan of a render pass

A render pass reads the two managed catalogs, changes the queue of the page by them, and then
lets the crawl follow its plan.  `run_renderPass` says what the whole comes to: the report or
fault, the queue, and the session.
-/

namespace PageScripts

open PageScripts.Action

/-- The verdict of the rules of manual scripts. -/
def additionHolds
    (registry : Registry Id Request)
    (request : Request)
    (rules : Option RuleSet) :
    Bool :=
  Purpose.addition.verdict registry rules request

/-- The verdict of the rules of removed scripts. -/
def removalHolds
    (registry : Registry Id Request)
    (request : Request)
    (rules : Option RuleSet) :
    Bool :=
  Purpose.removal.verdict registry rules request

/-- The two catalogs that a render pass reads. -/
def Shelves.bothManaged
    (shelves : Shelves) :
    Except Fault (Listing String ManagedScript × Listing String ManagedScript) := do
  let manual ← shelves.managed .manual
  let removed ← shelves.managed .removed
  return (manual, removed)

/-- The addition of manual scripts. -/
def additionStep
    (registry : Registry Id Request)
    (request : Request)
    (manual : Listing String ManagedScript)
    (queue : RenderQueue) :
    QueueStep :=
  addManual (additionHolds registry request) manual queue

/-- The removal of scripts. -/
def removalStep
    (registry : Registry Id Request)
    (request : Request)
    (removed : Listing String ManagedScript)
    (queue : RenderQueue) :
    QueueStep :=
  takeRemoved (removalHolds registry request) removed queue

/-- The end of a render pass, after the changes of the queue. -/
def discovery
    (site : Site)
    (request : Request)
    (discover : Bool)
    (now : Int)
    (added removed : List String) :
    PageAction RenderReport :=
  if discover then do
    let discovered ← inSession (Catalog.crawl site request none now (← get).queue)
    return { added, removed, discovered }
  else
    return { added, removed }

/-- The plan of `discovery`. -/
def discoveryPlan
    (site : Site)
    (request : Request)
    (discover : Bool)
    (now : Int)
    (added removed : List String)
    (queue : RenderQueue)
    (shelves : Shelves) :
    Except Fault (Outcome RenderReport) :=
  if discover then
    (Catalog.crawlPlan site request none now queue shelves).map fun outcome =>
      ({ added, removed, discovered := outcome.1 }, outcome.2)
  else
    .ok ({ added, removed }, [])

/-- What a render pass comes to, and the queue after it. -/
def renderPlan
    (registry : Registry Id Request)
    (site : Site)
    (request : Request)
    (discover : Bool)
    (now : Int)
    (queue : RenderQueue)
    (shelves : Shelves) :
    Except Fault (Outcome RenderReport) × RenderQueue :=
  match shelves.bothManaged with
  | .error fault => (.error fault, queue)
  | .ok (manual, removed) =>
      let added := additionStep registry request manual queue
      let taken := removalStep registry request removed added.queue
      (discoveryPlan site request discover now added.handles taken.handles taken.queue shelves,
        taken.queue)

/-- Work in the session leaves the queue. -/
theorem run_inSession
    {α : Type}
    (action : Action α)
    (page : Rendering) :
    (inSession action).run page =
      ((action.run page.session).1, { page with session := (action.run page.session).2 }) := by
  have h : (inSession action).run page =
      (MonadExcept.ofExcept (action.run page.session).1 : PageAction α).run
        { page with session := (action.run page.session).2 } := rfl
  rw [h]
  cases (action.run page.session).1 <;> rfl

/-- A step of the queue is taken over; the store is left alone. -/
theorem run_takeStep
    (step : QueueStep)
    (page : Rendering) :
    (takeStep step).run page =
      (.ok step.handles,
        { queue := step.queue, session := page.session.advance [] step.notices }) := by
  have hmodify : (takeStep step).run page =
      (inSession (step.notices.forM Store.notify) >>= fun _ => pure step.handles :
        PageAction (List String)).run { page with queue := step.queue } := rfl
  rw [hmodify, run_bind, run_inSession, run_notifyAll]
  rfl

theorem run_applyAdditions
    (registry : Registry Id Request)
    (request : Request)
    (manual : Listing String ManagedScript)
    (page : Rendering) :
    (applyAdditions registry request manual).run page =
      (takeStep (additionStep registry request manual page.queue)).run page :=
  rfl

theorem run_applyRemovals
    (registry : Registry Id Request)
    (request : Request)
    (removed : Listing String ManagedScript)
    (page : Rendering) :
    (applyRemovals registry request removed).run page =
      (takeStep (removalStep registry request removed page.queue)).run page :=
  rfl

theorem run_discovery
    (site : Site)
    (request : Request)
    (discover : Bool)
    (now : Int)
    (added removed : List String)
    (page : Rendering) :
    ∃ reads notices, OnlyReads reads ∧
      (discovery site request discover now added removed).run page =
        let settled := page.session.settle reads notices
          (discoveryPlan site request discover now added removed page.queue page.session.shelves)
        (settled.1, { page with session := settled.2 }) := by
  cases discover with
  | false =>
      refine ⟨[], [], .nil, ?_⟩
      simp only [discoveryPlan, Session.settle]
      simp [discovery]
      rfl
  | true =>
      obtain ⟨reads, notices, hreads, hrun⟩ :=
        Catalog.follows_crawl site request none now page.queue page.session
      refine ⟨reads, notices, hreads, ?_⟩
      have hcrawl : (discovery site request true now added removed).run page =
          (inSession (Catalog.crawl site request none now page.queue) >>= fun discovered =>
            pure { added, removed, discovered } : PageAction RenderReport).run page := rfl
      rw [hcrawl, run_bind, run_inSession, hrun]
      simp only [discoveryPlan, if_true]
      cases Catalog.crawlPlan site request none now page.queue page.session.shelves with
      | error fault =>
          rfl
      | ok outcome =>
          simp only [Session.settle, Except.map]
          by_cases hrefused : outcome.2 ≠ [] ∧ page.session.medium = .brokenTable
          · simp only [if_pos hrefused]
          · simp only [if_neg hrefused]
            rfl

/-- A render pass follows its plan. -/
theorem run_renderPass
    (registry : Registry Id Request)
    (site : Site)
    (request : Request)
    (discover : Bool)
    (now : Int)
    (page : Rendering) :
    ∃ reads notices, OnlyReads reads ∧
      (renderPass registry site request discover now).run page =
        let plan :=
          renderPlan registry site request discover now page.queue page.session.shelves
        let settled := page.session.settle reads notices plan.1
        (settled.1, { queue := plan.2, session := settled.2 }) := by
  obtain ⟨queue, session⟩ := page
  obtain ⟨reads₁, notices₁, hreads₁, hmanual⟩ := Catalog.reads_managed .manual session
  obtain ⟨reads₂, notices₂, hreads₂, hremoved⟩ :=
    Catalog.reads_managed .removed (session.advance reads₁ notices₁)
  rw [Session.shelves_advance_reads session notices₁ hreads₁,
    Session.advance_advance] at hremoved
  simp only [renderPass, run_bind, run_inSession, hmanual]
  cases hm : session.shelves.managed .manual with
  | error fault =>
      refine ⟨reads₁, notices₁, hreads₁, ?_⟩
      simp only [renderPlan, Shelves.bothManaged, hm]
      rfl
  | ok manual =>
      cases hr : session.shelves.managed .removed with
      | error fault =>
          refine ⟨reads₁ ++ reads₂, notices₁ ++ notices₂, hreads₁.append hreads₂, ?_⟩
          simp only [renderPlan, Shelves.bothManaged, hm, hremoved, hr]
          rfl
      | ok removed =>
          have hboth : session.shelves.bothManaged = .ok (manual, removed) := by
            simp only [Shelves.bothManaged, hm, hr]
            rfl
          let added := additionStep registry request manual queue
          let taken := removalStep registry request removed added.queue
          have hreads := hreads₁.append hreads₂
          obtain ⟨reads₃, notices₃, hreads₃, hrest⟩ :=
            run_discovery site request discover now added.handles taken.handles
              { queue := taken.queue
                session := session.advance (reads₁ ++ reads₂)
                  (notices₁ ++ notices₂ ++ added.notices ++ taken.notices) }
          simp only [Session.shelves_advance_reads session _ hreads,
            Session.settle_advance] at hrest
          refine ⟨reads₁ ++ reads₂ ++ reads₃,
            notices₁ ++ notices₂ ++ added.notices ++ taken.notices ++ notices₃,
            hreads.append hreads₃, ?_⟩
          simp only [hremoved, hr, run_applyAdditions, run_applyRemovals, run_takeStep,
            Session.advance_advance, List.append_nil, renderPlan, hboth]
          exact hrest

end PageScripts
