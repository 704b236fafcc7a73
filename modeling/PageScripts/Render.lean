import PageScripts.Catalog.Discovery
import PageScripts.Rule.Purpose

/-!
# Rendering a page

A page is rendered in three steps: manual scripts are added to its queue, removed scripts are
taken out of it, and what then is in the queue is written down as discovered.  Both changes of
the queue can be repeated without a further effect.
-/

namespace PageScripts

/-- What a step did to the queue: which handles it is about, the queue after it, and what the
operator should know. -/
structure QueueStep where
  handles : List String := []
  queue : RenderQueue
  notices : List Notice := []

/-- What keeps a manual script out of the queue, if anything does. -/
def refusal?
    (handle : String)
    (script : ManagedScript) :
    Option Notice :=
  if Text.trim handle = "" then
    some (.blankHandle script.src)
  else if !Url.isSourceUrl script.src then
    some (.refusedSource handle script.src)
  else
    none

/-- A manual script as it is registered. -/
def ManagedScript.registration
    (handle : String)
    (script : ManagedScript) :
    RegisteredScript :=
  { handle
    src := script.src
    deps := script.dependencyList
    version := script.version
    inFooter := script.inFooter }

/-- Registers and loads a manual script.  Only a strategy other than plain is declared. -/
def RenderQueue.load
    (handle : String)
    (script : ManagedScript)
    (queue : RenderQueue) :
    RenderQueue :=
  let queue := (queue.register (script.registration handle)).enqueue handle
  if script.strategy = .plain then
    queue
  else
    queue.setStrategy handle script.strategy.word

/-- Adds the manual scripts whose rules hold. -/
def addManual
    (holds : Option RuleSet → Bool) :
    Listing String ManagedScript → RenderQueue → QueueStep
  | [], queue => { queue }
  | (handle, script) :: rest, queue =>
      if holds script.rules then
        match refusal? handle script with
        | some notice =>
            let step := addManual holds rest queue
            { step with notices := notice :: step.notices }
        | none =>
            let step := addManual holds rest (queue.load handle script)
            { step with handles := handle :: step.handles }
      else
        addManual holds rest queue

/-- Takes out the removed scripts whose rules hold, whether they are in the queue or not. -/
def takeRemoved
    (holds : Option RuleSet → Bool) :
    Listing String ManagedScript → RenderQueue → QueueStep
  | [], queue => { queue }
  | (handle, script) :: rest, queue =>
      if holds script.rules then
        let step := takeRemoved holds rest (queue.remove handle)
        { step with handles := handle :: step.handles }
      else
        takeRemoved holds rest queue

/-- A page that is being rendered: its queue, and the session with the store. -/
structure Rendering where
  queue : RenderQueue := {}
  session : Session := {}

/-- Work on a page that may fail.  What was done to the queue before a fault stays done. -/
abbrev PageAction := ExceptT Fault (StateM Rendering)

/-- Work in the session of a page. -/
def inSession
    {α : Type}
    (action : Action α) :
    PageAction α := do
  let page ← get
  let (result, session) := action.run page.session
  set { page with session }
  MonadExcept.ofExcept result

/-- Takes a step over: its queue and its notices. -/
def takeStep (step : QueueStep) : PageAction (List String) := do
  modify fun page => { page with queue := step.queue }
  inSession (step.notices.forM Store.notify)
  return step.handles

/-- What a render pass did. -/
structure RenderReport where
  added : List String := []
  removed : List String := []
  discovered : List String := []
  deriving DecidableEq, Repr

/-- Adds the manual scripts whose rules hold for a request to the queue. -/
def applyAdditions
    (registry : Registry Id Request)
    (request : Request)
    (manual : Listing String ManagedScript) :
    PageAction (List String) := do
  let holds (rules : Option RuleSet) : Bool := Purpose.addition.verdict registry rules request
  takeStep (addManual holds manual (← get).queue)

/-- Takes the removed scripts whose rules hold for a request out of the queue. -/
def applyRemovals
    (registry : Registry Id Request)
    (request : Request)
    (removed : Listing String ManagedScript) :
    PageAction (List String) := do
  let holds (rules : Option RuleSet) : Bool := Purpose.removal.verdict registry rules request
  takeStep (takeRemoved holds removed (← get).queue)

/-- Renders a page: manual scripts in, removed scripts out, and discovery if it is wanted. -/
def renderPass
    (registry : Registry Id Request)
    (site : Site)
    (request : Request)
    (discover : Bool)
    (now : Int) :
    PageAction RenderReport := do
  let manual ← inSession (Catalog.managed .manual)
  let removed ← inSession (Catalog.managed .removed)
  let added ← applyAdditions registry request manual
  let removed ← applyRemovals registry request removed
  if discover then do
    let discovered ← inSession (Catalog.crawl site request none now (← get).queue)
    return { added, removed, discovered }
  else
    return { added, removed }

end PageScripts
