import PageScripts.Proofs.Queue
import PageScripts.Proofs.Render.Plan
import PageScripts.Vocabulary

/-!
# What a render pass does to the queue

A render pass goes over the manual catalog and then over the catalog of removed scripts, and
changes the queue handle by handle.  Here its outcome is said for the queue as a whole.

**Input.**  `addedHandles` are the manual handles whose rules hold and that may be loaded;
`removedHandles` are the removed handles whose rules hold.

**Steps.**
* `loadAll` and `removeAll` are the two loops without the choice of handles: `addManual_eq` and
  `takeRemoved_eq`.
* `queued_loadAll`, `script?_loadAll`, `queued_removeAll` and `script?_removeAll` say what the
  loops do to the views of the queue.

**Result.**  `renderPass_effect`: the report names these handles, and the queue after the pass
is `PassEffect` of the queue before.
-/

namespace PageScripts

open RenderQueue

section Defs

/-- A manual script that may be loaded: its handle is not blank and its source is an address. -/
def Loadable
    (handle : String)
    (script : ManagedScript) : Prop :=
  Text.trim handle ≠ "" ∧ Url.isSourceUrl script.src = true

instance (handle : String) (script : ManagedScript) :
    Decidable (Loadable handle script) :=
  inferInstanceAs (Decidable (_ ∧ _))

/-- The manual scripts that a pass adds, in the order of the catalog. -/
def accepted
    (holds : Option RuleSet → Bool)
    (manual : Listing String ManagedScript) :
    Listing String ManagedScript :=
  manual.filter fun entry => holds entry.2.rules ∧ Loadable entry.1 entry.2

/-- The removed scripts that a pass takes out, in the order of the catalog. -/
def chosen
    (holds : Option RuleSet → Bool)
    (removed : Listing String ManagedScript) :
    Listing String ManagedScript :=
  removed.filter fun entry => holds entry.2.rules

/-- The manual handles that a pass adds. -/
def addedHandles
    (registry : Registry Id Request)
    (request : Request)
    (manual : Listing String ManagedScript) :
    List String :=
  (accepted (additionHolds registry request) manual).keys

/-- The removed handles that a pass takes out. -/
def removedHandles
    (registry : Registry Id Request)
    (request : Request)
    (removed : Listing String ManagedScript) :
    List String :=
  (chosen (removalHolds registry request) removed).keys

/-- The script as a page knows it, with the strategy that a manual script declares; a plain one
declares none and leaves the strategy as it is. -/
def ManagedScript.declare
    (script : ManagedScript)
    (known : RegisteredScript) :
    RegisteredScript :=
  if script.strategy = .plain then known
  else { known with declared := some script.strategy.word }

/-- What is registered under a handle after a manual script was loaded. -/
def ManagedScript.loaded
    (handle : String)
    (script : ManagedScript)
    (known : Option RegisteredScript) :
    RegisteredScript :=
  script.declare (known.getD (script.registration handle))

/-- Loads manual scripts one after another. -/
def RenderQueue.loadAll
    (scripts : Listing String ManagedScript)
    (queue : RenderQueue) :
    RenderQueue :=
  scripts.foldl (fun queue entry => queue.load entry.1 entry.2) queue

/-- Removes handles one after another. -/
def RenderQueue.removeAll
    (handles : List String)
    (queue : RenderQueue) :
    RenderQueue :=
  handles.foldl (fun queue handle => queue.remove handle) queue

end Defs

section Choice

theorem refusal?_eq_none_iff
    (handle : String)
    (script : ManagedScript) :
    refusal? handle script = none ↔ Loadable handle script := by
  unfold refusal? Loadable
  by_cases hblank : Text.trim handle = ""
  · simp [hblank]
  · by_cases hsource : Url.isSourceUrl script.src = true
    · simp [hblank, hsource]
    · simp [hblank, hsource]

theorem accepted_cons
    (holds : Option RuleSet → Bool)
    (handle : String)
    (script : ManagedScript)
    (rest : Listing String ManagedScript) :
    accepted holds ((handle, script) :: rest) =
      if holds script.rules = true ∧ Loadable handle script then
        (handle, script) :: accepted holds rest
      else
        accepted holds rest := by
  unfold accepted
  rw [List.filter_cons]
  simp only [decide_eq_true_eq]

theorem chosen_cons
    (holds : Option RuleSet → Bool)
    (handle : String)
    (script : ManagedScript)
    (rest : Listing String ManagedScript) :
    chosen holds ((handle, script) :: rest) =
      if holds script.rules = true then (handle, script) :: chosen holds rest
      else chosen holds rest := by
  unfold chosen
  rw [List.filter_cons]

/-- The loop over the manual catalog loads the accepted scripts. -/
theorem addManual_eq
    (holds : Option RuleSet → Bool)
    (manual : Listing String ManagedScript)
    (queue : RenderQueue) :
    (addManual holds manual queue).handles = (accepted holds manual).keys ∧
    (addManual holds manual queue).queue = queue.loadAll (accepted holds manual) := by
  induction manual generalizing queue with
  | nil =>
      exact ⟨rfl, rfl⟩
  | cons entry rest ih =>
      obtain ⟨handle, script⟩ := entry
      rw [accepted_cons]
      unfold addManual
      by_cases hholds : holds script.rules = true
      · cases hrefusal : refusal? handle script with
        | none =>
            have hload := (refusal?_eq_none_iff handle script).mp hrefusal
            obtain ⟨hhandles, hqueue⟩ := ih (queue.load handle script)
            rw [if_pos hholds, if_pos ⟨hholds, hload⟩]
            exact ⟨congrArg (handle :: ·) hhandles, hqueue⟩
        | some notice =>
            have hnot : ¬ Loadable handle script := by
              rw [← refusal?_eq_none_iff, hrefusal]
              simp
            rw [if_pos hholds, if_neg (fun h => hnot h.2)]
            exact ih queue
      · rw [if_neg hholds, if_neg (fun h => hholds h.1)]
        exact ih queue

/-- The loop over the removed scripts removes the chosen ones. -/
theorem takeRemoved_eq
    (holds : Option RuleSet → Bool)
    (removed : Listing String ManagedScript)
    (queue : RenderQueue) :
    (takeRemoved holds removed queue).handles = (chosen holds removed).keys ∧
    (takeRemoved holds removed queue).queue = queue.removeAll (chosen holds removed).keys := by
  induction removed generalizing queue with
  | nil =>
      exact ⟨rfl, rfl⟩
  | cons entry rest ih =>
      obtain ⟨handle, script⟩ := entry
      rw [chosen_cons]
      unfold takeRemoved
      by_cases hholds : holds script.rules = true
      · obtain ⟨hhandles, hqueue⟩ := ih (queue.remove handle)
        rw [if_pos hholds, if_pos hholds]
        exact ⟨congrArg (handle :: ·) hhandles, hqueue⟩
      · rw [if_neg hholds, if_neg hholds]
        exact ih queue

end Choice

section Loading

@[simp]
theorem registration_handle
    (handle : String)
    (script : ManagedScript) :
    (script.registration handle).handle = handle :=
  rfl

/-- One manual script, loaded: what is registered. -/
theorem script?_load
    (handle other : String)
    (script : ManagedScript)
    (queue : RenderQueue) :
    (queue.load handle script).script? other =
      if handle = other then some (script.loaded handle (queue.script? handle))
      else queue.script? other := by
  have hregistered :
      ((queue.register (script.registration handle)).enqueue handle).script? other =
        if handle = other then
          some ((queue.script? other).getD (script.registration handle))
        else
          queue.script? other := by
    rw [script?_enqueue, script?_register]
    rfl
  unfold load ManagedScript.loaded ManagedScript.declare
  by_cases hplain : script.strategy = .plain
  · simp only [if_pos hplain, hregistered]
    by_cases heq : handle = other
    · subst heq
      rfl
    · rw [if_neg heq, if_neg heq]
  · have hword : declaration script.strategy.word = some script.strategy.word := by
      revert hplain
      cases script.strategy <;> decide
    simp only [if_neg hplain, script?_setStrategy, hregistered, hword]
    by_cases heq : handle = other
    · subst heq
      simp
    · rw [if_neg heq, if_neg heq, if_neg heq]

/-- One manual script, loaded: it comes last, unless it is there already. -/
theorem queued_load
    (handle : String)
    (script : ManagedScript)
    (queue : RenderQueue) :
    (queue.load handle script).queued =
      if handle ∈ queue.queued then queue.queued else queue.queued ++ [handle] := by
  have hknown :
      ((queue.register (script.registration handle)).script? handle).isSome = true := by
    simp [script?_register]
  have henqueued :
      ((queue.register (script.registration handle)).enqueue handle).queued =
        if handle ∈ queue.queued then queue.queued else queue.queued ++ [handle] := by
    rw [queued_enqueue, queued_register, hknown]
    by_cases hmem : handle ∈ queue.queued <;> simp [hmem]
  unfold load
  by_cases hplain : script.strategy = .plain
  · simp only [if_pos hplain]
    exact henqueued
  · simp only [if_neg hplain, queued_setStrategy]
    exact henqueued

/-- All of them, loaded: what is registered. -/
theorem script?_loadAll
    {scripts : Listing String ManagedScript}
    (distinct : scripts.Distinct)
    (queue : RenderQueue)
    (handle : String) :
    (queue.loadAll scripts).script? handle =
      match scripts.value? handle with
      | some script => some (script.loaded handle (queue.script? handle))
      | none => queue.script? handle := by
  induction scripts generalizing queue with
  | nil =>
      rfl
  | cons entry rest ih =>
      obtain ⟨first, script⟩ := entry
      obtain ⟨hfresh, hrest⟩ := List.nodup_cons.mp distinct
      have htail := ih hrest (queue.load first script)
      unfold loadAll at htail ⊢
      rw [List.foldl_cons, htail, Listing.value?]
      simp only [script?_load]
      by_cases heq : first = handle
      · subst heq
        have hnone := (Listing.value?_eq_none_iff first rest).mpr hfresh
        simp only [hnone, if_true]
      · simp only [if_neg heq]

/-- All of them, loaded: those that are not there already come last, in order. -/
theorem queued_loadAll
    {scripts : Listing String ManagedScript}
    (distinct : scripts.Distinct)
    (queue : RenderQueue) :
    (queue.loadAll scripts).queued =
      queue.queued ++ scripts.keys.filter fun handle => handle ∉ queue.queued := by
  induction scripts generalizing queue with
  | nil =>
      simp [loadAll, Listing.keys]
  | cons entry rest ih =>
      obtain ⟨first, script⟩ := entry
      obtain ⟨hfresh, hrest⟩ := List.nodup_cons.mp distinct
      have htail := ih hrest (queue.load first script)
      have hkeys : Listing.keys ((first, script) :: rest) = first :: Listing.keys rest := rfl
      unfold loadAll at htail ⊢
      rw [List.foldl_cons, htail, queued_load, hkeys, List.filter_cons]
      by_cases hmem : first ∈ queue.queued
      · simp [hmem]
      · -- A later handle is another one, so the first does not keep it from being loaded.
        have hsame :
            (Listing.keys rest).filter (fun handle => handle ∉ queue.queued ++ [first]) =
              (Listing.keys rest).filter fun handle => handle ∉ queue.queued := by
          apply List.filter_congr
          intro handle hhandle
          have hne : handle ≠ first := fun heq => hfresh (heq ▸ hhandle)
          simp [hne]
        rw [if_neg hmem, hsame, if_pos (by simpa using hmem), List.append_assoc,
          List.singleton_append]

end Loading

section Removing

theorem script?_removeAll
    (handles : List String)
    (queue : RenderQueue)
    (handle : String) :
    (queue.removeAll handles).script? handle =
      if handle ∈ handles then none else queue.script? handle := by
  induction handles generalizing queue with
  | nil =>
      rfl
  | cons first rest ih =>
      have htail := ih (queue.remove first)
      unfold removeAll at htail ⊢
      rw [List.foldl_cons, htail, script?_remove]
      by_cases heq : first = handle
      · subst heq
        simp
      · have hne : handle ≠ first := fun h => heq h.symm
        simp [heq, hne]

theorem queued_removeAll
    (handles : List String)
    {queue : RenderQueue}
    (loadedOnce : queue.queued.Nodup) :
    (queue.removeAll handles).queued =
      queue.queued.filter fun handle => handle ∉ handles := by
  induction handles generalizing queue with
  | nil =>
      simp [removeAll]
  | cons first rest ih =>
      have htail := @ih (queue.remove first) (loadedOnce.erase first)
      unfold removeAll at htail ⊢
      rw [List.foldl_cons, htail, queued_remove, loadedOnce.erase_eq_filter, List.filter_filter]
      apply List.filter_congr
      intro handle _
      by_cases heq : handle = first
      · simp [heq]
      · simp [heq]

end Removing

section Effect

/-- The strategy, after a pass, of a script that was registered before.  It is replaced by that
of an added script, unless that one is plain. -/
def strategyAfter
    (manual : Listing String ManagedScript)
    (added : List String)
    (handle : String)
    (before : LoadStrategy) :
    LoadStrategy :=
  match manual.value? handle with
  | some script =>
      if handle ∈ added ∧ script.strategy ≠ .plain then script.strategy else before
  | none => before

/-- What a pass that adds and removes some handles does to a queue. -/
structure PassEffect
    (manual : Listing String ManagedScript)
    (added removed : List String)
    (before after : RenderQueue) : Prop where
  queued :
    after.queued =
      (before.queued ++ added.filter fun handle => handle ∉ before.queued).filter
        fun handle => handle ∉ removed
  gone :
    ∀ handle ∈ removed, after.script? handle = none
  kept :
    ∀ handle old,
      handle ∉ removed →
      before.script? handle = some old →
      ∃ known,
        after.script? handle = some known ∧
        known.src = old.src ∧
        known.deps = old.deps ∧
        known.version = old.version ∧
        known.inFooter = old.inFooter ∧
        known.strategy = strategyAfter manual added handle old.strategy
  brought :
    ∀ handle,
      handle ∈ added →
      handle ∉ removed →
      before.script? handle = none →
      ∃ script known,
        manual.value? handle = some script ∧
        after.script? handle = some known ∧
        known.src = script.src ∧
        known.deps = script.dependencyList ∧
        known.version = script.version ∧
        known.inFooter = script.inFooter ∧
        known.strategy = script.strategy
  nothingElse :
    ∀ handle,
      (after.script? handle).isSome = true →
      handle ∉ removed ∧ ((before.script? handle).isSome = true ∨ handle ∈ added)

theorem strategy_declare
    (script : ManagedScript)
    (known : RegisteredScript) :
    (script.declare known).strategy =
      if script.strategy = .plain then known.strategy else script.strategy := by
  unfold ManagedScript.declare
  by_cases hplain : script.strategy = .plain
  · rw [if_pos hplain, if_pos hplain]
  · rw [if_neg hplain, if_neg hplain]
    exact LoadStrategy.ofText_word script.strategy

/-- Declaring a strategy leaves everything else. -/
theorem declare_fields
    (script : ManagedScript)
    (known : RegisteredScript) :
    (script.declare known).src = known.src ∧
    (script.declare known).deps = known.deps ∧
    (script.declare known).version = known.version ∧
    (script.declare known).inFooter = known.inFooter := by
  unfold ManagedScript.declare
  split <;> exact ⟨rfl, rfl, rfl, rfl⟩

theorem distinct_accepted
    (holds : Option RuleSet → Bool)
    {manual : Listing String ManagedScript}
    (distinct : manual.Distinct) :
    (accepted holds manual).Distinct :=
  distinct.sublist (List.Sublist.map Prod.fst List.filter_sublist)

/-- An accepted script stands in the manual catalog under the same handle. -/
theorem value?_of_accepted
    {holds : Option RuleSet → Bool}
    {manual : Listing String ManagedScript}
    (distinct : manual.Distinct)
    {handle : String}
    {script : ManagedScript}
    (h : (accepted holds manual).value? handle = some script) :
    manual.value? handle = some script :=
  (Listing.value?_eq_some_iff distinct).mpr (List.mem_filter.mp (Listing.mem_of_value? h)).1

/-- Loading is made of changes of the queue. -/
theorem reachable_loadAll
    (scripts : Listing String ManagedScript)
    {queue : RenderQueue}
    (reachable : queue.Reachable) :
    (queue.loadAll scripts).Reachable := by
  induction scripts generalizing queue with
  | nil =>
      exact reachable
  | cons entry rest ih =>
      apply ih
      have hregistered := reachable.register (entry.2.registration entry.1)
      have henqueued := hregistered.enqueue entry.1
      unfold load
      by_cases hplain : entry.2.strategy = .plain
      · simpa only [if_pos hplain] using henqueued
      · simpa only [if_neg hplain] using henqueued.setStrategy entry.1 entry.2.strategy.word

/-- What a script that was registered before becomes. -/
theorem kept_of_loops
    (holds : Option RuleSet → Bool)
    {manual : Listing String ManagedScript}
    (distinct : manual.Distinct)
    (queue : RenderQueue)
    {handle : String}
    {old : RegisteredScript}
    (hold : queue.script? handle = some old) :
    ∃ known,
      (queue.loadAll (accepted holds manual)).script? handle = some known ∧
      known.src = old.src ∧
      known.deps = old.deps ∧
      known.version = old.version ∧
      known.inFooter = old.inFooter ∧
      known.strategy =
        strategyAfter manual (accepted holds manual).keys handle old.strategy := by
  rw [script?_loadAll (distinct_accepted holds distinct)]
  cases hvalue : (accepted holds manual).value? handle with
  | none =>
      have hnot := (Listing.value?_eq_none_iff handle _).mp hvalue
      refine ⟨old, hold, rfl, rfl, rfl, rfl, ?_⟩
      unfold strategyAfter
      cases manual.value? handle with
      | none =>
          rfl
      | some script =>
          simp only [hnot, false_and, if_false]
  | some script =>
      have hadded := Listing.mem_keys_of_value? hvalue
      have hmanual := value?_of_accepted distinct hvalue
      obtain ⟨hsrc, hdeps, hversion, hfooter⟩ := declare_fields script old
      refine ⟨script.declare old, ?_, hsrc, hdeps, hversion, hfooter, ?_⟩
      · simp only [hold]
        rfl
      · unfold strategyAfter
        rw [strategy_declare, hmanual]
        by_cases hplain : script.strategy = .plain <;> simp [hplain, hadded]

/-- What is registered for an added script that was not registered before. -/
theorem brought_of_loops
    (holds : Option RuleSet → Bool)
    {manual : Listing String ManagedScript}
    (distinct : manual.Distinct)
    (queue : RenderQueue)
    {handle : String}
    (hadded : handle ∈ (accepted holds manual).keys)
    (hnew : queue.script? handle = none) :
    ∃ script known,
      manual.value? handle = some script ∧
      (queue.loadAll (accepted holds manual)).script? handle = some known ∧
      known.src = script.src ∧
      known.deps = script.dependencyList ∧
      known.version = script.version ∧
      known.inFooter = script.inFooter ∧
      known.strategy = script.strategy := by
  obtain ⟨script, hvalue⟩ := Listing.exists_value?_of_mem_keys hadded
  have hmanual := value?_of_accepted distinct hvalue
  obtain ⟨hsrc, hdeps, hversion, hfooter⟩ :=
    declare_fields script (script.registration handle)
  refine ⟨script, script.declare (script.registration handle), hmanual, ?_, hsrc, hdeps,
    hversion, hfooter, ?_⟩
  · rw [script?_loadAll (distinct_accepted holds distinct), hvalue, hnew]
    rfl
  · rw [strategy_declare]
    by_cases hplain : script.strategy = .plain
    · rw [if_pos hplain, hplain]
      rfl
    · rw [if_neg hplain]

/-- Loading the accepted scripts and removing handles has the effect of a pass. -/
theorem passEffect_of_loops
    (holds : Option RuleSet → Bool)
    {manual : Listing String ManagedScript}
    (distinct : manual.Distinct)
    (removed : List String)
    {queue : RenderQueue}
    (loadedOnce : (queue.loadAll (accepted holds manual)).queued.Nodup) :
    PassEffect manual (accepted holds manual).keys removed queue
      ((queue.loadAll (accepted holds manual)).removeAll removed) where
  queued := by
    rw [queued_removeAll removed loadedOnce, queued_loadAll (distinct_accepted holds distinct)]
  gone := by
    intro handle hmem
    rw [script?_removeAll, if_pos hmem]
  kept := by
    intro handle old hkeep hold
    rw [script?_removeAll, if_neg hkeep]
    exact kept_of_loops holds distinct queue hold
  brought := by
    intro handle hadded hkeep hnew
    rw [script?_removeAll, if_neg hkeep]
    exact brought_of_loops holds distinct queue hadded hnew
  nothingElse := by
    intro handle hknown
    rw [script?_removeAll] at hknown
    by_cases hmem : handle ∈ removed
    · rw [if_pos hmem] at hknown
      cases hknown
    · rw [if_neg hmem, script?_loadAll (distinct_accepted holds distinct)] at hknown
      refine ⟨hmem, ?_⟩
      cases hvalue : (accepted holds manual).value? handle with
      | none =>
          rw [hvalue] at hknown
          exact .inl hknown
      | some script =>
          exact .inr (Listing.mem_keys_of_value? hvalue)

end Effect

section Pass

variable (registry : Registry Id Request)
variable (request : Request)

/-- The queue after the two steps of a pass, which are its two loops. -/
theorem queue_of_steps
    (manual removed : Listing String ManagedScript)
    (queue : RenderQueue) :
    (removalStep registry request removed
        (additionStep registry request manual queue).queue).queue =
      (queue.loadAll (accepted (additionHolds registry request) manual)).removeAll
        (removedHandles registry request removed) := by
  unfold removalStep additionStep
  rw [(addManual_eq _ manual queue).2, (takeRemoved_eq _ removed _).2]
  rfl

theorem passEffect_of_steps
    {manual : Listing String ManagedScript}
    (removed : Listing String ManagedScript)
    (distinct : manual.Distinct)
    {queue : RenderQueue}
    (reachable : queue.Reachable) :
    PassEffect manual (addedHandles registry request manual)
      (removedHandles registry request removed) queue
      (removalStep registry request removed
        (additionStep registry request manual queue).queue).queue := by
  have hloaded := reachable_loadAll (accepted (additionHolds registry request) manual) reachable
  have heffect :=
    passEffect_of_loops (additionHolds registry request) distinct
      (removedHandles registry request removed) (orderly_of_reachable hloaded).loadedOnce
  rw [queue_of_steps]
  exact heffect

theorem handles_additionStep
    (manual : Listing String ManagedScript)
    (queue : RenderQueue) :
    (additionStep registry request manual queue).handles =
      addedHandles registry request manual :=
  (addManual_eq _ manual queue).1

theorem handles_removalStep
    (removed : Listing String ManagedScript)
    (queue : RenderQueue) :
    (removalStep registry request removed queue).handles =
      removedHandles registry request removed :=
  (takeRemoved_eq _ removed queue).1

/-- Reading a managed catalog gives its view. -/
theorem managed_eq_of_run
    {catalog : ManagedCatalog}
    {session : Session}
    {scripts : Listing String ManagedScript}
    (h : ((Catalog.managed catalog).run session).1 = .ok scripts) :
    session.shelves.managed catalog = .ok scripts := by
  obtain ⟨reads, notices, -, hrun⟩ := Catalog.reads_managed catalog session
  rw [hrun] at h
  exact h

/-- What a pass comes to once the two catalogs are read. -/
theorem run_renderPass_of_managed
    {manual removed : Listing String ManagedScript}
    {page : Rendering}
    (hmanual : page.session.shelves.managed .manual = .ok manual)
    (hremoved : page.session.shelves.managed .removed = .ok removed)
    (site : Site)
    (discover : Bool)
    (now : Int) :
    let queue := (removalStep registry request removed
      (additionStep registry request manual page.queue).queue).queue
    ∃ reads notices,
      (renderPass registry site request discover now).run page =
        let settled := page.session.settle reads notices
          (discoveryPlan site request discover now (addedHandles registry request manual)
            (removedHandles registry request removed) queue page.session.shelves)
        (settled.1, { queue, session := settled.2 }) := by
  obtain ⟨reads, notices, -, hrun⟩ :=
    run_renderPass registry site request discover now page
  have hboth : page.session.shelves.bothManaged = .ok (manual, removed) := by
    simp only [Shelves.bothManaged, hmanual, hremoved]
    rfl
  refine ⟨reads, notices, ?_⟩
  rw [hrun]
  simp only [renderPlan, hboth, handles_additionStep, handles_removalStep]

/-- The report of a pass names the handles of its two steps. -/
theorem handles_of_discoveryPlan
    {site : Site}
    {discover : Bool}
    {now : Int}
    {added removed : List String}
    {queue : RenderQueue}
    {shelves : Shelves}
    {outcome : Outcome RenderReport}
    (h : discoveryPlan site request discover now added removed queue shelves = .ok outcome) :
    outcome.1.added = added ∧ outcome.1.removed = removed := by
  unfold discoveryPlan at h
  cases discover with
  | false =>
      cases h
      exact ⟨rfl, rfl⟩
  | true =>
      obtain ⟨discovered, -, rfl⟩ := ok_of_map h
      exact ⟨rfl, rfl⟩

/-- What a render pass does to the queue of a page.  Adding the manual scripts of a catalog and
then removing scripts reports the added and the removed handles and has their effect; and so
does a whole pass that reads the two catalogs from the store.  Without discovery it always comes
to a report. -/
theorem renderPass_effect
    {manual removed : Listing String ManagedScript}
    (distinct : manual.Distinct)
    {page : Rendering}
    (reachable : page.queue.Reachable) :
    (∃ middle after,
      (applyAdditions registry request manual).run page =
        (.ok (addedHandles registry request manual), middle) ∧
      (applyRemovals registry request removed).run middle =
        (.ok (removedHandles registry request removed), after) ∧
      PassEffect manual (addedHandles registry request manual)
        (removedHandles registry request removed) page.queue after.queue) ∧
    (((Catalog.managed .manual).run page.session).1 = .ok manual →
      ((Catalog.managed .removed).run page.session).1 = .ok removed →
      ∀ site discover now,
        PassEffect manual (addedHandles registry request manual)
          (removedHandles registry request removed) page.queue
          ((renderPass registry site request discover now).run page).2.queue ∧
        (∀ report,
          ((renderPass registry site request discover now).run page).1 = .ok report →
          report.added = addedHandles registry request manual ∧
          report.removed = removedHandles registry request removed) ∧
        (discover = false →
          ∃ report, ((renderPass registry site request discover now).run page).1 = .ok report)) := by
  have heffect := passEffect_of_steps registry request removed distinct reachable
  constructor
  · let added := additionStep registry request manual page.queue
    let taken := removalStep registry request removed added.queue
    let session := page.session.advance [] added.notices
    refine ⟨{ queue := added.queue, session },
      { queue := taken.queue, session := session.advance [] taken.notices }, ?_, ?_, heffect⟩
    · rw [run_applyAdditions, run_takeStep, handles_additionStep]
    · rw [run_applyRemovals, run_takeStep, handles_removalStep]
  · intro hmanual hremoved site discover now
    obtain ⟨reads, notices, hrun⟩ :=
      run_renderPass_of_managed registry request (managed_eq_of_run hmanual)
        (managed_eq_of_run hremoved) site discover now
    rw [hrun]
    refine ⟨heffect, ?_, ?_⟩
    · intro report hreport
      obtain ⟨changes, houtcome⟩ := Session.ok_of_settle hreport
      exact handles_of_discoveryPlan request houtcome
    · rintro rfl
      exact ⟨_, rfl⟩

end Pass

section Witness

/-- A page that knows two scripts and loads one of them.  The catalogs of its store share a
handle, and one manual script has no address. -/
def sharedPage : Rendering :=
  { queue :=
      ((({} : RenderQueue).register { handle := "slider", src := "/slider.js" }).register
        { handle := "chat", src := "/chat.js", inFooter := true }).enqueue "slider"
    session :=
      { options :=
          [ ("psa_manual_scripts",
              .obj
                [ ("chat", .obj [("src", .str "https://a.b/c.js"), ("strategy", .str "async")]),
                  ("map", .obj [("src", .str "https://a.b/m.js"), ("deps", .str "slider")]),
                  ("bare", .obj [("src", .str "m.js")]),
                  ("slider", .obj [("src", .str "https://a.b/s.js")]) ]),
            ("psa_dequeued_scripts",
              .obj [("slider", .obj []), ("absent", .obj [("src", .str "/x.js")])]) ] } }

/-- The manual scripts of the shared page. -/
def sharedManual : Listing String ManagedScript :=
  [ ("chat",
      { handle := "chat", catalog := .manual, src := "https://a.b/c.js", strategy := .async }),
    ("map",
      { handle := "map", catalog := .manual, src := "https://a.b/m.js", deps := .text "slider" }),
    ("bare",
      { handle := "bare", catalog := .manual, src := "m.js" }),
    ("slider",
      { handle := "slider", catalog := .manual, src := "https://a.b/s.js" }) ]

/-- The removed scripts of the shared page. -/
def sharedRemoved : Listing String ManagedScript :=
  [ ("slider", { handle := "slider", catalog := .removed, src := "" }),
    ("absent", { handle := "absent", catalog := .removed, src := "/x.js" }) ]

/-- The script in both catalogs is added and taken out again, and the one that was known but not
loaded keeps its source and gets a strategy. -/
theorem renderPass_effect_shared :
    sharedManual.Distinct ∧
    sharedPage.queue.Reachable ∧
    ((Catalog.managed .manual).run sharedPage.session).1 = .ok sharedManual ∧
    ((Catalog.managed .removed).run sharedPage.session).1 = .ok sharedRemoved ∧
    ∃ report known,
      ((renderPass Vocabulary.registry {} {} false 0).run sharedPage).1 = .ok report ∧
      report.added = ["chat", "map", "slider"] ∧
      report.removed = ["slider", "absent"] ∧
      ((renderPass Vocabulary.registry {} {} false 0).run sharedPage).2.queue.queued =
        ["chat", "map"] ∧
      ((renderPass Vocabulary.registry {} {} false 0).run sharedPage).2.queue.script? "chat" =
        some known ∧
      known.src = "/chat.js" ∧
      known.strategy = .async := by
  have hdistinct : sharedManual.Distinct := by
    unfold Listing.Distinct
    decide
  have hreachable : sharedPage.queue.Reachable := by
    have hslider := Reachable.empty.register { handle := "slider", src := "/slider.js" }
    have hchat := hslider.register { handle := "chat", src := "/chat.js", inFooter := true }
    exact hchat.enqueue "slider"
  have hmanual : ((Catalog.managed .manual).run sharedPage.session).1 = .ok sharedManual := by
    decide +kernel
  have hremoved : ((Catalog.managed .removed).run sharedPage.session).1 = .ok sharedRemoved := by
    decide +kernel
  have hadded :
      addedHandles Vocabulary.registry {} sharedManual = ["chat", "map", "slider"] := by
    decide +kernel
  have htaken : removedHandles Vocabulary.registry {} sharedRemoved = ["slider", "absent"] := by
    decide +kernel
  obtain ⟨heffect, hreport, hok⟩ :=
    (renderPass_effect Vocabulary.registry {} hdistinct hreachable).2 hmanual hremoved {} false 0
  rw [hadded, htaken] at heffect hreport
  obtain ⟨report, hrun⟩ := hok rfl
  obtain ⟨hnamed, hout⟩ := hreport report hrun
  obtain ⟨known, hknown, hsrc, -, -, -, hstrategy⟩ :=
    heffect.kept "chat" { handle := "chat", src := "/chat.js", inFooter := true } (by decide) rfl
  refine ⟨hdistinct, hreachable, hmanual, hremoved, report, known, hrun, hnamed, hout, ?_, hknown,
    hsrc, ?_⟩
  · rw [heffect.queued]
    rfl
  · rw [hstrategy]
    rfl

end Witness

end PageScripts
