import Mathlib.Data.List.Infix
import PageScripts.Proofs.Queue

/-!
# What calls on a queue keep

A queue holds a listing of scripts and a list of handles beside it.  Calls come in any order: a handle
may be loaded before it is registered, registered twice, or removed when only half of it is there.

* `Call` are the four changes of a queue, and `run` does calls one after another.
* `orderly_run`: each call keeps a queue orderly, and so does a run.
* `script?_run`: what is registered under a handle stays, but for its declared strategy, as long as
  the handle is not removed.
* `before_run`: of two handles that stay loaded the same one stays first.

**Result.**  `calls_keep_order`: all this, for every run on the empty queue.
-/

namespace PageScripts

section Defs

/-- Two scripts differ in their declared strategies at most. -/
structure RegisteredScript.Alike (first second : RegisteredScript) : Prop where
  handle : first.handle = second.handle
  src : first.src = second.src
  deps : first.deps = second.deps
  version : first.version = second.version
  inFooter : first.inFooter = second.inFooter

namespace RenderQueue

/-- A call on a queue. -/
inductive Call
  | register (script : RegisteredScript)
  | enqueue (handle : String)
  | remove (handle : String)
  | setStrategy (handle word : String)
  deriving DecidableEq

/-- The queue after a call. -/
def step (queue : RenderQueue) : Call → RenderQueue
  | .register script => queue.register script
  | .enqueue handle => queue.enqueue handle
  | .remove handle => queue.remove handle
  | .setStrategy handle word => queue.setStrategy handle word

/-- The queue after calls, one after another. -/
def run
    (queue : RenderQueue)
    (calls : List Call) :
    RenderQueue :=
  calls.foldl step queue

/-- Of two handles that are loaded, the first one is loaded first. -/
def Before
    (queue : RenderQueue)
    (one other : String) : Prop :=
  [one, other].Sublist queue.queued

end RenderQueue

end Defs

theorem RegisteredScript.Alike.refl (script : RegisteredScript) :
    script.Alike script :=
  ⟨rfl, rfl, rfl, rfl, rfl⟩

theorem RegisteredScript.Alike.trans
    {first second third : RegisteredScript}
    (h : first.Alike second)
    (h' : second.Alike third) :
    first.Alike third :=
  ⟨h.handle.trans h'.handle, h.src.trans h'.src, h.deps.trans h'.deps, h.version.trans h'.version,
    h.inFooter.trans h'.inFooter⟩

namespace RenderQueue

variable {queue : RenderQueue}

section Runs

@[simp]
theorem run_nil (queue : RenderQueue) :
    queue.run [] = queue :=
  rfl

@[simp]
theorem run_cons
    (queue : RenderQueue)
    (call : Call)
    (calls : List Call) :
    queue.run (call :: calls) = (queue.step call).run calls :=
  rfl

theorem run_append
    (queue : RenderQueue)
    (calls more : List Call) :
    queue.run (calls ++ more) = (queue.run calls).run more :=
  List.foldl_append

end Runs

section Order

theorem orderly_step
    (orderly : queue.Orderly)
    (call : Call) :
    (queue.step call).Orderly := by
  cases call with
  | register script =>
      exact orderly.register script
  | enqueue handle =>
      exact orderly.enqueue handle
  | remove handle =>
      exact orderly.remove handle
  | setStrategy handle word =>
      exact orderly.setStrategy handle word

theorem orderly_run
    (orderly : queue.Orderly)
    (calls : List Call) :
    (queue.run calls).Orderly := by
  induction calls generalizing queue with
  | nil =>
      exact orderly
  | cons call rest ih =>
      exact ih (orderly_step orderly call)

theorem orderly_empty :
    ({} : RenderQueue).Orderly :=
  orderly_of_reachable .empty

/-- Of an orderly queue, the handles that are known are those that are registered. -/
theorem has_iff
    (orderly : queue.Orderly)
    (handle : String) :
    queue.has handle = true ↔ (queue.script? handle).isSome = true := by
  rw [has_iff_mem, List.mem_append, mem_keys_iff_script?]
  constructor
  · rintro (hknown | hloaded)
    · exact hknown
    · exact orderly.loadedKnown handle hloaded
  · exact Or.inl

end Order

section Scripts

/-- A call leaves what is registered under a handle, unless it removes that; it may declare a strategy. -/
theorem script?_step
    {handle : String}
    {script : RegisteredScript}
    (known : queue.script? handle = some script)
    {call : Call}
    (hkeep : call ≠ .remove handle) :
    ∃ now, (queue.step call).script? handle = some now ∧ now.Alike script := by
  cases call with
  | register other =>
      refine ⟨script, ?_, .refl script⟩
      rw [step, script?_register, known, Option.getD_some, ite_self]
  | enqueue other =>
      exact ⟨script, (script?_enqueue other handle queue).trans known, .refl script⟩
  | remove other =>
      have hne : other ≠ handle := fun heq => hkeep (heq ▸ rfl)
      refine ⟨script, ?_, .refl script⟩
      rw [step, script?_remove, if_neg hne, known]
  | setStrategy other word =>
      rw [step, script?_setStrategy, known]
      by_cases heq : other = handle
      · rw [if_pos heq]
        exact ⟨_, rfl, ⟨rfl, rfl, rfl, rfl, rfl⟩⟩
      · rw [if_neg heq]
        exact ⟨script, rfl, .refl script⟩

theorem script?_run
    {handle : String}
    {script : RegisteredScript}
    (known : queue.script? handle = some script)
    {calls : List Call}
    (hkeep : .remove handle ∉ calls) :
    ∃ now, (queue.run calls).script? handle = some now ∧ now.Alike script := by
  induction calls generalizing queue script with
  | nil =>
      exact ⟨script, known, .refl script⟩
  | cons call rest ih =>
      obtain ⟨hcall, hrest⟩ := not_or.mp (mt List.mem_cons.mpr hkeep)
      obtain ⟨next, hnext, halike⟩ := script?_step known (Ne.symm hcall)
      obtain ⟨now, hnow, halike'⟩ := ih hnext hrest
      exact ⟨now, hnow, halike'.trans halike⟩

/-- What a call registers is known from then on. -/
theorem script?_register_of_admits
    {script : RegisteredScript}
    (hadmits : queue.admits script = true) :
    (queue.register script).script? script.handle = some script := by
  rw [script?_register, if_pos rfl, (admits_iff script queue).mp hadmits]
  rfl

end Scripts

section Places

variable {one other : String}

/-- Which of two handles comes first is seen on these two alone. -/
theorem before_iff_filter :
    queue.Before one other ↔
      [one, other].Sublist (queue.queued.filter fun handle => handle = one ∨ handle = other) := by
  constructor
  · intro h
    simpa using h.filter fun handle => decide (handle = one ∨ handle = other)
  · exact fun h => h.trans List.filter_sublist

/-- A call leaves the order of the handles that are loaded before and after it. -/
theorem filter_queued_step
    (orderly : queue.Orderly)
    {call : Call}
    {keep : String → Bool}
    (hbefore : ∀ handle, keep handle = true → handle ∈ queue.queued)
    (hafter : ∀ handle, keep handle = true → handle ∈ (queue.step call).queued) :
    (queue.step call).queued.filter keep = queue.queued.filter keep := by
  cases call with
  | register script =>
      rw [step, queued_register]
  | enqueue handle =>
      rw [step, queued_enqueue]
      split
      · next h =>
          -- What is loaded last was not loaded before, so it is none of those that are kept.
          have hdrop : keep handle = false := by
            rw [← Bool.not_eq_true]
            exact fun hkeep => h.2 (hbefore handle hkeep)
          rw [List.filter_append, List.filter_singleton, hdrop]
          exact List.append_nil _
      · rfl
  | remove handle =>
      have hdrop : keep handle = false := by
        rw [← Bool.not_eq_true]
        intro hkeep
        exact (orderly.loadedOnce.mem_erase_iff.mp (hafter handle hkeep)).1 rfl
      rw [step, queued_remove, orderly.loadedOnce.erase_eq_filter, List.filter_filter]
      apply List.filter_congr
      intro other _
      by_cases heq : other = handle
      · simp [heq, hdrop]
      · simp [heq]
  | setStrategy handle word =>
      rw [step, queued_setStrategy]

theorem before_step
    (orderly : queue.Orderly)
    {call : Call}
    (hone : one ∈ queue.queued ∧ one ∈ (queue.step call).queued)
    (hother : other ∈ queue.queued ∧ other ∈ (queue.step call).queued) :
    (queue.step call).Before one other ↔ queue.Before one other := by
  rw [before_iff_filter, before_iff_filter, filter_queued_step orderly]
  · intro handle hkeep
    rcases of_decide_eq_true hkeep with rfl | rfl
    · exact hone.1
    · exact hother.1
  · intro handle hkeep
    rcases of_decide_eq_true hkeep with rfl | rfl
    · exact hone.2
    · exact hother.2

/-- Of two handles that stay loaded all the time the same one stays first. -/
theorem before_run
    (orderly : queue.Orderly)
    {calls : List Call}
    (hstay : ∀ part, part <+: calls →
      one ∈ (queue.run part).queued ∧ other ∈ (queue.run part).queued) :
    (queue.run calls).Before one other ↔ queue.Before one other := by
  induction calls generalizing queue with
  | nil =>
      exact Iff.rfl
  | cons call rest ih =>
      have hnow := hstay [] List.nil_prefix
      have hnext := hstay [call] (List.prefix_append [call] rest)
      have hlater : ∀ part, part <+: rest →
          one ∈ ((queue.step call).run part).queued ∧ other ∈ ((queue.step call).run part).queued :=
        fun part hpart => hstay (call :: part) ((List.prefix_cons_inj call).mpr hpart)
      exact (ih (orderly_step orderly call) hlater).trans
        (before_step orderly ⟨hnow.1, hnext.1⟩ ⟨hnow.2, hnext.2⟩)

end Places

/-- The listing and the list of a queue are kept in step by any calls on the empty queue.
* A handle is loaded once at most, and only if it is registered; the handles that the queue knows are
  the registered ones; each script is registered once, under its own handle.
* A script that a call registers stays registered with its address, its dependencies, its version and
  its place until its handle is removed.
* Of two handles that stay loaded the same one stays first. -/
theorem calls_keep_order (calls : List Call) :
    let queue := run {} calls
    queue.queued.Nodup ∧
    (∀ handle ∈ queue.queued, (queue.script? handle).isSome = true) ∧
    (∀ handle, queue.has handle = true ↔ (queue.script? handle).isSome = true) ∧
    queue.registered.keys.Nodup ∧
    (∀ handle script, queue.script? handle = some script → script.handle = handle) ∧
    (∀ before script later,
      calls = before ++ .register script :: later →
      (run {} before).admits script = true →
      .remove script.handle ∉ later →
      ∃ now, queue.script? script.handle = some now ∧ now.Alike script) ∧
    (∀ before later one other,
      calls = before ++ later →
      (∀ part, part <+: later →
        one ∈ (run {} (before ++ part)).queued ∧ other ∈ (run {} (before ++ part)).queued) →
      (queue.Before one other ↔ (run {} before).Before one other)) := by
  intro queue
  have horderly : queue.Orderly := orderly_run orderly_empty calls
  refine ⟨horderly.loadedOnce, horderly.loadedKnown, has_iff horderly, horderly.distinct,
    horderly.named, ?_, ?_⟩
  · rintro before script later hcalls hadmits hkeep
    have hqueue : queue = ((run {} before).register script).run later := by
      rw [show queue = run {} calls from rfl, hcalls, run_append, run_cons]
      rfl
    rw [hqueue]
    exact script?_run (script?_register_of_admits hadmits) hkeep
  · rintro before later one other hcalls hstay
    have hqueue : queue = (run {} before).run later := by
      rw [show queue = run {} calls from rfl, hcalls, run_append]
    rw [hqueue]
    refine before_run (orderly_run orderly_empty before) fun part hpart => ?_
    rw [← run_append]
    exact hstay part hpart

/-- Two scripts that are registered and loaded, one of them before it is known. -/
def openingCalls : List Call :=
  [ .enqueue "a", .register { handle := "a", src := "/a.js", version := "1" },
    .register { handle := "b", src := "/b.js", inFooter := true }, .enqueue "b", .enqueue "a" ]

/-- Calls on both that remove neither of them. -/
def closingCalls : List Call :=
  [ .register { handle := "b", src := "/other.js" }, .setStrategy "b" "async", .remove "c",
    .enqueue "b", .register { handle := "c", src := "/c.js" }, .enqueue "c" ]

/-- The script is the one that was registered first, and stays before the other one. -/
theorem calls_keep_order_crossed :
    let queue := run {} (openingCalls ++ closingCalls)
    (∃ now, queue.script? "b" = some now ∧ now.src = "/b.js" ∧ now.inFooter = true) ∧
    queue.Before "b" "a" := by
  obtain ⟨-, -, -, -, -, hscripts, hplaces⟩ := calls_keep_order (openingCalls ++ closingCalls)
  have hbefore : (run {} (openingCalls.take 2)).admits { handle := "b", src := "/b.js" } = true := by
    decide +kernel
  obtain ⟨now, hnow, halike⟩ := hscripts (openingCalls.take 2)
    { handle := "b", src := "/b.js", inFooter := true } (openingCalls.drop 3 ++ closingCalls) rfl
    hbefore (by decide)
  have hstay : ∀ part ∈ closingCalls.inits,
      "b" ∈ (run {} (openingCalls ++ part)).queued ∧ "a" ∈ (run {} (openingCalls ++ part)).queued := by
    decide +kernel
  have hfirst : (run {} openingCalls).Before "b" "a" := by
    unfold Before
    decide +kernel
  refine ⟨⟨now, hnow, halike.src, halike.inFooter⟩, ?_⟩
  refine (hplaces openingCalls closingCalls "b" "a" rfl fun part hpart => ?_).mpr hfirst
  exact hstay part ((List.mem_inits part closingCalls).mpr hpart)

end RenderQueue
end PageScripts
