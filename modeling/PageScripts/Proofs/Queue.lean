import PageScripts.Proofs.Listing
import PageScripts.Queue

/-!
# The changes of a render queue

A queue is looked at through `script?`, what is registered under a handle, and `queued`, the
handles that are loaded.  For each change there is one equation for either view; `declared_of_new`
and `enqueue_of_new` give the whole queue after a script has come to it.

`RenderQueue.Reachable` are the queues that the changes build from the empty one.  They are
`Orderly`: a handle is loaded once at most and only if it is registered, and each script is
registered once, under its own handle.
-/

namespace PageScripts
namespace RenderQueue

section Views

theorem has_registered (handle : String) (queue : RenderQueue) :
    queue.registered.has handle = (queue.script? handle).isSome :=
  rfl

/-- The first registration counts. -/
theorem script?_register
    (script : RegisteredScript)
    (queue : RenderQueue)
    (handle : String) :
    (queue.register script).script? handle =
      if script.handle = handle then some ((queue.script? handle).getD script)
      else queue.script? handle := by
  unfold register script?
  cases known : queue.registered.value? script.handle with
  | some old =>
      have hhas : queue.registered.has script.handle = true := by
        simp [Listing.has, known]
      rw [if_pos hhas]
      by_cases heq : script.handle = handle
      · subst heq
        simp [known]
      · rw [if_neg heq]
  | none =>
      have hhas : ¬ queue.registered.has script.handle = true := by
        simp [Listing.has, known]
      rw [if_neg hhas, Listing.value?_put]
      by_cases heq : script.handle = handle
      · subst heq
        simp [known]
      · rw [if_neg heq, if_neg heq]

@[simp]
theorem queued_register
    (script : RegisteredScript)
    (queue : RenderQueue) :
    (queue.register script).queued = queue.queued := by
  unfold register
  split <;> rfl

@[simp]
theorem script?_enqueue
    (handle other : String)
    (queue : RenderQueue) :
    (queue.enqueue handle).script? other = queue.script? other := by
  unfold enqueue
  split <;> rfl

theorem queued_enqueue
    (handle : String)
    (queue : RenderQueue) :
    (queue.enqueue handle).queued =
      if (queue.script? handle).isSome = true ∧ handle ∉ queue.queued then
        queue.queued ++ [handle]
      else
        queue.queued := by
  unfold enqueue
  simp only [has_registered, Bool.not_eq_true', List.contains_eq_mem, decide_eq_false_iff_not]
  split <;> rfl

theorem script?_remove
    (handle other : String)
    (queue : RenderQueue) :
    (queue.remove handle).script? other =
      if handle = other then none else queue.script? other :=
  Listing.value?_without handle other queue.registered

@[simp]
theorem queued_remove
    (handle : String)
    (queue : RenderQueue) :
    (queue.remove handle).queued = queue.queued.erase handle :=
  rfl

/-- The strategy that a word declares; that of the plain one is left out. -/
def declaration (word : String) : Option String :=
  if word = LoadStrategy.plain.word then none else some word

/-- A strategy is had as it is declared. -/
theorem strategy_declared
    (script : RegisteredScript)
    (strategy : LoadStrategy) :
    { script with declared := declaration strategy.word }.strategy = strategy := by
  change LoadStrategy.ofText ((declaration strategy.word).getD LoadStrategy.plain.word) = strategy
  cases strategy <;> decide

theorem script?_setStrategy
    (handle word other : String)
    (queue : RenderQueue) :
    (queue.setStrategy handle word).script? other =
      if handle = other then
        (queue.script? other).map fun script => { script with declared := declaration word }
      else
        queue.script? other := by
  unfold setStrategy script?
  cases known : queue.registered.value? handle with
  | none =>
      by_cases heq : handle = other
      · subst heq
        simp [known]
      · rw [if_neg heq]
  | some script =>
      simp only [Listing.value?_put]
      by_cases heq : handle = other
      · subst heq
        simp [known, declaration]
      · rw [if_neg heq, if_neg heq]

@[simp]
theorem queued_setStrategy
    (handle word : String)
    (queue : RenderQueue) :
    (queue.setStrategy handle word).queued = queue.queued := by
  unfold setStrategy
  split <;> rfl

theorem mem_keys_iff_script?
    (handle : String)
    (queue : RenderQueue) :
    handle ∈ queue.registered.keys ↔ (queue.script? handle).isSome = true := by
  rw [← has_registered, Listing.has_iff_mem_keys]

/-- The handles that a queue knows are those of either of its parts. -/
theorem has_iff_mem
    (handle : String)
    (queue : RenderQueue) :
    queue.has handle = true ↔ handle ∈ queue.registered.keys ++ queue.queued := by
  rw [has, Bool.or_eq_true, Listing.has_iff_mem_keys, List.contains_iff_mem, List.mem_append]

theorem admits_iff
    (script : RegisteredScript)
    (queue : RenderQueue) :
    queue.admits script = true ↔ queue.script? script.handle = none := by
  rw [admits, has_registered, Bool.not_eq_true', Option.isSome_eq_false_iff, Option.isNone_iff_eq_none]

end Views

section Entering

variable {queue : RenderQueue}

/-- A script whose handle is new is registered last, with the strategy that is declared for it. -/
theorem declared_of_new
    {script : RegisteredScript}
    (hnew : script.handle ∉ queue.registered.keys)
    (word : String) :
    (queue.register script).setStrategy script.handle word =
      { queue with
        registered :=
          queue.registered ++ [(script.handle, { script with declared := declaration word })] } := by
  have hhas : ¬ queue.registered.has script.handle = true :=
    mt (Listing.has_iff_mem_keys _ _).mp hnew
  have hvalue :
      (queue.registered.put script.handle script).value? script.handle = some script := by
    rw [Listing.value?_put, if_pos rfl]
  unfold register
  rw [if_neg hhas]
  unfold setStrategy
  simp only [hvalue, Listing.put_put]
  rw [Listing.put_of_not_mem _ hnew]
  rfl

/-- A registered handle that is not loaded is loaded last. -/
theorem enqueue_of_new
    {handle : String}
    (hknown : handle ∈ queue.registered.keys)
    (hnew : handle ∉ queue.queued) :
    queue.enqueue handle = { queue with queued := queue.queued ++ [handle] } := by
  have hhas : queue.registered.has handle = true := (Listing.has_iff_mem_keys _ _).mpr hknown
  unfold enqueue
  rw [if_pos ⟨hhas, by simpa using hnew⟩]

end Entering

section Reachable

/-- The queues that the changes build from the empty one. -/
inductive Reachable : RenderQueue → Prop
  | empty :
      Reachable {}
  | register
      {queue : RenderQueue}
      (before : Reachable queue)
      (script : RegisteredScript) :
      Reachable (queue.register script)
  | enqueue
      {queue : RenderQueue}
      (before : Reachable queue)
      (handle : String) :
      Reachable (queue.enqueue handle)
  | remove
      {queue : RenderQueue}
      (before : Reachable queue)
      (handle : String) :
      Reachable (queue.remove handle)
  | setStrategy
      {queue : RenderQueue}
      (before : Reachable queue)
      (handle word : String) :
      Reachable (queue.setStrategy handle word)

/-- What is loaded is registered and loaded once; what is registered stands once, under its own
handle. -/
structure Orderly (queue : RenderQueue) : Prop where
  loadedOnce : queue.queued.Nodup
  loadedKnown : ∀ handle ∈ queue.queued, (queue.script? handle).isSome = true
  distinct : queue.registered.Distinct
  named : ∀ handle script, queue.script? handle = some script → script.handle = handle

variable {queue : RenderQueue}

theorem Orderly.register
    (orderly : queue.Orderly)
    (script : RegisteredScript) :
    (queue.register script).Orderly where
  loadedOnce := by
    rw [queued_register]
    exact orderly.loadedOnce
  loadedKnown := by
    intro handle hmem
    rw [queued_register] at hmem
    have hknown := orderly.loadedKnown handle hmem
    rw [script?_register]
    split
    · rfl
    · exact hknown
  distinct := by
    unfold RenderQueue.register
    split
    · exact orderly.distinct
    · exact Listing.distinct_put orderly.distinct _ _
  named := by
    intro handle other h
    rw [script?_register] at h
    by_cases heq : script.handle = handle
    · rw [if_pos heq] at h
      cases known : queue.script? handle with
      | none =>
          rw [known] at h
          cases h
          exact heq
      | some old =>
          rw [known] at h
          cases h
          exact orderly.named handle old known
    · rw [if_neg heq] at h
      exact orderly.named handle other h

theorem Orderly.enqueue
    (orderly : queue.Orderly)
    (handle : String) :
    (queue.enqueue handle).Orderly where
  loadedOnce := by
    rw [queued_enqueue]
    split
    · next h =>
        rw [List.nodup_append]
        refine ⟨orderly.loadedOnce, List.nodup_singleton handle, ?_⟩
        rintro other hother _ hhandle rfl
        rw [List.mem_singleton.mp hhandle] at hother
        exact h.2 hother
    · exact orderly.loadedOnce
  loadedKnown := by
    intro other hmem
    rw [script?_enqueue]
    rw [queued_enqueue] at hmem
    split at hmem
    · next h =>
        rcases List.mem_append.mp hmem with hold | hnew
        · exact orderly.loadedKnown other hold
        · rw [List.mem_singleton.mp hnew]
          exact h.1
    · exact orderly.loadedKnown other hmem
  distinct := by
    unfold RenderQueue.enqueue
    split <;> exact orderly.distinct
  named := by
    intro other script h
    rw [script?_enqueue] at h
    exact orderly.named other script h

theorem Orderly.remove
    (orderly : queue.Orderly)
    (handle : String) :
    (queue.remove handle).Orderly where
  loadedOnce := orderly.loadedOnce.erase handle
  loadedKnown := by
    intro other hmem
    rw [queued_remove, orderly.loadedOnce.mem_erase_iff] at hmem
    rw [script?_remove, if_neg (Ne.symm hmem.1)]
    exact orderly.loadedKnown other hmem.2
  distinct := Listing.distinct_without orderly.distinct handle
  named := by
    intro other script h
    rw [script?_remove] at h
    by_cases heq : handle = other
    · rw [if_pos heq] at h
      cases h
    · rw [if_neg heq] at h
      exact orderly.named other script h

theorem Orderly.setStrategy
    (orderly : queue.Orderly)
    (handle word : String) :
    (queue.setStrategy handle word).Orderly where
  loadedOnce := by
    rw [queued_setStrategy]
    exact orderly.loadedOnce
  loadedKnown := by
    intro other hmem
    rw [queued_setStrategy] at hmem
    have hknown := orderly.loadedKnown other hmem
    rw [script?_setStrategy]
    split
    · rw [Option.isSome_map]
      exact hknown
    · exact hknown
  distinct := by
    unfold RenderQueue.setStrategy
    split
    · exact orderly.distinct
    · exact Listing.distinct_put orderly.distinct _ _
  named := by
    intro other script h
    rw [script?_setStrategy] at h
    by_cases heq : handle = other
    · rw [if_pos heq] at h
      obtain ⟨old, hold, rfl⟩ := Option.map_eq_some_iff.mp h
      exact orderly.named other old hold
    · rw [if_neg heq] at h
      exact orderly.named other script h

/-- Reachable queues are orderly. -/
theorem orderly_of_reachable
    (reachable : queue.Reachable) :
    queue.Orderly := by
  induction reachable with
  | empty =>
      refine ⟨List.nodup_nil, ?_, List.nodup_nil, ?_⟩
      · intro handle hmem
        cases hmem
      · intro handle script h
        cases h
  | register before script ih =>
      exact ih.register script
  | enqueue before handle ih =>
      exact ih.enqueue handle
  | remove before handle ih =>
      exact ih.remove handle
  | setStrategy before handle word ih =>
      exact ih.setStrategy handle word

end Reachable

end RenderQueue
end PageScripts
