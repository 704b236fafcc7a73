import PageScripts.Page
import PageScripts.Proofs.Queue
import PageScripts.Proofs.Script.Lossless

/-!
# The queues that pages are given

A queue is read from a list of items, or from the text of a page by some reader of pages.  Either way each script that it
knows has a version that is not the empty text, if it has one, and dependencies that are trimmed.
So what is written down of the script is read back as it was.

* `RenderQueue.Settled`: the queues of such scripts; `settled_register`, `settled_setStrategy`,
  `settled_enqueue` and `settled_remove`: the changes keep them.
* `splitVersion_ne_empty`: an address has no empty version.
* `RenderQueue.Built`: the queues that are read.

**Result.**  `settled_of_built`: every queue that is read is settled.
-/

namespace PageScripts

/-- The version and the dependencies are such as a record is read with. -/
structure RegisteredScript.Settled (script : RegisteredScript) : Prop where
  version : script.version ≠ some ""
  deps : tidyHandles script.deps = script.deps

namespace RenderQueue

/-- All scripts that the queue knows are settled. -/
def Settled (queue : RenderQueue) : Prop :=
  ∀ handle script, queue.script? handle = some script → script.Settled

/-- The queues that are read from items or from a page. -/
inductive Built : RenderQueue → Prop
  | ofItems
      {items : Json}
      {queue : RenderQueue}
      (read : RenderQueue.ofItems items = .ok queue) :
      Built queue
  | ofPage
      {reader : Page.Reader}
      {html base : String}
      {queue : RenderQueue}
      (read : Page.parse reader html base = .ok queue) :
      Built queue

section Changes

variable {queue : RenderQueue}

theorem settled_empty :
    ({} : RenderQueue).Settled := by
  intro handle script h
  cases h

theorem settled_register
    (settled : queue.Settled)
    {script : RegisteredScript}
    (hscript : script.Settled) :
    (queue.register script).Settled := by
  intro handle other h
  rw [script?_register] at h
  by_cases heq : script.handle = handle
  · rw [if_pos heq, Option.some.injEq] at h
    cases hknown : queue.script? handle with
    | none =>
        rw [hknown] at h
        exact h ▸ hscript
    | some old =>
        rw [hknown] at h
        exact h ▸ settled handle old hknown
  · rw [if_neg heq] at h
    exact settled handle other h

theorem settled_setStrategy
    (settled : queue.Settled)
    (handle word : String) :
    (queue.setStrategy handle word).Settled := by
  intro other script h
  rw [script?_setStrategy] at h
  split at h
  · obtain ⟨old, hold, rfl⟩ := Option.map_eq_some_iff.mp h
    exact ⟨(settled other old hold).version, (settled other old hold).deps⟩
  · exact settled other script h

theorem settled_enqueue
    (settled : queue.Settled)
    (handle : String) :
    (queue.enqueue handle).Settled := by
  intro other script h
  rw [script?_enqueue] at h
  exact settled other script h

theorem settled_remove
    (settled : queue.Settled)
    (handle : String) :
    (queue.remove handle).Settled := by
  intro other script h
  rw [script?_remove] at h
  split at h
  · cases h
  · exact settled other script h

end Changes

section Items

variable {queue : RenderQueue}

theorem settled_addItem
    (settled : queue.Settled)
    (handle : String)
    (item : Fields) :
    (queue.addItem handle item).Settled := by
  have hdeclared (script : RegisteredScript) (hscript : script.Settled) (word : String) :
      ((queue.register script).setStrategy handle word).Settled :=
    settled_setStrategy (settled_register settled hscript) handle word
  unfold addItem
  dsimp only
  split
  · refine settled_enqueue (hdeclared _ ⟨?_, ?_⟩ _) handle
    · exact versionOf_ne_empty _
    · exact tidyHandles_parseDependencies _
  · refine hdeclared _ ⟨?_, ?_⟩ _
    · exact versionOf_ne_empty _
    · exact tidyHandles_parseDependencies _

theorem settled_addItems
    {index : Nat}
    {items : List Json}
    {come : RenderQueue}
    (settled : queue.Settled)
    (h : addItems index items queue = .ok come) :
    come.Settled := by
  induction items generalizing index queue with
  | nil =>
      cases h
      exact settled
  | cons item rest ih =>
      rw [addItems] at h
      cases hitem : itemHandle? item with
      | none =>
          rw [hitem] at h
          cases h
      | some named =>
          rw [hitem] at h
          exact ih (settled_addItem settled named.1 named.2) h

end Items

end RenderQueue

section Pages

open RenderQueue

/-- The empty version is passed over. -/
theorem Url.versionOf?_ne_empty (query : String) :
    Url.versionOf? query ≠ some "" := by
  intro h
  obtain ⟨value, hvalue, hempty⟩ := Option.map_eq_some_iff.mp h
  have hfull := List.find?_some hvalue
  rw [String.ofList_eq_empty_iff.mp hempty] at hfull
  cases hfull

theorem Url.splitVersion_ne_empty
    {address src : String}
    {version : Option String}
    (h : Url.splitVersion address = .ok (src, version)) :
    version ≠ some "" := by
  obtain ⟨parsed, -, hdone⟩ := ok_of_bind h
  cases hdone
  exact Url.versionOf?_ne_empty parsed.query

theorem settled_addElement
    {base : String}
    {queue come : RenderQueue}
    {element : Markup.ScriptElement}
    (settled : queue.Settled)
    (h : Page.addElement base queue element = .ok come) :
    come.Settled := by
  obtain ⟨address, -, hrest⟩ := ok_of_bind h
  obtain ⟨⟨src, version⟩, hversion, hrest⟩ := ok_of_bind hrest
  obtain ⟨name, -, hdone⟩ := ok_of_bind hrest
  cases hdone
  exact settled_enqueue
    (settled_setStrategy (settled_register settled ⟨Url.splitVersion_ne_empty hversion, rfl⟩) _ _) _

theorem settled_addElements
    {base : String}
    {elements : List Markup.ScriptElement}
    {queue come : RenderQueue}
    (settled : queue.Settled)
    (h : elements.foldlM (Page.addElement base) queue = .ok come) :
    come.Settled := by
  induction elements generalizing queue with
  | nil =>
      cases h
      exact settled
  | cons element rest ih =>
      rw [List.foldlM_cons] at h
      obtain ⟨next, hnext, hrest⟩ := ok_of_bind h
      exact ih (settled_addElement settled hnext) hrest

/-- Every queue that is read is settled. -/
theorem settled_of_built
    {queue : RenderQueue}
    (built : queue.Built) :
    queue.Settled := by
  cases built with
  | ofItems read =>
      obtain ⟨items, -, hadd⟩ := ok_of_bind read
      exact settled_addItems settled_empty hadd
  | ofPage read =>
      obtain ⟨elements, -, hqueue⟩ := Page.queueOf_of_parse read
      exact settled_addElements settled_empty hqueue

end Pages

end PageScripts
