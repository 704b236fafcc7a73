import PageScripts.Proofs.Page
import PageScripts.Proofs.Queue.History

/-!
# Queues that are written as items and read again

The items of a queue stand in the order of registration, and each says whether its script is loaded.
The order of loading has no place in them, so it is read back only if it is that of registration.

* `Portable`: the queues whose scripts can be read back; `portable_of_ofItems`, `portable_run`: every
  queue that is read from items is such, and calls that register nothing keep it so.
* `ofItems_toItems`: the queue that is read from the items of a portable queue.
* `lined_eq_iff`: the handles that are loaded, put in the order of registration, are what they were
  just if they were in that order.

**Result.**  `items_read_back`: what is read back of a queue and what is not; `loading_order_lost` is a
queue that is loaded in another order after it has been written and read.
-/

namespace PageScripts

section Defs

/-- What a queue says of a script that it knows. -/
structure QueueEntry where
  handle : String
  src : String
  version : Option String
  deps : List String
  inFooter : Bool
  strategy : LoadStrategy
  deriving DecidableEq

/-- The script with the declaration that its strategy is read back with. -/
def RegisteredScript.reread (script : RegisteredScript) : RegisteredScript :=
  { script with declared := RenderQueue.declaration script.strategy.word }

namespace RenderQueue

/-- What the queue says of the scripts that it knows, in the order of registration. -/
def entries (queue : RenderQueue) : List QueueEntry :=
  queue.registered.map fun entry =>
    { handle := entry.1
      src := entry.2.src
      version := entry.2.version
      deps := entry.2.deps
      inFooter := entry.2.inFooter
      strategy := entry.2.strategy }

/-- The handles that are loaded, in the order of registration. -/
def lined (queue : RenderQueue) : List String :=
  queue.registered.keys.filter fun handle => queue.queued.contains handle

/-- The queue that is read from the items of a queue. -/
def reread (queue : RenderQueue) : RenderQueue :=
  { registered := queue.registered.mapValues fun _ script => script.reread
    queued := queue.lined }

/-- The queue is orderly, its scripts are settled, and none has the empty text for its handle. -/
structure Portable (queue : RenderQueue) : Prop where
  orderly : queue.Orderly
  settled : queue.Settled
  titled : queue.script? "" = none

/-- The script that an item makes known, before its strategy is declared. -/
def itemScript
    (handle : String)
    (item : Fields) :
    RegisteredScript :=
  { handle
    src := Record.textField "src" item
    deps := parseDependencies (Record.field "deps" item)
    version := Record.versionField "ver" item
    inFooter := Record.flagField "in_footer" item }

/-- The strategy of an item. -/
def itemStrategy (item : Fields) : LoadStrategy :=
  LoadStrategy.ofJson (Record.field "strategy" item)

/-- The script that an item makes known. -/
def readScript
    (handle : String)
    (item : Fields) :
    RegisteredScript :=
  { itemScript handle item with declared := declaration (itemStrategy item).word }

/-- The script of an item is loaded, unless the item says otherwise. -/
def loads (item : Fields) : Bool :=
  ((item.value? "enqueued").getD (.bool true)).truth

/-- The members of the item of a script. -/
def itemFields
    (queue : RenderQueue)
    (handle : String)
    (script : RegisteredScript) :
    Fields :=
  ((itemOf queue handle script).fields?).getD []

/-- The call makes a script known. -/
def Call.registers : Call → Bool
  | .register _ => true
  | _ => false

end RenderQueue

end Defs

@[simp]
theorem RegisteredScript.strategy_reread (script : RegisteredScript) :
    script.reread.strategy = script.strategy :=
  RenderQueue.strategy_declared script script.strategy

namespace RenderQueue

variable {queue : RenderQueue}

section Reading

/-- The handle of an item is not the empty text. -/
theorem ne_empty_of_itemHandle?
    {item : Json}
    {handle : String}
    {fields : Fields}
    (h : itemHandle? item = some (handle, fields)) :
    handle ≠ "" := by
  cases item with
  | obj members =>
      simp only [itemHandle?] at h
      split at h
      · next htruth =>
          obtain ⟨rfl, -⟩ := Prod.mk.inj (Option.some.inj h)
          refine Json.display_ne_empty fun hnone => ?_
          cases hvalue : Record.field "handle" members <;> rw [hvalue] at htruth hnone <;>
            simp_all [Json.NoVersion, Json.truth]
      · cases h
  | _ =>
      cases h

/-- An item makes a script known, declares its strategy, and loads it. -/
theorem addItem_eq
    (handle : String)
    (item : Fields)
    (queue : RenderQueue) :
    queue.addItem handle item =
      if loads item then
        ((queue.register (itemScript handle item)).setStrategy handle (itemStrategy item).word).enqueue
          handle
      else
        (queue.register (itemScript handle item)).setStrategy handle (itemStrategy item).word :=
  rfl

theorem orderly_addItem
    (orderly : queue.Orderly)
    (handle : String)
    (item : Fields) :
    (queue.addItem handle item).Orderly := by
  have hdeclared :=
    (orderly.register (itemScript handle item)).setStrategy handle (itemStrategy item).word
  rw [addItem_eq]
  split
  · exact hdeclared.enqueue handle
  · exact hdeclared

/-- An item makes no other handle known than its own. -/
theorem script?_addItem_of_ne
    {handle other : String}
    (hne : handle ≠ other)
    (item : Fields) :
    (queue.addItem handle item).script? other = queue.script? other := by
  have hregister : (queue.register (itemScript handle item)).script? other = queue.script? other := by
    rw [script?_register]
    exact if_neg hne
  rw [addItem_eq]
  split
  · rw [script?_enqueue, script?_setStrategy, if_neg hne, hregister]
  · rw [script?_setStrategy, if_neg hne, hregister]

theorem portable_addItems
    {index : Nat}
    {items : List Json}
    {come : RenderQueue}
    (portable : queue.Portable)
    (h : addItems index items queue = .ok come) :
    come.Portable := by
  induction items generalizing index queue with
  | nil =>
      cases h
      exact portable
  | cons item rest ih =>
      rw [addItems] at h
      cases hitem : itemHandle? item with
      | none =>
          rw [hitem] at h
          cases h
      | some named =>
          obtain ⟨handle, fields⟩ := named
          rw [hitem] at h
          refine ih ⟨orderly_addItem portable.orderly handle fields,
            settled_addItem portable.settled handle fields, ?_⟩ h
          rw [script?_addItem_of_ne (ne_empty_of_itemHandle? hitem)]
          exact portable.titled

/-- Every queue that is read from items is portable. -/
theorem portable_of_ofItems
    {items : Json}
    (read : ofItems items = .ok queue) :
    queue.Portable := by
  obtain ⟨elements, -, hadd⟩ := ok_of_bind read
  exact portable_addItems ⟨orderly_empty, settled_empty, rfl⟩ hadd

end Reading

section Calls

theorem portable_step
    (portable : queue.Portable)
    {call : Call}
    (hcall : call.registers = false) :
    (queue.step call).Portable := by
  refine ⟨orderly_step portable.orderly call, ?_, ?_⟩
  · cases call with
    | register script =>
        cases hcall
    | enqueue handle =>
        exact settled_enqueue portable.settled handle
    | remove handle =>
        exact settled_remove portable.settled handle
    | setStrategy handle word =>
        exact settled_setStrategy portable.settled handle word
  · cases call with
    | register script =>
        cases hcall
    | enqueue handle =>
        rw [step, script?_enqueue, portable.titled]
    | remove handle =>
        rw [step, script?_remove, portable.titled, ite_self]
    | setStrategy handle word =>
        rw [step, script?_setStrategy, portable.titled, Option.map_none, ite_self]

/-- Calls that register nothing keep a queue portable. -/
theorem portable_run
    (portable : queue.Portable)
    {calls : List Call}
    (hcalls : ∀ call ∈ calls, call.registers = false) :
    (queue.run calls).Portable := by
  induction calls generalizing queue with
  | nil =>
      exact portable
  | cons call rest ih =>
      obtain ⟨hcall, hrest⟩ := List.forall_mem_cons.mp hcalls
      exact ih (portable_step portable hcall) hrest

end Calls

section Back

/-- The item of a script has its handle, unless that is the empty text. -/
theorem itemHandle?_itemOf
    {handle : String}
    (hhandle : handle ≠ "")
    (queue : RenderQueue)
    (script : RegisteredScript) :
    itemHandle? (itemOf queue handle script) = some (handle, itemFields queue handle script) := by
  have htruth : (Json.str handle).truth = true := by
    simpa [Json.truth] using hhandle
  exact if_pos htruth

/-- A new item comes last in either part of the queue. -/
theorem addItem_of_new
    {handle : String}
    (hnew : handle ∉ queue.registered.keys)
    (hidle : handle ∉ queue.queued)
    (item : Fields) :
    queue.addItem handle item =
      { registered := queue.registered ++ [(handle, readScript handle item)]
        queued := if loads item then queue.queued ++ [handle] else queue.queued } := by
  have hfresh : (itemScript handle item).handle ∉ queue.registered.keys := hnew
  have hdeclared :
      (queue.register (itemScript handle item)).setStrategy handle (itemStrategy item).word =
        { queue with registered := queue.registered ++ [(handle, readScript handle item)] } :=
    declared_of_new hfresh _
  rw [addItem_eq, hdeclared]
  split
  · have hknown : handle ∈ Listing.keys (queue.registered ++ [(handle, readScript handle item)]) := by
      simp [Listing.keys]
    exact enqueue_of_new hknown hidle
  · rfl

/-- The item of a settled script is read as this script. -/
theorem readScript_itemFields
    {script : RegisteredScript}
    (settled : script.Settled)
    (queue : RenderQueue) :
    readScript script.handle (itemFields queue script.handle script) = script.reread := by
  have hsrc : Record.textField "src" (itemFields queue script.handle script) = script.src :=
    textField_of_str rfl
  have hversion :
      Record.versionField "ver" (itemFields queue script.handle script) = script.version :=
    versionOf_versionJson settled.version
  have hdeps :
      parseDependencies (Record.field "deps" (itemFields queue script.handle script)) =
        script.deps :=
    (parseDependencies_list script.deps).trans settled.deps
  have hflag :
      Record.flagField "in_footer" (itemFields queue script.handle script) = script.inFooter :=
    rfl
  have hstrategy :
      itemStrategy (itemFields queue script.handle script) = script.strategy :=
    LoadStrategy.ofText_word script.strategy
  unfold readScript itemScript RegisteredScript.reread
  rw [hsrc, hversion, hdeps, hflag, hstrategy]

/-- The items of settled scripts with distinct handles, taken into a queue that knows none of them. -/
theorem addItems_itemOf
    {written : Listing String RegisteredScript}
    (settled : ∀ entry ∈ written, entry.2.Settled ∧ entry.2.handle = entry.1 ∧ entry.1 ≠ "")
    {come : RenderQueue}
    (distinct : Listing.Distinct (come.registered ++ written))
    (loaded : ∀ handle ∈ come.queued, handle ∈ come.registered.keys)
    (index : Nat) :
    addItems index (written.map fun entry => itemOf queue entry.1 entry.2) come =
      .ok
        { registered := come.registered ++ written.mapValues fun _ script => script.reread
          queued := come.queued ++ written.keys.filter fun handle => queue.queued.contains handle } := by
  induction written generalizing come index with
  | nil =>
      simp [addItems, Listing.mapValues, Listing.keys]
  | cons entry rest ih =>
      obtain ⟨handle, script⟩ := entry
      obtain ⟨⟨hscript, hnamed, htitled⟩, hrest⟩ := List.forall_mem_cons.mp settled
      obtain rfl : script.handle = handle := hnamed
      -- The first item is new to the queue, and the others are new to what it makes of the queue.
      have hnew : script.handle ∉ come.registered.keys := by
        unfold Listing.Distinct Listing.keys at distinct
        rw [List.map_append, List.nodup_append] at distinct
        exact fun hmem => distinct.2.2 _ hmem _ List.mem_cons_self rfl
      have hidle : script.handle ∉ come.queued := fun hmem => hnew (loaded _ hmem)
      have hloads : loads (itemFields queue script.handle script) =
          queue.queued.contains script.handle := rfl
      have hnext := addItem_of_new hnew hidle (itemFields queue script.handle script)
      rw [readScript_itemFields hscript queue, hloads] at hnext
      rw [List.map_cons, addItems, itemHandle?_itemOf htitled]
      simp only [hnext]
      rw [ih hrest]
      · simp only [Listing.mapValues, Listing.keys, List.map_cons, List.filter_cons,
          List.append_assoc, List.singleton_append]
        split <;> simp
      · simpa [Listing.Distinct, Listing.keys] using distinct
      · intro other hmem
        simp only [Listing.keys, List.map_append, List.mem_append]
        split at hmem
        · rcases List.mem_append.mp hmem with hold | hlast
          · exact .inl (loaded other hold)
          · rw [List.mem_singleton.mp hlast]
            simp
        · exact .inl (loaded other hmem)

/-- What is read from the items of a portable queue. -/
theorem ofItems_toItems (portable : queue.Portable) :
    ofItems (.arr queue.toItems) = .ok queue.reread := by
  have hsettled : ∀ entry ∈ queue.registered,
      entry.2.Settled ∧ entry.2.handle = entry.1 ∧ entry.1 ≠ "" := by
    rintro ⟨handle, script⟩ hmem
    have hscript : queue.script? handle = some script :=
      (Listing.value?_eq_some_iff portable.orderly.distinct).mpr hmem
    refine ⟨portable.settled handle script hscript, portable.orderly.named handle script hscript, ?_⟩
    rintro rfl
    rw [portable.titled] at hscript
    cases hscript
  have hnone : ∀ handle ∈ ({} : RenderQueue).queued,
      handle ∈ ({} : RenderQueue).registered.keys :=
    fun handle hmem => absurd hmem List.not_mem_nil
  have hdistinct : Listing.Distinct (({} : RenderQueue).registered ++ queue.registered) :=
    portable.orderly.distinct
  exact addItems_itemOf hsettled hdistinct hnone 0

end Back

section Lined

theorem entries_reread (queue : RenderQueue) :
    queue.reread.entries = queue.entries := by
  unfold entries reread Listing.mapValues
  rw [List.map_map]
  apply List.map_congr_left
  intro entry _
  rw [Function.comp_apply, RegisteredScript.strategy_reread]
  rfl

theorem mem_lined_iff
    (orderly : queue.Orderly)
    (handle : String) :
    handle ∈ queue.lined ↔ handle ∈ queue.queued := by
  rw [lined, List.mem_filter, List.contains_iff_mem]
  refine ⟨And.right, fun hmem => ⟨?_, hmem⟩⟩
  rw [mem_keys_iff_script?]
  exact orderly.loadedKnown handle hmem

/-- The items tell of the queue what they tell of the one that is read from them. -/
theorem toItems_reread (orderly : queue.Orderly) :
    queue.reread.toItems = queue.toItems := by
  unfold toItems
  rw [show queue.reread.registered = queue.registered.mapValues fun _ script => script.reread from rfl,
    Listing.mapValues, List.map_map]
  apply List.map_congr_left
  rintro ⟨handle, script⟩ -
  have hloaded : queue.reread.queued.contains handle = queue.queued.contains handle := by
    rw [Bool.eq_iff_iff, List.contains_iff_mem, List.contains_iff_mem]
    exact mem_lined_iff orderly handle
  simp only [Function.comp_apply, itemOf, hloaded, RegisteredScript.strategy_reread]
  rfl

/-- The same handles are loaded when they are put in the order of registration. -/
theorem perm_lined (orderly : queue.Orderly) :
    queue.lined.Perm queue.queued :=
  (List.perm_ext_iff_of_nodup (orderly.distinct.filter _) orderly.loadedOnce).mpr
    (mem_lined_iff orderly)

/-- The handles that are loaded stay as they are just if they were in the order of registration. -/
theorem lined_eq_iff (orderly : queue.Orderly) :
    queue.lined = queue.queued ↔ queue.queued.Sublist queue.registered.keys := by
  constructor
  · intro h
    rw [← h]
    exact List.filter_sublist
  · intro hsublist
    have hkept : queue.queued.filter queue.queued.contains = queue.queued := by
      simp
    have hlined : queue.queued.Sublist queue.lined := by
      rw [← hkept]
      exact hsublist.filter _
    exact (hlined.eq_of_length (perm_lined orderly).length_eq.symm).symm

end Lined

/-- What is read back of a queue.  Let a queue be read from items, and then be changed by calls that
register nothing.  Its own items are read without fault, and the queue they give has the same items.
* It knows the same scripts in the same order, with the same address, version, dependencies, place and
  strategy.
* It loads the same handles, but in the order of registration; so it loads them in the same order just
  if they were loaded in that one. -/
theorem items_read_back
    {items : Json}
    {before : RenderQueue}
    (read : ofItems items = .ok before)
    {calls : List Call}
    (hcalls : ∀ call ∈ calls, call.registers = false) :
    let queue := before.run calls
    ∃ again, ofItems (.arr queue.toItems) = .ok again ∧
      again.entries = queue.entries ∧
      again.toItems = queue.toItems ∧
      again.queued.Perm queue.queued ∧
      again.queued.Sublist queue.registered.keys ∧
      (again.queued = queue.queued ↔ queue.queued.Sublist queue.registered.keys) := by
  intro queue
  have hportable : queue.Portable := portable_run (portable_of_ofItems read) hcalls
  exact ⟨queue.reread, ofItems_toItems hportable, entries_reread queue,
    toItems_reread hportable.orderly, perm_lined hportable.orderly, List.filter_sublist,
    lined_eq_iff hportable.orderly⟩

/-- Items with a handle that is a number, a script that is not loaded, and one that comes twice. -/
def mixedItems : Json :=
  .arr
    [ .obj [("handle", .int 7), ("ver", .bool false), ("deps", .str "b, ,a"), ("strategy", .int 1)],
      .obj [("handle", .str "idle"), ("enqueued", .int 0), ("ver", .arr [])],
      .obj [("handle", .str "app"), ("src", .str "/app.js"), ("in_footer", .str "no")],
      .obj [("handle", .str "7"), ("src", .str "/7.js"), ("strategy", .str "defer")] ]

/-- The queue of these items. -/
def mixedQueue : RenderQueue :=
  { registered :=
      [ ("7", { handle := "7", src := "", deps := ["b", "a"], declared := some "defer" }),
        ("idle", { handle := "idle", src := "", version := some "[]" }),
        ("app", { handle := "app", src := "/app.js", inFooter := true }) ]
    queued := ["7", "app"] }

/-- The queue is changed before it is written, and loaded in the same order when it is read. -/
theorem items_read_back_mixed :
    let calls : List Call :=
      [.setStrategy "7" "eager", .remove "ghost", .remove "app", .enqueue "app", .enqueue "idle"]
    ofItems mixedItems = .ok mixedQueue ∧
    ∃ again, ofItems (.arr (mixedQueue.run calls).toItems) = .ok again ∧
      again.queued = ["7", "idle"] := by
  intro calls
  have hread : ofItems mixedItems = .ok mixedQueue := rfl
  have hqueued : (mixedQueue.run calls).queued = ["7", "idle"] := by
    decide +kernel
  obtain ⟨again, hagain, -, -, -, -, horder⟩ :=
    items_read_back hread (show ∀ call ∈ calls, call.registers = false by decide)
  refine ⟨hread, again, hagain, (horder.mpr ?_).trans hqueued⟩
  rw [hqueued]
  decide +kernel

/-- The scripts `a` and `b`, of which `a` is not loaded at first. -/
def idleFirst : Json :=
  .arr [.obj [("handle", .str "a"), ("enqueued", .bool false)], .obj [("handle", .str "b")]]

/-- A script that is loaded later than it is registered loses its place. -/
theorem loading_order_lost :
    ∃ before again,
      ofItems idleFirst = .ok before ∧
      ofItems (.arr (before.run [.enqueue "a"]).toItems) = .ok again ∧
      (before.run [.enqueue "a"]).queued = ["b", "a"] ∧
      again.queued = ["a", "b"] :=
  ⟨_, _, rfl, rfl, rfl, rfl⟩

end RenderQueue
end PageScripts
