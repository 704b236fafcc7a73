import PageScripts.Script.Record

/-!
# The render queue

The queue of one page knows the scripts that are registered, and in which order some of them
are loaded.  The first registration of a handle counts until the handle is removed; a
registered handle is queued once at most.

* `register`, `enqueue`, `remove` and `setStrategy` are the changes.
* `ofItems` and `toItems` read and write the queue as a list of JSON objects.
-/

namespace PageScripts

/-- A script that a page knows.  The declared strategy is kept as the word it was given by. -/
structure RegisteredScript where
  handle : String
  src : String
  deps : List String := []
  version : Option String := none
  inFooter : Bool := false
  declared : Option String := none
  deriving DecidableEq, Repr

namespace RegisteredScript

/-- How the browser loads the script; an unknown word is plain. -/
def strategy (script : RegisteredScript) : LoadStrategy :=
  LoadStrategy.ofText (script.declared.getD LoadStrategy.plain.word)

end RegisteredScript

/-- The scripts that a page knows, and the handles of those it loads, in order. -/
structure RenderQueue where
  registered : Listing String RegisteredScript := []
  queued : List String := []
  deriving DecidableEq, Repr

namespace RenderQueue

/-- Whether the page knows a handle. -/
def has
    (handle : String)
    (queue : RenderQueue) :
    Bool :=
  queue.registered.has handle || queue.queued.contains handle

/-- The script of a handle. -/
def script?
    (handle : String)
    (queue : RenderQueue) :
    Option RegisteredScript :=
  queue.registered.value? handle

/-- Whether registering a script makes it known: its handle is not registered yet. -/
def admits
    (script : RegisteredScript)
    (queue : RenderQueue) :
    Bool :=
  !queue.registered.has script.handle

/-- Makes a script known, unless its handle is. -/
def register
    (script : RegisteredScript)
    (queue : RenderQueue) :
    RenderQueue :=
  if queue.registered.has script.handle then
    queue
  else
    { queue with registered := queue.registered.put script.handle script }

/-- Loads a known script after the others, unless it is loaded already. -/
def enqueue
    (handle : String)
    (queue : RenderQueue) :
    RenderQueue :=
  if queue.registered.has handle ∧ !queue.queued.contains handle then
    { queue with queued := queue.queued ++ [handle] }
  else
    queue

/-- Forgets a script. -/
def remove
    (handle : String)
    (queue : RenderQueue) :
    RenderQueue :=
  { registered := queue.registered.without handle
    queued := queue.queued.erase handle }

/-- Declares how the browser loads a known script. -/
def setStrategy
    (handle : String)
    (word : String)
    (queue : RenderQueue) :
    RenderQueue :=
  match queue.registered.value? handle with
  | none => queue
  | some script =>
      let declared := if word = LoadStrategy.plain.word then none else some word
      { queue with registered := queue.registered.put handle { script with declared } }

/-- The handle of an item, if it has one. -/
def itemHandle? : Json → Option (String × Fields)
  | .obj fields =>
      let handle := Record.field "handle" fields
      if handle.truth then some (handle.display, fields) else none
  | _ => none

/-- Takes an item into the queue: its script is registered, its strategy declared, and it is
loaded unless it says otherwise. -/
def addItem
    (handle : String)
    (item : Fields)
    (queue : RenderQueue) :
    RenderQueue :=
  let script : RegisteredScript :=
    { handle
      src := Record.textField "src" item
      deps := parseDependencies (Record.field "deps" item)
      version := Record.versionField "ver" item
      inFooter := Record.flagField "in_footer" item }
  let strategy := LoadStrategy.ofJson (Record.field "strategy" item)
  let queue := (queue.register script).setStrategy handle strategy.word
  if ((item.value? "enqueued").getD (.bool true)).truth then
    queue.enqueue handle
  else
    queue

/-- Takes items into the queue, the first of which has the given number. -/
def addItems
    (index : Nat) :
    List Json → RenderQueue → Except Fault RenderQueue
  | [], queue => .ok queue
  | item :: rest, queue =>
      match itemHandle? item with
      | none => .error (.queueItem index)
      | some (handle, fields) => addItems (index + 1) rest (queue.addItem handle fields)

/-- Reads a queue. -/
def ofItems (items : Json) : Except Fault RenderQueue := do
  addItems 0 (← items.elements) {}

/-- The item of a script. -/
def itemOf
    (queue : RenderQueue)
    (handle : String)
    (script : RegisteredScript) :
    Json :=
  .obj
    [ ("handle", .str handle),
      ("src", .str script.src),
      ("ver", Record.versionJson script.version),
      ("deps", .arr (script.deps.map Json.str)),
      ("in_footer", .bool script.inFooter),
      ("strategy", .str script.strategy.word),
      ("enqueued", .bool (queue.queued.contains handle)) ]

/-- The items of the queue, in the order of registration. -/
def toItems (queue : RenderQueue) : List Json :=
  queue.registered.map fun entry => itemOf queue entry.1 entry.2

end RenderQueue
end PageScripts
