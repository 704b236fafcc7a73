import PageScripts.Markup.Element
import PageScripts.Name
import PageScripts.Queue
import PageScripts.Url.Join
import PageScripts.Url.Version

/-!
# The queue of a rendered page

The scripts of a page are queued in document order.  A script's handle is what stands before
`-js` in its identifier, or else the slug of its file name; a handle that is taken gets the
first free number from two on.  A script outside the head is in the footer.

Which elements there are is for a reader of pages to say, and which page there is at an address
for the web.
-/

namespace PageScripts
namespace Page

open Markup (ScriptElement)

/-- The types of executable scripts; one without a type is executable too. -/
def scriptTypes : List String :=
  ["text/javascript", "application/javascript", "module"]

/-- The text of an attribute; a missing one is the empty text. -/
def attr
    (name : String)
    (element : ScriptElement) :
    String :=
  (element.attributes.value? name).getD ""

/-- Whether the browser runs the script. -/
def isExecutable (element : ScriptElement) : Bool :=
  let type := Text.lower (Text.trim (attr "type" element))
  type == "" || scriptTypes.contains type

/-- The handle in an identifier that ends in `-js`.  The handle is on one line. -/
def handleOfId? (id : String) : Option String :=
  let body := chomp id.toList
  let tail := "-js".toList
  if tail.length < body.length ∧ tail.isSuffixOf body then
    let handle := body.take (body.length - tail.length)
    if handle.contains '\n' then none else some (String.ofList handle)
  else
    none

/-- The last part of a path that is not empty, a single point counting as empty. -/
def lastSegment (path : String) : List Char :=
  let segments := (Text.pieces '/' path.toList).filter fun s => !s.isEmpty && s != ['.']
  segments.getLast?.getD []

/-- The handle that an address gives: the slug of its file name. -/
def handleOfAddress (path : String) : String :=
  let name := lastSegment path
  let tail := ".js".toList
  let stem := if tail.isSuffixOf name then name.take (name.length - tail.length) else name
  Text.slug (String.ofList stem)

/-- The handle that an element asks for. -/
def baseHandle
    (element : ScriptElement)
    (src : String) :
    Except Url.AddressError String :=
  match handleOfId? (attr "id" element) with
  | some handle => .ok handle
  | none => do
      let address ← Url.Address.parse src
      return handleOfAddress address.path

/-- The numbered form of a handle. -/
def numberedHandle
    (base : String)
    (n : Nat) :
    String :=
  base ++ "-" ++ toString n

/-- The first free number from `n` on, among as many as `fuel` allows. -/
def firstFree
    (taken : String → Bool)
    (base : String) :
    Nat → Nat → Nat
  | 0, n => n
  | fuel + 1, n =>
      if taken (numberedHandle base n) then firstFree taken base fuel (n + 1) else n

/-- A handle that is not taken.  Of the numbers that are tried there is one more than there
are known scripts, so one of them is free. -/
def freeHandle
    (queue : RenderQueue)
    (base : String) :
    String :=
  if queue.has base then
    let tries := queue.registered.length + queue.queued.length + 1
    numberedHandle base (firstFree queue.has base tries 2)
  else
    base

/-- How the browser loads the script: as declared for the page, else as its attributes say. -/
def strategyOf (element : ScriptElement) : LoadStrategy :=
  let declared :=
    LoadStrategy.ofText (Text.lower (Text.trim (attr "data-wp-strategy" element)))
  if declared ≠ .plain then
    declared
  else if element.attributes.has "async" then
    .async
  else if element.attributes.has "defer" then
    .defer
  else
    .plain

/-- Queues one script. -/
def addElement
    (base : String)
    (queue : RenderQueue)
    (element : ScriptElement) :
    Except Url.AddressError RenderQueue := do
  let address ← Url.join base (Text.trim (attr "src" element))
  let (src, version) ← Url.splitVersion address
  let handle := freeHandle queue (← baseHandle element src)
  let script : RegisteredScript := { handle, src, version, inFooter := !element.inHead }
  return ((queue.register script).setStrategy handle (strategyOf element).word).enqueue handle

/-- Queues the executable ones of the given scripts. -/
def queueOf
    (base : String)
    (elements : List ScriptElement) :
    Except Url.AddressError RenderQueue :=
  (elements.filter isExecutable).foldlM (addElement base) {}

/-- What reads the script elements with a source off the text of a page, in document order. -/
abbrev Reader := String → Except Fault (List ScriptElement)

/-- The queue of a page at an address. -/
def parse
    (reader : Reader)
    (html base : String) :
    Except Fault RenderQueue := do
  let elements ← reader html
  match queueOf base elements with
  | .error e => .error (.address e)
  | .ok queue => .ok queue

/-- The queue of a page is that of its script elements. -/
theorem queueOf_of_parse
    {reader : Reader}
    {html base : String}
    {queue : RenderQueue}
    (h : parse reader html base = .ok queue) :
    ∃ elements, reader html = .ok elements ∧ queueOf base elements = .ok queue := by
  unfold parse at h
  cases helements : reader html with
  | error fault =>
      rw [helements] at h
      cases h
  | ok elements =>
      rw [helements] at h
      cases hqueue : queueOf base elements with
      | error fault =>
          simp only [bind, Except.bind, hqueue] at h
          cases h
      | ok found =>
          simp only [bind, Except.bind, hqueue] at h
          cases h
          exact ⟨elements, rfl, hqueue⟩

/-- What a server answers. -/
structure Answer where
  text : String
  url : String

/-- The queue of the page at an address, as a web answers. -/
def fetch
    (reader : Reader)
    (web : String → Except NoAnswer Answer)
    (url : String) :
    Except Fault RenderQueue :=
  match web url with
  | .error what => .error (.noAnswer what)
  | .ok answer => parse reader answer.text (if answer.url = "" then url else answer.url)

end Page
end PageScripts
