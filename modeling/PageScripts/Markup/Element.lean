import PageScripts.Markup.Token

/-!
# Script elements of a page

The tags of a page open and close elements.  An element stays open until its own closing tag
or that of an element around it; a closing tag without an open element of its name is passed
over.  Void elements close at once, so that a closing tag written for one has nothing to close.

Of the elements only scripts with a source matter, in document order, each with its
attributes and with whether it stands inside the head.
-/

namespace PageScripts
namespace Markup

/-- A script element that has a source. -/
structure ScriptElement where
  attributes : Listing String String
  inHead : Bool
  deriving Repr

/-- The elements that have no content. -/
def voidElements : List String :=
  [ "area", "base", "br", "col", "embed", "hr", "img", "input", "keygen", "link", "menuitem",
    "meta", "param", "source", "track", "wbr", "basefont", "bgsound", "command", "frame",
    "image", "isindex", "nextid", "spacer" ]

/-- The open elements, innermost first, and the scripts so far in reverse. -/
structure Outline where
  opened : List String := []
  scripts : List ScriptElement := []

namespace Outline

/-- Closes the innermost open element of a name with all inside it. -/
def leave
    (name : String)
    (o : Outline) :
    Outline :=
  if o.opened.contains name then
    { o with opened := (o.opened.dropWhile (· != name)).drop 1 }
  else
    o

/-- Opens an element. -/
def enter
    (name : String)
    (attributes : Listing String String)
    (o : Outline) :
    Outline :=
  let scripts :=
    if name = "script" ∧ attributes.has "src" then
      ⟨attributes, o.opened.contains "head"⟩ :: o.scripts
    else
      o.scripts
  { o with opened := name :: o.opened, scripts }

/-- Works off one tag. -/
def read
    (o : Outline) :
    Token → Outline
  | .opening name attributes closed =>
      let o := o.enter name attributes
      if closed || voidElements.contains name then o.leave name else o
  | .closing name => o.leave name

end Outline

/-- The scripts with a source, in document order. -/
def scriptsOf (tokens : List Token) : List ScriptElement :=
  (tokens.foldl Outline.read {}).scripts.reverse

/-- The scripts with a source of a page. -/
def scriptElements (page : String) : Except PageError (List ScriptElement) :=
  (tokens page).map scriptsOf

end Markup
end PageScripts
