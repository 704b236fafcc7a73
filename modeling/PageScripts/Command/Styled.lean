import PageScripts.Command.Literal
import PageScripts.Command.Style
import PageScripts.Text.Emoji

/-!
# Styled text

What the commands print may hold style tags: `[bold]` begins a style and `[/bold]` ends it, and
`[/]` ends the one begun last.  A tag begins with a small letter or one of `#`, `@` and `/`;
other brackets are plain text.  A backslash in front of a tag makes it plain text, and a
backslash in front of another opening bracket is left out.  Names between colons stand for
pictures, as long as no tag stands among them.

A tag may have parameters after an equals sign.  Those of a tag whose name begins with `@` hand
a value over, which is looked at when the tag ends.

Texts are shown without styles here; `Styled.plain` gives what is left.  A tag that ends what
was not begun is a fault.
-/

namespace PageScripts
namespace Styled

/-! ## Parts -/

/-- A part of styled text: plain text between tags, a text that stands by itself, or what is
between the brackets of a tag. -/
inductive Part
  | plain (cs : List Char)
  | escaped (cs : List Char)
  | tag (body : List Char)
  deriving DecidableEq, Repr

/-- Whether a tag may begin with a character. -/
def startsTag (c : Char) : Bool :=
  ('a' ≤ c && c ≤ 'z') || c == '#' || c == '/' || c == '@'

/-- What stands between an opening bracket and the next closing one, if that is a tag. -/
def tagBody? (cs : List Char) : Option (List Char) :=
  let body := cs.takeWhile fun c => c != '[' && c != ']'
  if body.head?.any startsTag && (cs.drop body.length).head? == some ']' then
    some body
  else
    none

/-- The parts that a tag stands for after some backslashes: two of them are one to be shown, and
an odd one makes the tag plain text. -/
def tagParts
    (backslashes : Nat)
    (body : List Char) :
    List Part :=
  [ .escaped (List.replicate (backslashes / 2) '\\'),
    if backslashes % 2 = 1 then .escaped ('[' :: body ++ [']']) else .tag body ]

/-- Parts with more plain text in front. -/
def inFront
    (cs : List Char) :
    List Part → List Part
  | .plain more :: rest => .plain (cs ++ more) :: rest
  | parts => .plain cs :: parts

/-- The parts of a text after some backslashes. -/
def partsAfter
    (backslashes : Nat) :
    List Char → List Part
  | [] => [.plain (List.replicate backslashes '\\')]
  | c :: cs =>
      if c = '\\' then
        partsAfter (backslashes + 1) cs
      else if c = '[' then
        match tagBody? cs with
        | some body => tagParts backslashes body ++ partsAfter 0 (cs.drop (body.length + 1))
        | none => inFront (List.replicate (backslashes - 1) '\\' ++ [c]) (partsAfter 0 cs)
      else
        inFront (List.replicate backslashes '\\' ++ [c]) (partsAfter 0 cs)
termination_by cs => cs.length
decreasing_by
  all_goals
    simp only [List.length_drop, List.length_cons]
    omega

/-- The parts of a text. -/
def parts (s : String) : List Part :=
  partsAfter 0 s.toList

/-! ## Tags -/

/-- A tag that begins a style, with its name in normal form. -/
structure Tag where
  name : String
  parameters : Option (List Char)
  deriving DecidableEq, Repr

/-- The tag with some text between its brackets. -/
def Tag.ofBody (body : List Char) : Except Unshown Tag := do
  let (name, parameters) := Text.cutFirst '=' body
  return { name := (← Style.normalText (String.ofList name)), parameters }

/-- The style of a tag in words, its parameters included. -/
def Tag.style (tag : Tag) : String :=
  match tag.parameters with
  | none => tag.name
  | some parameters => tag.name ++ " " ++ String.ofList parameters

/-- Whether a character may be part of the name of what is called. -/
def isNameChar (c : Char) : Bool :=
  Literal.sticks c || c == '.'

/-- The value that parameters hand over: what stands in brackets after a name, or all of them.
A name alone hands nothing over. -/
def handedOver? (parameters : List Char) : Option (List Char) :=
  let trimmed := Text.trimChars parameters
  match trimmed.dropWhile isNameChar with
  | [] => none
  | rest =>
      if rest.head? = some '(' ∧ rest.getLast? = some ')' ∧ !rest.contains '\n' then
        some rest
      else
        some trimmed

/-- Whether a tag may end: what it hands over has to be a value. -/
def Tag.mayEnd (tag : Tag) : Bool :=
  tag.name.toList.head? != some '@'
    || ((tag.parameters.bind handedOver?).all Literal.isValue)

/-- The tags that are open after one of them has ended. -/
def close
    (tag : Tag)
    (others : List Tag) :
    Except Unshown (List Tag) :=
  if tag.mayEnd then .ok others else .error .styling

/-- The tags that are open after a tag, the last one first. -/
def afterTag
    (opened : List Tag)
    (body : List Char) :
    Except Unshown (List Tag) := do
  match body with
  | '/' :: rest =>
      let name := Text.trim (String.ofList (Text.cutFirst '=' rest).1)
      if name = "" then
        match opened with
        | [] => throw .styling
        | tag :: others => close tag others
      else
        let wanted ← Style.normalText name
        match opened.find? (·.name == wanted) with
        | none => throw .styling
        | some tag => close tag (opened.erase tag)
  | _ => return (← Tag.ofBody body) :: opened

/-- The characters to be shown. -/
def shownChars
    (opened : List Tag) :
    List Part → Except Unshown (List Char)
  | [] => .ok []
  | .plain cs :: rest => do
      return Text.showPictures cs ++ (← shownChars opened rest)
  | .escaped cs :: rest => do
      return Text.showPictures cs ++ (← shownChars opened rest)
  | .tag body :: rest => do
      shownChars (← afterTag opened body) rest

/-- Reads the styles of all tags that begin one; a style need not make sense, but a number in it
has to be one. -/
def readTags : List Part → Except Unshown Unit
  | [] => .ok ()
  | .tag ('/' :: _) :: rest => readTags rest
  | .tag body :: rest => do
      let _ ← Style.ofText? (← Tag.ofBody body).style
      readTags rest
  | _ :: rest => readTags rest

/-! ## What is shown -/

/-- Whether a terminal would not show a character but move or ring. -/
def isSignal (c : Char) : Bool :=
  [0x07, 0x08, 0x0B, 0x0C, 0x0D].contains c.toNat

/-- A text that is shown as it is. -/
def literal (s : String) : List Char :=
  s.toList.filter fun c => !isSignal c

/-- The columns of a printed line. -/
def lineWidth : Nat := 200

/-- The lines that a text makes when it is printed. -/
def printedLines (cs : List Char) : List (List Char) :=
  (Text.pieces '\n' cs).flatMap fun line =>
    (Text.wrap .fold lineWidth (Text.expandTabs line)).map fun part =>
      Text.crop lineWidth (Text.dropExcess lineWidth part)

/-- A text without its tags. -/
def stripped (s : String) : Except Unshown (List Char) := do
  return (← shownChars [] (parts s)).filter fun c => !isSignal c

/-- Reads the styles of a text. -/
def readStyles (s : String) : Except Unshown Unit :=
  readTags (parts s)

/-- A text without its styles, once they have been read. -/
def plain (s : String) : Except Unshown (List Char) := do
  let cs ← stripped s
  readStyles s
  return cs

end Styled
end PageScripts
