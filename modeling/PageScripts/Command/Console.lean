import PageScripts.Fault

/-!
# The console

What a command prints is handed to a console, which is not part of the program: a text with style
tags, a table of such texts, or a text that is to be shown as it is.  The console says which lines
appear, or why it does not show what it was handed.  A tag may end what was not begun, or hold a
number that cannot be read; a character may have no place in the encoding of the terminal; and the
device may fail.

All that commands rely on is `LawfulConsole`: dimmed lines without marks are shown alike.
-/

namespace PageScripts

namespace Table

/-- A column of a table. -/
structure Column where
  title : String
  limit : Option Nat := none
  deriving DecidableEq, Repr

/-- A cell: styled text, or text that is shown as it is. -/
inductive Cell
  | styled (text : String)
  | literal (text : String)
  deriving DecidableEq, Repr

end Table

/-- What is handed to a console. -/
inductive Shown
  | styled (text : String)
  | table (columns : List Table.Column) (rows : List (List Table.Cell))
  | literal (text : String)
  deriving DecidableEq, Repr

/-- Why a console does not show what it is handed. -/
inductive Unshown
  | styling
  | numeral (text : String)
  | longNumeral (digits : Nat)
  | unencodable
  | device (what : FileError)
  deriving DecidableEq, Repr

/-- The fault that arises when something is not shown. -/
def Unshown.fault : Unshown → Fault
  | styling => .styling
  | numeral text => .numeral text
  | longNumeral digits => .longNumeral digits
  | unencodable => .unencodable
  | device what => .output what

/-- A console: the lines that appear. -/
class Console where
  render : Shown → Except Unshown (List String)

/-- Whether a character neither begins a tag, nor makes one plain text, nor stands beside the name
of a picture, nor moves the cursor. -/
def Console.isUnmarked (c : Char) : Bool :=
  c != '[' && c != '\\' && c != ':' && decide (0x20 ≤ c.toNat)

/-- A dimmed line. -/
def Shown.dimmed (text : String) : Shown :=
  .styled ("  [dim]" ++ text ++ "[/dim]\n")

/-- A console that does not care which dimmed lines without marks it is handed: if two have the same
characters, but for those of ASCII, then both are shown, or neither for the same reason. -/
class LawfulConsole [Console] : Prop where
  dimmed :
    ∀ first second : String, first ≠ "" → second ≠ "" →
      first.toList.all Console.isUnmarked = true → second.toList.all Console.isUnmarked = true →
      (∀ c : Char, 0x80 ≤ c.toNat → (c ∈ first.toList ↔ c ∈ second.toList)) →
      (∃ lines more, Console.render (.dimmed first) = .ok lines ∧
        Console.render (.dimmed second) = .ok more) ∨
      ∃ why, Console.render (.dimmed first) = .error why ∧
        Console.render (.dimmed second) = .error why

end PageScripts
