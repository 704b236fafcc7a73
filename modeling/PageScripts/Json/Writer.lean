import PageScripts.Json.Value
import PageScripts.Number.Shortest
import PageScripts.Text.Quoted

/-!
# Writing JSON text

Values are written on one line, with `", "` between items and `": "` after keys, or with one
item a line and two blanks a level.  Text keeps all characters but the quote, the backslash
and the controls below the space.
-/

namespace PageScripts
namespace Json

/-- One character inside quotes. -/
def escapeChar (c : Char) : List Char :=
  if c = '"' then
    ['\\', '"']
  else if c = '\\' then
    ['\\', '\\']
  else if c = '\n' then
    ['\\', 'n']
  else if c = '\r' then
    ['\\', 'r']
  else if c = '\t' then
    ['\\', 't']
  else if c.toNat = 0x08 then
    ['\\', 'b']
  else if c.toNat = 0x0C then
    ['\\', 'f']
  else if c.toNat < 0x20 then
    '\\' :: 'u' :: Text.hex 4 c.toNat
  else
    [c]

/-- A text in quotes. -/
def writeText (s : String) : String :=
  String.ofList ('"' :: s.toList.flatMap escapeChar ++ ['"'])

/-- A double; the numbers without a decimal form are written as words. -/
def writeFloat : Binary64 → String
  | .nan => "NaN"
  | .infinite negative => if negative then "-Infinity" else "Infinity"
  | x => x.text

mutual

/-- A value on one line. -/
def compact : Json → String
  | null => "null"
  | bool b => if b then "true" else "false"
  | int n => toString n
  | float x => writeFloat x
  | str s => writeText s
  | arr items => "[" ++ ", ".intercalate (compactItems items) ++ "]"
  | obj fields => "\x7b" ++ ", ".intercalate (compactMembers fields) ++ "\x7d"

/-- The items of a list, each on one line. -/
def compactItems : List Json → List String
  | [] => []
  | x :: xs => compact x :: compactItems xs

/-- The members of an object, each on one line. -/
def compactMembers : List (String × Json) → List String
  | [] => []
  | (k, x) :: rest => (writeText k ++ ": " ++ compact x) :: compactMembers rest

end

/-- The blanks at the start of a line. -/
def margin (level : Nat) : String :=
  String.ofList (List.replicate (2 * level) ' ')

/-- Puts items on lines of their own between brackets; without items the brackets touch. -/
def block
    (opening closing : String)
    (level : Nat)
    (items : List String) :
    String :=
  if items.isEmpty then
    opening ++ closing
  else
    let inner := margin (level + 1)
    opening ++ "\n" ++ inner ++ (",\n" ++ inner).intercalate items
      ++ "\n" ++ margin level ++ closing

mutual

/-- A value with one item a line, inside the given number of levels. -/
def indentedAt
    (level : Nat) :
    Json → String
  | arr items => block "[" "]" level (indentedItems (level + 1) items)
  | obj fields => block "\x7b" "\x7d" level (indentedMembers (level + 1) fields)
  | other => compact other

/-- The items of a list. -/
def indentedItems
    (level : Nat) :
    List Json → List String
  | [] => []
  | x :: xs => indentedAt level x :: indentedItems level xs

/-- The members of an object. -/
def indentedMembers
    (level : Nat) :
    List (String × Json) → List String
  | [] => []
  | (k, x) :: rest => (writeText k ++ ": " ++ indentedAt level x) :: indentedMembers level rest

end

/-- A value with one item a line. -/
def indented (value : Json) : String :=
  indentedAt 0 value

end Json
end PageScripts
