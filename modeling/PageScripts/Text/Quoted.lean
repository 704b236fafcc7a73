import PageScripts.Text.Printable

/-!
# Quoted text

Text is quoted in single quotes, or in double quotes when it holds a single quote and no
double one.  The backslash, the quote in use and characters that are not printable are
escaped; the latter by a short escape or by their code point in lower-case hexadecimal.
-/

namespace PageScripts
namespace Text

/-- A hexadecimal digit in lower case. -/
def hexDigit (value : Nat) : Char :=
  if value < 10 then
    Char.ofNat (0x30 + value)
  else
    Char.ofNat (0x57 + value)

/-- A number in hexadecimal, to a fixed number of digits. -/
def hex
    (digits : Nat)
    (value : Nat) :
    List Char :=
  match digits with
  | 0 => []
  | n + 1 => hex n (value / 16) ++ [hexDigit (value % 16)]

/-- One character inside the given quotes. -/
def quoteChar
    (mark : Char)
    (c : Char) :
    List Char :=
  if c = mark ∨ c = '\\' then
    ['\\', c]
  else if c = '\n' then
    ['\\', 'n']
  else if c = '\r' then
    ['\\', 'r']
  else if c = '\t' then
    ['\\', 't']
  else if isPrintable c then
    [c]
  else if c.toNat < 0x100 then
    '\\' :: 'x' :: hex 2 c.toNat
  else if c.toNat < 0x10000 then
    '\\' :: 'u' :: hex 4 c.toNat
  else
    '\\' :: 'U' :: hex 8 c.toNat

/-- The quote that a text is written in. -/
def quoteMark (cs : List Char) : Char :=
  if cs.contains '\'' && !cs.contains '"' then '"' else '\''

/-- A text in quotes. -/
def quote (s : String) : String :=
  let mark := quoteMark s.toList
  String.ofList (mark :: s.toList.flatMap (quoteChar mark) ++ [mark])

end Text
end PageScripts
