import PageScripts.Json.Value
import PageScripts.Number.Numeral

/-!
# Reading JSON text

The reader takes exactly the grammar of JSON, with the words `NaN`, `Infinity` and
`-Infinity` for the doubles that have no decimal form.  Raw control characters inside texts
are refused, a repeated key keeps its first place and takes its last value, and a number with
a fraction or an exponent is a double while any other is an integer.

A refusal says what was expected and where: as a position and as line and column, each
counted in characters.

An escape may name half of a pair of code units.  Two halves in a row are a character; a text with
one that stands alone cannot be held here, and reading it ends there (`ReadError.loneSurrogate`).
-/

namespace PageScripts
namespace Json

/-- What the reader complains about. -/
inductive Complaint
  | value
  | propertyName
  | colon
  | comma
  | extraData
  | unterminatedText
  | controlCharacter
  | escape
  | unicodeEscape
  | byteOrderMark
  deriving DecidableEq, Repr

/-- The complaint in words. -/
def Complaint.text : Complaint → String
  | value => "Expecting value"
  | propertyName => "Expecting property name enclosed in double quotes"
  | colon => "Expecting ':' delimiter"
  | comma => "Expecting ',' delimiter"
  | extraData => "Extra data"
  | unterminatedText => "Unterminated string starting at"
  | controlCharacter => "Invalid control character at"
  | escape => "Invalid \\escape"
  | unicodeEscape => "Invalid \\uXXXX escape"
  | byteOrderMark => "Unexpected UTF-8 BOM (decode using utf-8-sig)"

/-- A complaint and its place in the text. -/
structure Malformed where
  complaint : Complaint
  line : Nat
  column : Nat
  position : Nat
  deriving DecidableEq, Repr

/-- The words for malformed text. -/
def Malformed.message (m : Malformed) : String :=
  m.complaint.text ++ ": line " ++ toString m.line ++ " column " ++ toString m.column
    ++ " (char " ++ toString m.position ++ ")"

/-- Why a text could not be read. -/
inductive ReadError
  | malformed (what : Malformed)
  | longNumber (digits : Nat)
  | loneSurrogate
  deriving DecidableEq, Repr

/-- A refusal inside the reader: the place is still a position only. -/
inductive Refusal
  | at (complaint : Complaint) (position : Nat)
  | longNumber (digits : Nat)
  | loneSurrogate

/-- What is left of the text, and the position of its first character. -/
structure Cursor where
  rest : List Char
  position : Nat

/-- The blanks between the parts of a value. -/
def isGap (c : Char) : Bool :=
  c == ' ' || c == '\t' || c == '\n' || c == '\r'

/-- Moves over a number of characters. -/
def Cursor.advance
    (cursor : Cursor)
    (n : Nat) :
    Cursor :=
  ⟨cursor.rest.drop n, cursor.position + n⟩

/-- Moves over blanks. -/
def Cursor.skipGap (cursor : Cursor) : Cursor :=
  cursor.advance (cursor.rest.takeWhile isGap).length

/-- The value of a hexadecimal digit. -/
def hexValue? (c : Char) : Option Nat :=
  if '0' ≤ c ∧ c ≤ '9' then
    some (c.toNat - 0x30)
  else if 'a' ≤ c ∧ c ≤ 'f' then
    some (c.toNat - 0x57)
  else if 'A' ≤ c ∧ c ≤ 'F' then
    some (c.toNat - 0x37)
  else
    none

/-- The number that hexadecimal digits stand for. -/
def hexNumber? (cs : List Char) : Option Nat :=
  cs.foldl
    (fun acc c =>
      match acc, hexValue? c with
      | some n, some d => some (16 * n + d)
      | _, _ => none)
    (some 0)

/-- The character of a one-letter escape. -/
def shortEscape? : Char → Option Char
  | '"' => some '"'
  | '\\' => some '\\'
  | '/' => some '/'
  | 'b' => some (Char.ofNat 0x08)
  | 'f' => some (Char.ofNat 0x0C)
  | 'n' => some '\n'
  | 'r' => some '\r'
  | 't' => some '\t'
  | _ => none

/-- Four hexadecimal digits after `\u`; at least one character has to follow them. -/
def readUnit
    (rest : List Char)
    (backslash : Nat) :
    Except Refusal Nat :=
  if rest.length ≤ 4 then
    .error (.at .unicodeEscape (backslash + 1))
  else
    match hexNumber? (rest.take 4) with
    | some n => .ok n
    | none => .error (.at .unicodeEscape (backslash + 1))

/-- The character of a code unit, with the second half of a pair if one follows; and how many
characters after the four digits the second half takes.  Half of a pair alone is no character. -/
def readPair
    (high : Nat)
    (rest : List Char)
    (backslash : Nat) :
    Except Refusal (Char × Nat) :=
  if 0xD800 ≤ high ∧ high < 0xDC00 ∧ 6 < rest.length ∧ rest.take 2 = ['\\', 'u'] then
    match hexNumber? ((rest.drop 2).take 4) with
    | none => .error (.at .unicodeEscape (backslash + 7))
    | some low =>
        if 0xDC00 ≤ low ∧ low < 0xE000 then
          .ok (Char.ofNat (0x10000 + (high - 0xD800) * 0x400 + (low - 0xDC00)), 6)
        else
          .error .loneSurrogate
  else if 0xD800 ≤ high ∧ high < 0xE000 then
    .error .loneSurrogate
  else
    .ok (Char.ofNat high, 0)

/-- The rest of a text after its opening quote, which stands at `start`; `acc` holds the
characters so far in reverse. -/
def readTextFrom
    (start : Nat) :
    Nat → Cursor → List Char → Except Refusal (String × Cursor)
  | 0, _, _ => .error (.at .unterminatedText start)
  | fuel + 1, ⟨rest, position⟩, acc =>
      match rest with
      | [] => .error (.at .unterminatedText start)
      | '"' :: tail => .ok (String.ofList acc.reverse, ⟨tail, position + 1⟩)
      | ['\\'] => .error (.at .unterminatedText start)
      | '\\' :: 'u' :: tail => do
          let unit ← readUnit tail position
          let (c, extra) ← readPair unit (tail.drop 4) position
          readTextFrom start fuel ⟨tail.drop (4 + extra), position + 6 + extra⟩ (c :: acc)
      | '\\' :: e :: tail =>
          match shortEscape? e with
          | some c => readTextFrom start fuel ⟨tail, position + 2⟩ (c :: acc)
          | none => .error (.at .escape position)
      | c :: tail =>
          if c.toNat < 0x20 then
            .error (.at .controlCharacter position)
          else
            readTextFrom start fuel ⟨tail, position + 1⟩ (c :: acc)

/-- A text, from after its opening quote. -/
def readText (cursor : Cursor) : Except Refusal (String × Cursor) :=
  readTextFrom (cursor.position - 1) (cursor.rest.length + 1) cursor []

/-- Whether a character is one of the ten ASCII digits. -/
def isDigit (c : Char) : Bool :=
  '0' ≤ c && c ≤ '9'

/-- The number that ASCII digits stand for. -/
def digitsValue (ds : List Char) : Nat :=
  Number.ofDigits (ds.map fun c => c.toNat - 0x30)

/-- The parts of a number. -/
structure NumberParts where
  negative : Bool
  whole : List Char
  fraction : List Char
  exponent : Option (Bool × List Char)

/-- How many characters the number takes. -/
def NumberParts.width (p : NumberParts) (signed : Bool) : Nat :=
  (if p.negative then 1 else 0) + p.whole.length
    + (if p.fraction.isEmpty then 0 else p.fraction.length + 1)
    + match p.exponent with
      | none => 0
      | some (_, ds) => ds.length + 1 + (if signed then 1 else 0)

/-- The digits after the point, if the text goes on with a point and a digit. -/
def fractionOf : List Char → List Char
  | '.' :: tail => tail.takeWhile isDigit
  | _ => []

/-- The sign and digits of an exponent, and whether the sign is written, if the text goes on
with one. -/
def exponentOf : List Char → Option (Bool × Bool × List Char)
  | e :: tail =>
      if e = 'e' ∨ e = 'E' then
        let signed := tail.head? == some '-' || tail.head? == some '+'
        let ds := (if signed then tail.drop 1 else tail).takeWhile isDigit
        if ds.isEmpty then none else some (signed, tail.head? == some '-', ds)
      else
        none
  | [] => none

/-- The value of a number. -/
def NumberParts.value (p : NumberParts) : Except Refusal Json :=
  if p.fraction.isEmpty ∧ p.exponent.isNone then
    if Number.digitLimit < p.whole.length then
      .error (.longNumber p.whole.length)
    else
      let n : Int := digitsValue p.whole
      .ok (.int (if p.negative then -n else n))
  else
    let digits := p.whole ++ p.fraction
    let power : Int :=
      match p.exponent with
      | none => 0
      | some (negative, ds) => if negative then -(digitsValue ds : Int) else digitsValue ds
    .ok (.float (Binary64.ofDecimal p.negative (digitsValue digits) digits.length
      (power - p.fraction.length)))

/-- A number. -/
def readNumber (cursor : Cursor) : Except Refusal (Json × Cursor) :=
  let negative := cursor.rest.head? == some '-'
  let body := if negative then cursor.rest.drop 1 else cursor.rest
  let whole :=
    match body with
    | '0' :: _ => ['0']
    | _ => body.takeWhile isDigit
  if whole.isEmpty then
    .error (.at .value cursor.position)
  else
    let afterWhole := body.drop whole.length
    let fraction := fractionOf afterWhole
    let afterFraction :=
      if fraction.isEmpty then afterWhole else afterWhole.drop (fraction.length + 1)
    let exponent := exponentOf afterFraction
    let parts : NumberParts := ⟨negative, whole, fraction, exponent.map (·.2)⟩
    let signed := (exponent.map (·.1)).getD false
    match parts.value with
    | .ok value => .ok (value, cursor.advance (parts.width signed))
    | .error e => .error e

/-- The values that are written as words. -/
def words : List (String × Json) :=
  [ ("null", .null),
    ("true", .bool true),
    ("false", .bool false),
    ("NaN", .float .nan),
    ("Infinity", .float (.infinite false)),
    ("-Infinity", .float (.infinite true)) ]

/-- A word or a number. -/
def readAtom (cursor : Cursor) : Except Refusal (Json × Cursor) :=
  match words.find? fun word => word.1.toList.isPrefixOf cursor.rest with
  | some word => .ok (word.2, cursor.advance word.1.length)
  | none => readNumber cursor

mutual

/-- A value. -/
def readValue :
    Nat → Cursor → Except Refusal (Json × Cursor)
  | 0, cursor => .error (.at .value cursor.position)
  | fuel + 1, cursor =>
      match cursor.rest with
      | '"' :: _ => do
          let (s, after) ← readText (cursor.advance 1)
          .ok (.str s, after)
      | '\x7b' :: _ => do
          let inner := (cursor.advance 1).skipGap
          if inner.rest.head? = some '\x7d' then
            .ok (.obj [], inner.advance 1)
          else
            let (fields, after) ← readMembers fuel inner []
            .ok (.obj fields, after)
      | '[' :: _ => do
          let inner := (cursor.advance 1).skipGap
          if inner.rest.head? = some ']' then
            .ok (.arr [], inner.advance 1)
          else
            let (items, after) ← readItems fuel inner []
            .ok (.arr items, after)
      | _ => readAtom cursor

/-- The items of a list up to its closing bracket; `acc` holds those so far in reverse. -/
def readItems :
    Nat → Cursor → List Json → Except Refusal (List Json × Cursor)
  | 0, cursor, _ => .error (.at .value cursor.position)
  | fuel + 1, cursor, acc => do
      let (item, after) ← readValue fuel cursor
      let next := after.skipGap
      match next.rest with
      | ']' :: _ => .ok ((item :: acc).reverse, next.advance 1)
      | ',' :: _ => readItems fuel (next.advance 1).skipGap (item :: acc)
      | _ => .error (.at .comma next.position)

/-- The members of an object up to its closing brace. -/
def readMembers :
    Nat → Cursor → Fields → Except Refusal (Fields × Cursor)
  | 0, cursor, _ => .error (.at .value cursor.position)
  | fuel + 1, cursor, acc => do
      match cursor.rest with
      | '"' :: _ =>
          let (key, afterKey) ← readText (cursor.advance 1)
          let colon := afterKey.skipGap
          match colon.rest with
          | ':' :: _ =>
              let (value, after) ← readValue fuel (colon.advance 1).skipGap
              let next := after.skipGap
              let fields := Listing.put key value acc
              match next.rest with
              | '\x7d' :: _ => .ok (fields, next.advance 1)
              | ',' :: _ => readMembers fuel (next.advance 1).skipGap fields
              | _ => .error (.at .comma next.position)
          | _ => .error (.at .colon colon.position)
      | _ => .error (.at .propertyName cursor.position)

end

/-- A whole text: one value between blanks. -/
def readWhole (cs : List Char) : Except Refusal Json :=
  if cs.head? = some (Char.ofNat 0xFEFF) then
    .error (.at .byteOrderMark 0)
  else do
    let (value, after) ← readValue (2 * cs.length + 2) (Cursor.skipGap ⟨cs, 0⟩)
    let last := after.skipGap
    if last.rest.isEmpty then
      .ok value
    else
      .error (.at .extraData last.position)

/-- A complaint with line and column. -/
def locate
    (cs : List Char)
    (complaint : Complaint)
    (position : Nat) :
    Malformed :=
  let before := cs.take position
  { complaint
    line := before.count '\n' + 1
    column := (before.reverse.takeWhile (· != '\n')).length + 1
    position }

/-- Reads a text that holds one JSON value. -/
def parse (s : String) : Except ReadError Json :=
  match readWhole s.toList with
  | .ok value => .ok value
  | .error (.longNumber digits) => .error (.longNumber digits)
  | .error .loneSurrogate => .error .loneSurrogate
  | .error (.at complaint position) =>
      .error (.malformed (locate s.toList complaint position))

end Json
end PageScripts
