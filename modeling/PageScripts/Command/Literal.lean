import PageScripts.Number.Numeral
import PageScripts.Text.Blank
import PageScripts.Text.Slug
import PageScripts.Url.Version

/-!
# Written values

A tag may hand values over, which are written as literals: numbers, quoted texts, the words
`None`, `True` and `False`, values between round brackets, and sets and tables between braces.
`Literal.isValue` says whether a text is such a value.  Only a number may have a sign, and only
a real and an imaginary number may be added.  What stands in a set, and what a table lists its
values under, has to stay as it is, so that it is neither a set nor a table itself.
-/

namespace PageScripts
namespace Literal

open Url (hexDigit?)

/-- What has been read of a value. -/
inductive Form
  | number (imaginary : Bool)
  | signed (imaginary : Bool)
  | sum
  | text
  | octets
  | word
  | row (lasting : Bool)
  | collection
  deriving DecidableEq, Repr

/-- Whether a value may stand in a set. -/
def Form.isLasting : Form → Bool
  | .row lasting => lasting
  | .collection => false
  | _ => true

/-! ## Gaps -/

/-- Whether a character ends a line. -/
def endsLine (c : Char) : Bool :=
  c == '\n' || c == '\r'

/-- Skips what may stand between two parts; within brackets these are also line ends. -/
def skipGap
    (nested : Bool) :
    List Char → List Char
  | [] => []
  | c :: rest =>
      if c = ' ' ∨ c = '\t' ∨ c.toNat = 0x0C then
        skipGap nested rest
      else if c = '\\' ∧ rest.head?.any endsLine then
        skipGap nested (rest.drop 1)
      else if nested ∧ endsLine c then
        skipGap nested rest
      else if c = '#' then
        skipGap nested (rest.dropWhile (!endsLine ·))
      else
        c :: rest
termination_by cs => cs.length
decreasing_by
  all_goals
    have := (List.dropWhile_sublist (l := rest) (!endsLine ·)).length_le
    simp only [List.length_drop, List.length_cons]
    omega

/-! ## Numbers -/

/-- Digits with single underscores between them, and what follows.  An underscore in front
counts as one between digits if it may stand there. -/
def takeDigits
    (isDigit : Char → Bool)
    (underscored : Bool) :
    List Char → List Char × List Char
  | [] => ([], [])
  | c :: rest =>
      if isDigit c then
        let (digits, after) := takeDigits isDigit true rest
        (c :: digits, after)
      else if c = '_' ∧ underscored ∧ rest.head?.any isDigit then
        takeDigits isDigit false rest
      else
        ([], c :: rest)

/-- Whether a character is a decimal digit. -/
def isDecimal (c : Char) : Bool :=
  '0' ≤ c && c ≤ '9'

/-- Whether a character may not follow a number at once. -/
def sticks (c : Char) : Bool :=
  Text.isAlnum c || c == '_' || 0x80 ≤ c.toNat

/-- What follows an exponent; without one nothing is taken. -/
def takeExponent (cs : List Char) : Option (List Char) :=
  match cs with
  | e :: rest =>
      if e = 'e' ∨ e = 'E' then
        let unsigned :=
          match rest with
          | '+' :: rest => rest
          | '-' :: rest => rest
          | rest => rest
        match takeDigits isDecimal false unsigned with
        | ([], _) => none
        | (_, after) => some after
      else
        none
  | [] => none

/-- A number without a base, and what follows.  A whole number that starts with a zero consists
of zeros. -/
def takeDecimal (cs : List Char) : Option (Form × List Char) :=
  let (whole, rest) := takeDigits isDecimal false cs
  let (pointed, digits, rest) :=
    match rest with
    | '.' :: rest =>
        let (digits, after) := takeDigits isDecimal false rest
        (true, digits, after)
    | rest => (false, [], rest)
  if whole.isEmpty && digits.isEmpty then
    none
  else
    let (scaled, rest) :=
      match takeExponent rest with
      | some after => (true, after)
      | none => (false, rest)
    match rest with
    | 'j' :: rest => some (.number true, rest)
    | 'J' :: rest => some (.number true, rest)
    | rest =>
        let isWhole := !pointed && !scaled
        let isPlain := whole.head? != some '0' || whole.all (· == '0')
        if isWhole && (!isPlain || Number.digitLimit < whole.length) then
          none
        else
          some (.number false, rest)

/-- The digits of a base that a letter names. -/
def baseDigit? (c : Char) : Option (Char → Bool) :=
  if c = 'x' ∨ c = 'X' then
    some fun d => (hexDigit? d).isSome
  else if c = 'o' ∨ c = 'O' then
    some fun d => '0' ≤ d && d ≤ '7'
  else if c = 'b' ∨ c = 'B' then
    some fun d => d == '0' || d == '1'
  else
    none

/-- A number, and what follows. -/
def takeNumber (cs : List Char) : Option (Form × List Char) := do
  let (form, rest) ←
    match cs with
    | '0' :: letter :: rest =>
        match baseDigit? letter with
        | some isDigit =>
            match takeDigits isDigit true rest with
            | ([], _) => none
            | (_, after) => some (.number false, after)
        | none => takeDecimal cs
    | _ => takeDecimal cs
  if rest.head?.any sticks then none else some (form, rest)

/-! ## Quoted texts -/

/-- How a text is quoted. -/
structure Quotation where
  raw : Bool
  octets : Bool
  mark : Char
  triple : Bool
  deriving Repr

/-- The number of hexadecimal digits that an escape letter asks for. -/
def escapeLength? (octets : Bool) (letter : Char) : Option Nat :=
  if letter = 'x' then some 2
  else if octets then none
  else if letter = 'u' then some 4
  else if letter = 'U' then some 8
  else none

/-- Whether what follows a backslash is a proper escape. -/
def isEscape
    (q : Quotation)
    (cs : List Char) :
    Bool :=
  match cs with
  | [] => false
  | letter :: rest =>
      if q.raw then
        true
      else if letter = 'N' && !q.octets then
        false
      else
        match escapeLength? q.octets letter with
        | none => true
        | some n =>
            let digits := rest.take n
            digits.length == n && digits.all (fun d => (hexDigit? d).isSome)
              && digits.foldl (fun v d => 16 * v + (hexDigit? d).getD 0) 0 ≤ 0x10FFFF

/-- What follows the end of a quoted text. -/
def afterQuoted
    (q : Quotation) :
    List Char → Option (List Char)
  | [] => none
  | c :: rest =>
      if c = '\\' then
        if isEscape q rest && rest.head?.all (fun d => !q.octets || d.toNat < 0x80) then
          afterQuoted q (rest.drop 1)
        else
          none
      else if c = q.mark ∧ (!q.triple ∨ rest.take 2 = [q.mark, q.mark]) then
        some (if q.triple then rest.drop 2 else rest)
      else if (endsLine c ∧ !q.triple) ∨ (q.octets ∧ 0x80 ≤ c.toNat) then
        none
      else
        afterQuoted q rest
termination_by cs => cs.length
decreasing_by
  all_goals
    simp only [List.length_drop, List.length_cons]
    omega

/-- The letters that may stand before a quotation mark. -/
def quotationLetters : List String :=
  ["", "r", "u", "b", "br", "rb"]

/-- One quoted text, and what follows. -/
def takeQuoted (cs : List Char) : Option (Form × List Char) :=
  let letters := cs.takeWhile fun c => c != '\'' && c != '"'
  let word := String.ofList (letters.map Char.toLower)
  if quotationLetters.contains word then
    match cs.drop letters.length with
    | [] => none
    | mark :: rest =>
        let triple := rest.take 2 == [mark, mark]
        let q : Quotation :=
          { raw := letters.any fun c => c == 'r' || c == 'R'
            octets := letters.any fun c => c == 'b' || c == 'B'
            mark
            triple }
        (afterQuoted q (if triple then rest.drop 2 else rest)).map fun after =>
          (if q.octets then .octets else .text, after)
  else
    none

/-- Quoted texts in a row, all of the same sort as the first, and what follows them. -/
def takeMoreQuoted
    (nested : Bool)
    (form : Form) :
    Nat → List Char → Option (List Char)
  | 0, cs => some cs
  | fuel + 1, cs =>
      match takeQuoted (skipGap nested cs) with
      | none => some cs
      | some (other, rest) =>
          if other = form then takeMoreQuoted nested form fuel rest else none

/-! ## Values -/

/-- The words that are values. -/
def words : List String :=
  ["None", "True", "False"]

/-- How deep values may be nested. -/
def depthLimit : Nat := 200

/-- A word of letters, and what follows. -/
def takeWord (cs : List Char) : List Char × List Char :=
  (cs.takeWhile sticks, cs.dropWhile sticks)

mutual

/-- A value without sign or sum that stands within some brackets, and what follows.  The fuel
bounds the depth and the number of parts. -/
def takeAtom
    (depth : Nat) :
    Nat → List Char → Option (Form × List Char)
  | 0, _ => none
  | fuel + 1, cs =>
      match cs with
      | '(' :: rest => if depth < depthLimit then takeRow (depth + 1) fuel rest else none
      | '{' :: rest => if depth < depthLimit then takeCollection (depth + 1) fuel rest else none
      | '.' :: '.' :: '.' :: rest => some (.word, rest)
      | _ =>
          match takeQuoted cs with
          | some (form, rest) =>
              (takeMoreQuoted (depth != 0) form rest.length rest).map (form, ·)
          | none =>
              match takeNumber cs with
              | some found => some found
              | none =>
                  let (name, rest) := takeWord cs
                  if words.contains (String.ofList name) then
                    some (.word, rest)
                  else if name = "set".toList then
                    match skipGap (depth != 0) rest with
                    | '(' :: rest =>
                        match skipGap true rest with
                        | ')' :: rest =>
                            if depth < depthLimit then some (.collection, rest) else none
                        | _ => none
                    | _ => none
                  else
                    none

/-- A value within some brackets, and what follows. -/
def takeValue
    (depth : Nat) :
    Nat → List Char → Option (Form × List Char)
  | 0, _ => none
  | fuel + 1, cs => do
      let start := skipGap (depth != 0) cs
      let (left, rest) ←
        match start with
        | c :: rest =>
            if c = '+' ∨ c = '-' then
              match takeAtom depth fuel (skipGap (depth != 0) rest) with
              | some (.number imaginary, rest) => some (.signed imaginary, rest)
              | _ => none
            else
              takeAtom depth fuel start
        | [] => none
      let next := skipGap (depth != 0) rest
      match next with
      | c :: more =>
          if c = '+' ∨ c = '-' then
            match left, takeAtom depth fuel (skipGap (depth != 0) more) with
            | .number false, some (.number true, rest) => some (.sum, skipGap (depth != 0) rest)
            | .signed false, some (.number true, rest) => some (.sum, skipGap (depth != 0) rest)
            | _, _ => none
          else
            some (left, next)
      | [] => some (left, [])

/-- What follows the opening bracket of a row: one value, which stands for itself, or values with
commas. -/
def takeRow
    (depth : Nat) :
    Nat → List Char → Option (Form × List Char)
  | 0, _ => none
  | fuel + 1, cs =>
      match skipGap true cs with
      | ')' :: rest => some (.row true, rest)
      | start => do
          let (first, rest) ← takeValue depth fuel start
          match rest with
          | ')' :: rest => some (first, rest)
          | ',' :: rest => takeRest depth fuel first.isLasting rest
          | _ => none

/-- The further values of a row. -/
def takeRest
    (depth : Nat) :
    Nat → Bool → List Char → Option (Form × List Char)
  | 0, _, _ => none
  | fuel + 1, lasting, cs =>
      match skipGap true cs with
      | ')' :: rest => some (.row lasting, rest)
      | start => do
          let (next, rest) ← takeValue depth fuel start
          match rest with
          | ')' :: rest => some (.row (lasting && next.isLasting), rest)
          | ',' :: rest => takeRest depth fuel (lasting && next.isLasting) rest
          | _ => none

/-- What follows the opening brace of a set or a table. -/
def takeCollection
    (depth : Nat) :
    Nat → List Char → Option (Form × List Char)
  | 0, _ => none
  | fuel + 1, cs =>
      match skipGap true cs with
      | '}' :: rest => some (.collection, rest)
      | start => do
          let (first, rest) ← takeValue depth fuel start
          if !first.isLasting then
            none
          else
            match rest with
            | ':' :: rest => takeEntries depth fuel true rest
            | '}' :: rest => some (.collection, rest)
            | ',' :: rest => takeMembers depth fuel rest
            | _ => none

/-- The further members of a set. -/
def takeMembers
    (depth : Nat) :
    Nat → List Char → Option (Form × List Char)
  | 0, _ => none
  | fuel + 1, cs =>
      match skipGap true cs with
      | '}' :: rest => some (.collection, rest)
      | start => do
          let (next, rest) ← takeValue depth fuel start
          if !next.isLasting then
            none
          else
            match rest with
            | '}' :: rest => some (.collection, rest)
            | ',' :: rest => takeMembers depth fuel rest
            | _ => none

/-- The further entries of a table, from a value on or from a key on. -/
def takeEntries
    (depth : Nat) :
    Nat → Bool → List Char → Option (Form × List Char)
  | 0, _, _ => none
  | fuel + 1, true, cs => do
      let (_, rest) ← takeValue depth fuel cs
      match rest with
      | '}' :: rest => some (.collection, rest)
      | ',' :: rest => takeEntries depth fuel false rest
      | _ => none
  | fuel + 1, false, cs =>
      match skipGap true cs with
      | '}' :: rest => some (.collection, rest)
      | start => do
          let (key, rest) ← takeValue depth fuel start
          if !key.isLasting then
            none
          else
            match rest with
            | ':' :: rest => takeEntries depth fuel true rest
            | _ => none

end

/-- The further values of a row without brackets. -/
def isOpenRow : Nat → List Char → Bool
  | 0, _ => false
  | fuel + 1, cs =>
      match skipGap false cs with
      | [] => true
      | start =>
          match takeValue 0 (2 * start.length + 2) start with
          | some (_, []) => true
          | some (_, ',' :: rest) => isOpenRow fuel rest
          | _ => false

/-- Whether a text is a value. -/
def isValue (cs : List Char) : Bool :=
  if cs.contains '\x00' then
    false
  else
    match takeValue 0 (2 * cs.length + 2) cs with
    | some (_, []) => true
    | some (_, ',' :: rest) => isOpenRow (rest.length + 1) rest
    | _ => false

end Literal
end PageScripts
