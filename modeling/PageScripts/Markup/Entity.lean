import PageScripts.Markup.Entity.Table
import PageScripts.Number.Numeral
import PageScripts.Url.Version

/-!
# Character references

In attribute values `&name;`, `&#number;` and `&#xnumber;` stand for characters.  The semicolon
may be missing after a number and after the older names; of a longer text the longest such
name counts.  What is no reference stays as it is.
-/

namespace PageScripts
namespace Markup

open Url (hexDigit? isHex)

/-- Whether a character is one of the ten ASCII digits. -/
def isDecimal (c : Char) : Bool :=
  '0' ≤ c && c ≤ '9'

/-- The number of hexadecimal digits. -/
def hexNumber (cs : List Char) : Nat :=
  cs.foldl (fun n c => 16 * n + (hexDigit? c).getD 0) 0

/-- The number of decimal digits. -/
def decimalNumber (cs : List Char) : Nat :=
  cs.foldl (fun n c => 10 * n + (c.toNat - 0x30)) 0

/-- The names and the characters they stand for. -/
def named : List (List Char × List Char) :=
  namedLines.flatMap fun line =>
    (line.splitOn " ").filterMap fun word =>
      match word.splitOn "=" with
      | [name, codes] =>
          some (name.toList, (codes.splitOn ",").map fun code => Char.ofNat (hexNumber code.toList))
      | _ => none

/-- The names that need no semicolon. -/
def bareNames : List (List Char) :=
  bareLines.flatMap fun line => (line.splitOn " ").map String.toList

/-- What a name stands for, when a semicolon ends it. -/
def named? (name : List Char) : Option (List Char) :=
  (named.find? fun entry => entry.1 == name).map (·.2)

/-- What a name stands for without a semicolon. -/
def bare? (name : List Char) : Option (List Char) :=
  if bareNames.contains name then named? name else none

/-- The characters that the numbers of an older table stand for. -/
def remapped : List (Nat × Nat) :=
  [ (0x00, 0xFFFD), (0x0D, 0x0D), (0x80, 0x20AC), (0x81, 0x81), (0x82, 0x201A),
    (0x83, 0x0192), (0x84, 0x201E), (0x85, 0x2026), (0x86, 0x2020), (0x87, 0x2021),
    (0x88, 0x02C6), (0x89, 0x2030), (0x8A, 0x0160), (0x8B, 0x2039), (0x8C, 0x0152),
    (0x8D, 0x8D), (0x8E, 0x017D), (0x8F, 0x8F), (0x90, 0x90), (0x91, 0x2018),
    (0x92, 0x2019), (0x93, 0x201C), (0x94, 0x201D), (0x95, 0x2022), (0x96, 0x2013),
    (0x97, 0x2014), (0x98, 0x02DC), (0x99, 0x2122), (0x9A, 0x0161), (0x9B, 0x203A),
    (0x9C, 0x0153), (0x9D, 0x9D), (0x9E, 0x017E), (0x9F, 0x0178) ]

/-- Whether a number stands for nothing at all. -/
def isDropped (code : Nat) : Bool :=
  (0x1 ≤ code && code ≤ 0x8)
    || code == 0xB
    || (0xE ≤ code && code ≤ 0x1F)
    || (0x7F ≤ code && code ≤ 0x9F)
    || (0xFDD0 ≤ code && code ≤ 0xFDEF)
    || (code % 0x10000 == 0xFFFE || code % 0x10000 == 0xFFFF)

/-- What a number stands for. -/
def numbered (code : Nat) : List Char :=
  match remapped.find? fun entry => entry.1 == code with
  | some entry => [Char.ofNat entry.2]
  | none =>
      if (0xD800 ≤ code ∧ code ≤ 0xDFFF) ∨ 0x10FFFF < code then
        [Text.replacement]
      else if isDropped code then
        []
      else
        [Char.ofNat code]

/-- The longest beginning of a text, of two characters at least, that is a name without a
semicolon: what it stands for, and the rest. -/
def longestBare? (cs : List Char) : Option (List Char) :=
  ((List.range (cs.length - 2)).map fun n => cs.length - 1 - n).findSome? fun n =>
    (bare? (cs.take n)).map fun value => value ++ cs.drop n

/-- Whether a character may stand in a name. -/
def isNameChar (c : Char) : Bool :=
  !(c == '\t' || c == '\n' || c.toNat == 0x0C || c == ' ' || c == '<' || c == '&' || c == '#'
    || c == ';')

/-- What stands for a named reference, given with its semicolon if it has one. -/
def expandName
    (name : List Char)
    (ended : Bool) :
    List Char :=
  let whole := if ended then name ++ [';'] else name
  match (if ended then named? name else bare? name) with
  | some value => value
  | none => (longestBare? whole).getD ('&' :: whole)

/-- The number of characters after the ampersand that a reference takes, and what it stands
for. -/
def reference? (cs : List Char) : Option (Nat × List Char) :=
  let ended (rest : List Char) : Bool := rest.head? == some ';'
  let width (n : Nat) (rest : List Char) : Nat := if ended rest then n + 1 else n
  match cs with
  | '#' :: tail =>
      let digits := tail.takeWhile isDecimal
      if !digits.isEmpty then
        let rest := tail.drop digits.length
        some (width (digits.length + 1) rest, numbered (decimalNumber digits))
      else
        match tail with
        | x :: tail =>
            let digits := tail.takeWhile isHex
            if (x = 'x' ∨ x = 'X') ∧ !digits.isEmpty then
              let rest := tail.drop digits.length
              some (width (digits.length + 2) rest, numbered (hexNumber digits))
            else
              none
        | [] => none
  | _ =>
      let name := (cs.take 32).takeWhile isNameChar
      if name.isEmpty then
        none
      else
        let rest := cs.drop name.length
        some (width name.length rest, expandName name (ended rest))

/-- The number of digits of a decimal reference that has too many of them. -/
def tooLong? (cs : List Char) : Option Nat :=
  match cs with
  | '#' :: tail =>
      let digits := (tail.takeWhile isDecimal).length
      if Number.digitLimit < digits then some digits else none
  | _ => none

/-- The number of digits of the first reference in a text that has too many of them. -/
def overlong? : List Char → Option Nat
  | [] => none
  | '&' :: rest =>
      match reference? rest with
      | some (width, _) => (tooLong? rest).or (overlong? (rest.drop width))
      | none => overlong? rest
  | _ :: rest => overlong? rest
termination_by cs => cs.length
decreasing_by
  all_goals simp only [List.length_drop, List.length_cons]
  all_goals omega

/-- Puts characters for the references in a text. -/
def unescape : List Char → List Char
  | [] => []
  | '&' :: rest =>
      match reference? rest with
      | some (width, value) => value ++ unescape (rest.drop width)
      | none => '&' :: unescape rest
  | c :: rest => c :: unescape rest
termination_by cs => cs.length
decreasing_by
  all_goals simp only [List.length_drop, List.length_cons]
  all_goals omega

end Markup
end PageScripts
