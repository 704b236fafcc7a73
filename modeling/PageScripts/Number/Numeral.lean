import PageScripts.Text.Blank
import PageScripts.Text.Digit

/-!
# Integers written as text

An integer may be surrounded by blanks, other than the separators of records, may have a sign,
and is written in the decimal digits of any script; single underscores may stand between digits.
-/

namespace PageScripts
namespace Number

/-- The most digits that are read as one integer. -/
def digitLimit : Nat := 4300

/-- Why a text is no integer. -/
inductive NumeralError
  | malformed
  | tooLong (digits : Nat)
  deriving DecidableEq, Repr

/-- Whether a character may stand around an integer. -/
def isMargin (c : Char) : Bool :=
  Text.isBlank c && !(0x1C ≤ c.toNat && c.toNat ≤ 0x1F)

/-- Digits with single underscores between them; the values of the digits. -/
def digitGroups : List Char → Option (List Nat)
  | [] => none
  | [c] => (Text.digitValue? c).map fun d => [d]
  | c :: '_' :: rest =>
      match Text.digitValue? c, digitGroups rest with
      | some d, some ds => some (d :: ds)
      | _, _ => none
  | c :: rest =>
      match Text.digitValue? c, digitGroups rest with
      | some d, some ds => some (d :: ds)
      | _, _ => none

/-- The number with the given decimal digits. -/
def ofDigits (ds : List Nat) : Nat :=
  ds.foldl (fun n d => 10 * n + d) 0

/-- Reads an integer. -/
def readInt (s : String) : Except NumeralError Int :=
  let cs := Text.dropLastWhile isMargin (s.toList.dropWhile isMargin)
  let negative := cs.head? == some '-'
  let body := if negative ∨ cs.head? = some '+' then cs.drop 1 else cs
  match digitGroups body with
  | none => .error .malformed
  | some ds =>
      if digitLimit < ds.length then
        .error (.tooLong ds.length)
      else
        .ok (if negative then -(ofDigits ds : Int) else ofDigits ds)

end Number
end PageScripts
