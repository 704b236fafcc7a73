import PageScripts.Number.Binary64

/-!
# The shortest decimal text of a double

A finite double is written with the fewest decimal digits that read back as the same double,
and among those with the digits nearest to its value.  The digits are found on the decimal
grids of one to seventeen digits: the first grid with a point in the interval of numbers that
round to the double wins, and of two points at the same distance the one with the even last
digit.

The text is positional for decimal exponents from `-4` to `15` and has an exponent of at
least two digits otherwise.
-/

namespace PageScripts
namespace Number

/-- The number `digits · 10 ^ exponent`. -/
structure Decimal where
  digits : Nat
  exponent : Int
  deriving DecidableEq, Repr

/-- The value of a decimal. -/
def Decimal.ratio (d : Decimal) : Ratio :=
  Ratio.scaled d.digits 10 d.exponent

/-- The numbers that round to the double `significand · 2 ^ exponent`. -/
structure Basin where
  low : Ratio
  high : Ratio
  closed : Bool

namespace Basin

/-- The basin of a positive double. -/
def of
    (significand : Nat)
    (exponent : Int) :
    Basin :=
  let below := if significand = Nat.pow 2 52 ∧ Binary64.minExponent < exponent then 1 else 2
  { low := Ratio.scaled (4 * significand - below) 2 (exponent - 2)
    high := Ratio.scaled (4 * significand + 2) 2 (exponent - 2)
    closed := significand % 2 == 0 }

/-- Whether a fraction rounds to the double. -/
def holds
    (b : Basin)
    (r : Ratio) :
    Bool :=
  if b.closed then
    b.low.le r && r.le b.high
  else
    b.low.lt r && r.lt b.high

end Basin

/-- The least `k` with `value < 10 ^ k`, for a positive double. -/
def decimalPlace
    (significand : Nat)
    (exponent : Int) :
    Int :=
  let value := Binary64.magnitude significand exponent
  let estimate : Int := Int.fdiv (((significand.log2 : Int) + exponent) * 30103) 100000 - 1
  match [estimate, estimate + 1, estimate + 2].find? fun k =>
      value.lt (Ratio.scaled 1 10 k) with
  | some k => k
  | none => estimate + 3

/-- The point of the grid `10 ^ exponent` that rounds to the double and is nearest to it. -/
def gridPoint?
    (value : Ratio)
    (basin : Basin)
    (exponent : Int) :
    Option Decimal :=
  let unit := Ratio.scaled 1 10 (-exponent)
  let floor := value.num * unit.num / (value.den * unit.den)
  let down : Decimal := ⟨floor, exponent⟩
  let up : Decimal := ⟨floor + 1, exponent⟩
  match basin.holds down.ratio, basin.holds up.ratio with
  | true, true =>
      let toDown := value.distance down.ratio
      let toUp := value.distance up.ratio
      if toDown.lt toUp ∨ (toDown.le toUp ∧ floor % 2 = 0) then some down else some up
  | true, false => some down
  | false, true => some up
  | false, false => none

/-- The shortest decimal that reads back as the positive double. -/
def shortest
    (significand : Nat)
    (exponent : Int) :
    Decimal :=
  let value := Binary64.magnitude significand exponent
  let basin := Basin.of significand exponent
  let place := decimalPlace significand exponent
  let found := (List.range 17).findSome? fun (n : Nat) =>
    gridPoint? value basin (place - (n : Int) - 1)
  found.getD ⟨0, 0⟩

/-- The decimal digits of a natural number. -/
def digitChars (n : Nat) : List Char :=
  Nat.toDigits 10 n

/-- The text of the decimal `digits · 10 ^ exponent`. -/
def Decimal.text (d : Decimal) : List Char :=
  let ds := digitChars d.digits
  let ds := (ds.reverse.dropWhile (· == '0')).reverse
  let place : Int := (digitChars d.digits).length + d.exponent
  if -4 < place ∧ place ≤ 16 then
    if place ≤ 0 then
      '0' :: '.' :: List.replicate (-place).toNat '0' ++ ds
    else
      let n := place.toNat
      if ds.length ≤ n then
        ds ++ List.replicate (n - ds.length) '0' ++ ['.', '0']
      else
        ds.take n ++ '.' :: ds.drop n
  else
    let power := place - 1
    let powerDigits := digitChars power.natAbs
    let padded := if powerDigits.length < 2 then '0' :: powerDigits else powerDigits
    let head := ds.take 1
    let tail := ds.drop 1
    head ++ (if tail.isEmpty then [] else '.' :: tail)
      ++ 'e' :: (if power < 0 then '-' else '+') :: padded

end Number

namespace Binary64

/-- The text of a double: the fewest digits that read back. -/
def text : Binary64 → String
  | finite negative significand exponent =>
      let body :=
        if significand = 0 then
          ['0', '.', '0']
        else
          (Number.shortest significand exponent).text
      String.ofList (if negative then '-' :: body else body)
  | infinite negative => if negative then "-inf" else "inf"
  | nan => "nan"

/-- The absolute value of a finite double with one decimal place, a half going to the even
digit, and the sign in front. -/
def oneDecimal? : Binary64 → Option String
  | finite negative significand exponent =>
      let r := magnitude significand exponent
      let tenths := Number.roundRatio (r.num * 10) r.den
      let body := toString (tenths / 10) ++ "." ++ toString (tenths % 10)
      some (if negative then "-" ++ body else body)
  | _ => none

end Binary64
end PageScripts
