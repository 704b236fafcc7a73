import PageScripts.Number.Rounding

/-!
# Binary floating-point numbers of 64 bits

A double is a sign with a significand below `2 ^ 53` and an exponent from `-1074` to `971`,
an infinity, or not a number.  Of the representations of a value the one with the largest
significand is used, so that two finite doubles are equal exactly when they are the same,
the two zeros apart.  All arithmetic is exact arithmetic on natural numbers followed by one
rounding.
-/

namespace PageScripts

/-- A double: `± significand · 2 ^ exponent`, an infinity, or not a number. -/
inductive Binary64
  | finite (negative : Bool) (significand : Nat) (exponent : Int)
  | infinite (negative : Bool)
  | nan
  deriving DecidableEq, Repr

namespace Binary64

open Number

/-- The exponent of the smallest double. -/
def minExponent : Int := -1074

/-- The exponent of the largest double. -/
def maxExponent : Int := 971

/-- Zero with a sign. -/
def zero (negative : Bool) : Binary64 :=
  finite negative 0 minExponent

/-- The double nearest to `± num / den`, a half going to the even significand; an infinity
beyond the largest double. -/
def ofRatio
    (negative : Bool)
    (num den : Nat) :
    Binary64 :=
  if num = 0 then
    zero negative
  else
    let estimate : Int := (num.log2 : Int) - den.log2 - 53
    let low := max estimate minExponent
    let at_ (exponent : Int) : Ratio :=
      let unit := Ratio.scaled 1 2 (-exponent)
      ⟨num * unit.num, den * unit.den⟩
    let floor (r : Ratio) : Nat := r.num / r.den
    let exponent := if Nat.pow 2 53 ≤ floor (at_ low) then low + 1 else low
    let significand := roundRatio (at_ exponent).num (at_ exponent).den
    let carried := significand = Nat.pow 2 53
    let exponent := if carried then exponent + 1 else exponent
    let significand := if carried then Nat.pow 2 52 else significand
    if maxExponent < exponent then
      infinite negative
    else
      finite negative significand exponent

/-- The double nearest to `± digits · 10 ^ exponent`, where `length` bounds the number of
digits. -/
def ofDecimal
    (negative : Bool)
    (digits : Nat)
    (length : Nat)
    (exponent : Int) :
    Binary64 :=
  if digits = 0 ∨ length + exponent < -330 then
    zero negative
  else if 310 < exponent then
    infinite negative
  else
    let r := Ratio.scaled digits 10 exponent
    ofRatio negative r.num r.den

/-- Whether the number is zero of either sign. -/
def isZero : Binary64 → Bool
  | finite _ significand _ => significand == 0
  | _ => false

/-- The absolute value of a finite double. -/
def magnitude
    (significand : Nat)
    (exponent : Int) :
    Ratio :=
  Ratio.scaled significand 2 exponent

/-- Whether two doubles are the same number; the zeros are, and not-a-number is taken to be
the same as itself. -/
def sameAs : Binary64 → Binary64 → Bool
  | finite n m e, finite n' m' e' =>
      (m == 0 && m' == 0) || (n == n' && m == m' && e == e')
  | infinite n, infinite n' => n == n'
  | nan, nan => true
  | _, _ => false

/-- Whether a double is a given integer. -/
def isInt
    (x : Binary64)
    (n : Int) :
    Bool :=
  match x with
  | finite negative significand exponent =>
      let r := magnitude significand exponent
      r.num == n.natAbs * r.den && (n == 0 || negative == decide (n < 0))
  | _ => false

/-- The integer part of a finite double, toward zero. -/
def truncate? : Binary64 → Option Int
  | finite negative significand exponent =>
      let r := magnitude significand exponent
      let n : Int := (r.num / r.den : Nat)
      some (if negative then -n else n)
  | _ => none

end Binary64
end PageScripts
