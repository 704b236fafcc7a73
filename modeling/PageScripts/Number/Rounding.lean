/-!
# Rounding a quotient

Quotients of natural numbers are rounded to the nearest integer, a half going to the even
neighbour.  `roundRatio_spec` says that the result is within half a unit.
-/

namespace PageScripts
namespace Number

/-- The integer nearest to `num / den`, a half going to the even neighbour. -/
def roundRatio
    (num den : Nat) :
    Nat :=
  let quotient := num / den
  let rest := num % den
  if 2 * rest < den ∨ (2 * rest = den ∧ quotient % 2 = 0) then
    quotient
  else
    quotient + 1

/-- The rounded quotient is within half a unit of the exact one. -/
theorem roundRatio_spec
    (num den : Nat)
    (hden : 0 < den) :
    2 * (roundRatio num den * den) ≤ 2 * num + den ∧
      2 * num ≤ 2 * (roundRatio num den * den) + den := by
  have hdiv := Nat.div_add_mod num den
  have hlt := Nat.mod_lt num hden
  have hcomm : den * (num / den) = num / den * den := Nat.mul_comm _ _
  unfold roundRatio
  simp only
  split
  · omega
  · rw [Nat.add_mul]
    omega

/-- A fraction of natural numbers. -/
structure Ratio where
  num : Nat
  den : Nat

namespace Ratio

/-- The fraction `n · base ^ exponent`. -/
def scaled
    (n base : Nat)
    (exponent : Int) :
    Ratio :=
  if 0 ≤ exponent then
    ⟨n * base.pow exponent.toNat, 1⟩
  else
    ⟨n, base.pow (-exponent).toNat⟩

/-- The order of fractions with positive denominators. -/
def le
    (a b : Ratio) :
    Bool :=
  a.num * b.den ≤ b.num * a.den

/-- The strict order of fractions with positive denominators. -/
def lt
    (a b : Ratio) :
    Bool :=
  a.num * b.den < b.num * a.den

/-- The distance of two fractions. -/
def distance
    (a b : Ratio) :
    Ratio :=
  let x := a.num * b.den
  let y := b.num * a.den
  ⟨(x - y) + (y - x), a.den * b.den⟩

end Ratio

end Number
end PageScripts
