import PushLedger.Number.Rounding

/-!
# Rounded arithmetic on quotients

Fractions of a second and day numbers with a fraction are computed one operation at a time, each
result rounded to a 53-bit mantissa. Numbers here are not negative, so a numerator and a
denominator suffice.
-/

namespace PushLedger

/-- A number that is not negative, as numerator and denominator. -/
structure Ratio where
  num : Nat
  den : Nat
deriving DecidableEq, Repr

namespace Ratio

/-- A whole number. -/
def ofNat (n : Nat) : Ratio := ⟨n, 1⟩

/-- The nearest number with a 53-bit mantissa. -/
def rounded (x : Ratio) : Ratio :=
  let near := Number.nearest 53 (-1074) x.num x.den
  let scaled := Number.scaledUp near.1 near.2
  ⟨scaled.1, scaled.2⟩

/-- The rounded sum. -/
def plus (x y : Ratio) : Ratio := rounded ⟨x.num * y.den + y.num * x.den, x.den * y.den⟩

/-- The rounded difference; the second number is the smaller one wherever it is used. -/
def minus (x y : Ratio) : Ratio := rounded ⟨x.num * y.den - y.num * x.den, x.den * y.den⟩

/-- The rounded product. -/
def times (x y : Ratio) : Ratio := rounded ⟨x.num * y.num, x.den * y.den⟩

/-- The rounded quotient. -/
def per (x y : Ratio) : Ratio := rounded ⟨x.num * y.den, x.den * y.num⟩

/-- The whole part. -/
def floor (x : Ratio) : Nat := x.num / x.den

/-- The nearest whole number by adding a half, rounded, and dropping the fraction. -/
def roundHalfUp (x : Ratio) : Nat := (x.plus ⟨1, 2⟩).floor

end Ratio
end PushLedger
