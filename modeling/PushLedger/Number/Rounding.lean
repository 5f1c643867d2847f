/-!
# Rounding a quotient to a binary mantissa

The one rounding rule of the ledger's real numbers: among the multiples of a power of two that a
mantissa of a given width can name, take the nearest, and of two nearest the one with an even
mantissa. Stated on natural numbers, so that nothing depends on floating point hardware.
-/

namespace PushLedger.Number

/-- The quotient rounded to the nearest whole number, a half to the even neighbour. -/
def quotientEven (num den : Nat) : Nat :=
  let below := num / den
  let rest := num % den
  if 2 * rest > den ∨ (2 * rest = den ∧ below % 2 = 1) then below + 1 else below

/-- A quotient divided by a power of two, as numerator and denominator again. -/
def scaledDown (num den : Nat) (exponent : Int) : Nat × Nat :=
  if 0 ≤ exponent then (num, den * Nat.pow 2 exponent.toNat)
  else (num * Nat.pow 2 (-exponent).toNat, den)

/-- The value of a mantissa and a binary exponent, as numerator and denominator. -/
def scaledUp (mantissa : Nat) (exponent : Int) : Nat × Nat :=
  if 0 ≤ exponent then (mantissa * Nat.pow 2 exponent.toNat, 1)
  else (mantissa, Nat.pow 2 (-exponent).toNat)

/-- The nearest mantissa of at most `bits` bits and its exponent, which is never under `floor`.

The first guess of the exponent comes from the lengths of both numbers and is right or one too
small; in the second case the quotient is one bit too long, and the exponent is raised. -/
def nearest (bits : Nat) (floor : Int) (num den : Nat) : Nat × Int :=
  if num = 0 then (0, floor) else
  let guess := max floor ((num.log2 : Int) - (den.log2 : Int) - bits)
  let first := scaledDown num den guess
  let exponent := if first.1 / first.2 < Nat.pow 2 bits then guess else guess + 1
  let final := scaledDown num den exponent
  let mantissa := quotientEven final.1 final.2
  if mantissa = Nat.pow 2 bits then (Nat.pow 2 (bits - 1), exponent + 1) else (mantissa, exponent)

end PushLedger.Number
