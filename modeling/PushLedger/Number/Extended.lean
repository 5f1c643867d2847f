import PushLedger.Number.Binary64

/-!
# Powers of ten with 64-bit mantissas

Decimal text and real numbers are turned into each other by multiplying with powers of ten in a
wider format, whose mantissas have 64 bits and whose exponents do not run out. Each factor and
each product is rounded once. The last step, back to 53 bits, rounds a second time; that is why
the intermediate products are part of the rule and not a detail.
-/

namespace PushLedger.Number

/-- A mantissa of at most 64 bits and a binary exponent. -/
structure Extended where
  mantissa : Nat
  exponent : Int
deriving DecidableEq, Repr

namespace Extended

/-- Below every exponent that a scaling can reach. -/
def floor : Int := -1000000

/-- The nearest extended number to a quotient. -/
def ofRatio (num den : Nat) : Extended :=
  let rounded := nearest 64 floor num den
  ⟨rounded.1, rounded.2⟩

/-- A natural number in the wider format. -/
def ofNat (n : Nat) : Extended := ofRatio n 1

/-- The product, rounded once. -/
def mul (x y : Extended) : Extended :=
  let rounded := nearest 64 floor (x.mantissa * y.mantissa) 1
  ⟨rounded.1, rounded.2 + x.exponent + y.exponent⟩

/-- The numerator and denominator of the value. -/
def ratio (x : Extended) : Nat × Nat := scaledUp x.mantissa x.exponent

/-- The order against a power of ten. -/
def atLeastTenTo (x : Extended) (power : Nat) : Bool :=
  let p := x.ratio
  Nat.pow 10 power * p.2 ≤ p.1

/-- The order against the inverse of a power of ten. -/
def belowTenthTo (x : Extended) (power : Nat) : Bool :=
  let p := x.ratio
  p.1 * Nat.pow 10 power < p.2

/-- A power of ten, rounded to the wider format. -/
def tenTo (power : Nat) : Extended := ofNat (Nat.pow 10 power)

/-- The inverse of a power of ten, rounded to the wider format. -/
def tenthTo (power : Nat) : Extended := ofRatio 1 (Nat.pow 10 power)

/-- Multiplication by the same factor again and again. -/
def times (factor : Extended) : Nat → Extended → Extended
  | 0, x => x
  | n + 1, x => times factor n (x.mul factor)

/-- Multiplication by a power of ten in steps of a hundred, ten and one decimal places. -/
def scale (x : Extended) (power : Int) : Extended :=
  let places := power.natAbs
  let factor := if 0 ≤ power then tenTo else tenthTo
  times (factor 1) (places % 10)
    (times (factor 10) (places % 100 / 10) (times (factor 100) (places / 100) x))

/-- The greatest finite real, as a natural number. -/
def greatestReal : Nat := (Nat.pow 2 53 - 1) * Nat.pow 2 971

/-- The real nearest to an extended number; whatever exceeds the greatest real is infinite. -/
def toBinary64 (negative : Bool) (x : Extended) : Binary64 :=
  let p := x.ratio
  if p.1 > greatestReal * p.2 then .infinity negative else .ofRatio negative p.1 p.2

end Extended
end PushLedger.Number
