import PushLedger.Number.Rounding

/-!
# Real numbers of the store

A stored real is a sign, a mantissa of at most 53 bits and a power of two, or an infinity. Zero
keeps its sign. The form is canonical: a mantissa shorter than 53 bits has the least exponent, so
equal values with equal signs are equal records.

Comparison with integers and between reals is exact: both sides are brought over a common
denominator, and no rounding takes place.
-/

namespace PushLedger

/-- The part of a real that is left when its sign is taken away. -/
inductive Magnitude
  | finite (mantissa : Nat) (exponent : Int)
  | infinite
deriving DecidableEq, Repr

/-- A real number as the store keeps it. -/
structure Binary64 where
  negative : Bool
  magnitude : Magnitude
deriving DecidableEq, Repr

namespace Binary64

open Number

/-- The least exponent of a mantissa. -/
def leastExponent : Int := -1074

/-- The greatest exponent of a mantissa. -/
def greatestExponent : Int := 971

/-- Zero with the given sign. -/
def zero (negative : Bool) : Binary64 := ⟨negative, .finite 0 leastExponent⟩

/-- Infinity with the given sign. -/
def infinity (negative : Bool) : Binary64 := ⟨negative, .infinite⟩

/-- The nearest real to a quotient; one that is too large becomes infinite. -/
def ofRatio (negative : Bool) (num den : Nat) : Binary64 :=
  let rounded := nearest 53 leastExponent num den
  if rounded.2 > greatestExponent then infinity negative
  else ⟨negative, .finite rounded.1 rounded.2⟩

/-- The nearest real to a natural number. -/
def ofNat (n : Nat) : Binary64 := ofRatio false n 1

/-- The numerator and denominator of a finite magnitude; an infinite one has none. -/
def ratio? (x : Binary64) : Option (Nat × Nat) :=
  match x.magnitude with
  | .finite mantissa exponent => some (scaledUp mantissa exponent)
  | .infinite => none

/-- Zero of either sign. -/
def isZero (x : Binary64) : Bool :=
  match x.magnitude with
  | .finite mantissa _ => mantissa == 0
  | .infinite => false

/-- A natural number with the sign of a real. -/
def signed (negative : Bool) (n : Nat) : Int := if negative then -(n : Int) else n

/-- The exact order of two reals; zeros of both signs are equal. -/
def order (x y : Binary64) : Ordering :=
  match x.ratio?, y.ratio? with
  | some p, some q =>
      compare (signed x.negative p.1 * (q.2 : Int)) (signed y.negative q.1 * (p.2 : Int))
  | none, some _ => if x.negative then .lt else .gt
  | some _, none => if y.negative then .gt else .lt
  | none, none =>
      if x.negative = y.negative then .eq else if x.negative then .lt else .gt

/-- The exact order of a real and an integer. -/
def orderInt (x : Binary64) (n : Int) : Ordering :=
  match x.ratio? with
  | some p => compare (signed x.negative p.1) (n * (p.2 : Int))
  | none => if x.negative then .lt else .gt

/-- The integer that a real equals, if it equals one. -/
def toInt? (x : Binary64) : Option Int :=
  match x.ratio? with
  | some p => if p.1 % p.2 = 0 then some (signed x.negative (p.1 / p.2)) else none
  | none => none

end Binary64
end PushLedger
