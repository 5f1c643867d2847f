import PushLedger.Json.Value
import PushLedger.Number.Numeric
import PushLedger.Word

/-!
# What a number in JSON text amounts to

Digits without point and exponent are an integer as long as it fits a word, unsigned or signed.
Every other number is a real. Its digits are collected into an unsigned word; the digits that no
longer fit move the point if they stand before it and are dropped if they stand after it. The word
is then multiplied or divided by a power of ten, with one rounding; a number beyond the reals has
no amount.
-/

namespace PushLedger.Json

/-- What a number amounts to. -/
inductive Amount
  | integer (n : Int)
  | real (x : Binary64)
deriving DecidableEq, Repr

namespace Numeral

/-- The digits that fit an unsigned word, and the number of those that do not. -/
def collect : List Char → Nat → Nat × Nat
  | [], n => (n, 0)
  | c :: rest, n =>
      let next := 10 * n + Number.digitValue c
      if next ≤ Word.greatestUnsigned then collect rest next else (n, rest.length + 1)

/-- The power of ten of the exponent. -/
def stated (n : Numeral) : Int :=
  match n.exponent with
  | none => 0
  | some (negative, digits) => Binary64.signed negative (Number.digitsValue digits)

/-- The quotient of two reals, rounded once. -/
def quotient (x y : Binary64) : Binary64 :=
  match x.ratio?, y.ratio? with
  | some p, some q => .ofRatio x.negative (p.1 * q.2) (p.2 * q.1)
  | _, _ => x

/-- The product of two reals, rounded once. -/
def product (x y : Binary64) : Binary64 :=
  match x.ratio?, y.ratio? with
  | some p, some q => .ofRatio x.negative (p.1 * q.1) (p.2 * q.2)
  | _, _ => x

/-- The greatest power of ten that is a real. -/
def greatestTen : Nat := 308

/-- A power of ten as a real. -/
def ten (power : Nat) : Binary64 := .ofNat (Nat.pow 10 power)

/-- Division by a power of ten. A power beyond the reals is divided by in several steps, each with
its own rounding, until nothing is left to divide; at most `fuel` of them. -/
def lower (x : Binary64) (power : Nat) : Nat → Binary64
  | 0 => x
  | fuel + 1 =>
      if power ≤ greatestTen then quotient x (ten power)
      else if x.isZero then x
      else lower (quotient x (ten greatestTen)) (power - greatestTen) fuel

/-- A significand times a power of ten, unless it is beyond the reals. -/
def scaled? (significand : Nat) (power : Int) : Option Binary64 :=
  let x := Binary64.ofNat significand
  if power < 0 then some (lower x (-power).toNat 5)
  else if power.toNat ≤ greatestTen then
    let y := product x (ten power.toNat)
    if y.magnitude = .infinite then none else some y
  else if x.isZero then some x
  else none

/-- The real that a numeral names. -/
def real? (n : Numeral) : Option Binary64 :=
  let (whole, skipped) := collect n.whole 0
  let (significand, dropped) := collect n.fraction whole
  let kept := n.fraction.length - dropped
  (scaled? significand ((skipped : Int) - kept + n.stated)).map fun x =>
    { x with negative := n.negative }

/-- The integer that a numeral names, if it has neither point nor exponent and fits a word. A zero
with a minus sign is not an integer. -/
def integer? (n : Numeral) : Option Int :=
  if n.fraction.isEmpty && n.exponent.isNone then
    let size := Number.digitsValue n.whole
    if n.negative then
      if 0 < size ∧ size ≤ Word.greatest.toNat + 1 then some (-(size : Int)) else none
    else if size ≤ Word.greatestUnsigned then some size else none
  else none

/-- What a numeral amounts to; none if it is beyond the reals. -/
def amount? (n : Numeral) : Option Amount :=
  match n.integer? with
  | some i => some (.integer i)
  | none => n.real?.map .real

end Numeral
end PushLedger.Json
