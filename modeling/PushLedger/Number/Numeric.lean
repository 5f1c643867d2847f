import PushLedger.Number.Extended

/-!
# Numeric text

Text counts as a number when it consists of blanks, a sign, digits with at most one point, an
exponent, and blanks again. The digits are collected into a 64-bit significand; digits that no
longer fit only move the point. Text that merely starts like a number still has a value, that of
its beginning, and the two questions are kept apart: `value` reads the beginning, `whole` says
that nothing follows it.
-/

namespace PushLedger.Number

/-- The blanks around numbers and inside dates: the space and the five ASCII controls next to it. -/
def isGap (c : Char) : Bool := c = ' ' || ('\t' ≤ c && c ≤ '\r')

/-- The value of a digit character. -/
def digitValue (c : Char) : Nat := c.toNat - '0'.toNat

/-- The number that a run of digits names. -/
def digitsValue (digits : List Char) : Nat := digits.foldl (fun n c => 10 * n + digitValue c) 0

/-- From here on another digit might not fit into the significand. -/
def significandLimit : Nat := 1844674407370955160

/-- What the beginning of a text says as a number. -/
structure NumericScan where
  negative : Bool
  /-- The digits kept, without the point. -/
  significand : Nat
  /-- The power of ten that belongs to the significand. -/
  power : Int
  /-- The number has neither a point nor an exponent. -/
  integral : Bool
  /-- The number takes the whole text. -/
  whole : Bool
  /-- The digits before the point, for integers beyond the significand. -/
  digits : List Char

/-- Digits before the point: what does not fit raises the power. -/
def takeWholeDigits : List Char → Nat × Int → Nat × Int
  | [], state => state
  | c :: rest, (significand, power) =>
      if significand < significandLimit then
        takeWholeDigits rest (significand * 10 + digitValue c, power)
      else takeWholeDigits rest (significand, power + 1)

/-- Digits after the point: what does not fit is dropped. -/
def takeFractionDigits : List Char → Nat × Int → Nat × Int
  | [], state => state
  | c :: rest, (significand, power) =>
      if significand < significandLimit then
        takeFractionDigits rest (significand * 10 + digitValue c, power - 1)
      else takeFractionDigits rest (significand, power)

/-- The size of an exponent, held at ten thousand. -/
def exponentSize (digits : List Char) : Nat :=
  digits.foldl (fun n c => if n < 10000 then n * 10 + digitValue c else 10000) 0

/-- A sign and what follows it. -/
def splitSign : List Char → Bool × List Char
  | '-' :: rest => (true, rest)
  | '+' :: rest => (false, rest)
  | text => (false, text)

/-- Reads the number at the beginning of a text. -/
def scanNumeric (text : List Char) : NumericScan :=
  let (negative, unsigned) := splitSign (text.dropWhile isGap)
  let digits := unsigned.takeWhile Char.isDigit
  let afterDigits := unsigned.dropWhile Char.isDigit
  let (fraction, afterFraction, pointed) :=
    match afterDigits with
    | '.' :: rest => (rest.takeWhile Char.isDigit, rest.dropWhile Char.isDigit, true)
    | rest => ([], rest, false)
  let (size, down, afterExponent, raised, sound) :=
    match afterFraction with
    | c :: rest =>
        if c = 'e' || c = 'E' then
          let (down, unsignedSize) := splitSign rest
          let places := unsignedSize.takeWhile Char.isDigit
          (exponentSize places, down, unsignedSize.dropWhile Char.isDigit, true, !places.isEmpty)
        else (0, false, afterFraction, false, true)
    | [] => (0, false, [], false, true)
  let state := takeFractionDigits fraction (takeWholeDigits digits (0, 0))
  { negative
    significand := state.1
    power := state.2 + (if down then -(size : Int) else size)
    integral := !pointed && !raised
    whole := (afterExponent.dropWhile isGap).isEmpty && sound &&
      !(digits.isEmpty && fraction.isEmpty)
    digits }

/-- A significand is multiplied by ten while it is small and the power is positive. -/
def raiseSignificand : Nat → Nat → Nat × Nat
  | significand, 0 => (significand, 0)
  | significand, power + 1 =>
      if significand < 1844674407370954956 then raiseSignificand (significand * 10) power
      else (significand, power + 1)

/-- Zeros at the end of a significand cancel against a negative power. -/
def lowerSignificand : Nat → Nat → Nat × Nat
  | significand, 0 => (significand, 0)
  | significand, power + 1 =>
      if significand % 10 = 0 then lowerSignificand (significand / 10) power
      else (significand, power + 1)

/-- The real that the beginning of the text names; zero if it names none. -/
def NumericScan.value (scan : NumericScan) : Binary64 :=
  if scan.significand = 0 then .zero scan.negative
  else if 0 < scan.power then
    let (significand, power) := raiseSignificand scan.significand scan.power.toNat
    ((Extended.ofNat significand).scale power).toBinary64 scan.negative
  else
    let (significand, power) := lowerSignificand scan.significand (-scan.power).toNat
    ((Extended.ofNat significand).scale (-(power : Int))).toBinary64 scan.negative

/-- The integer of a text without point and exponent, of any size. -/
def NumericScan.integer (scan : NumericScan) : Int :=
  Binary64.signed scan.negative (digitsValue scan.digits)

end PushLedger.Number
