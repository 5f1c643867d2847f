import PushLedger.Number.Extended

/-!
# Decimal texts of reals

Two texts of a real are in use. The exact one has the fewest digits that still round to the same
real, and of those the nearest; it is written in reports and messages. The short one has fifteen
significant digits, half upwards, and is what a text column makes of a real.

Both are a digit string and the place of the point, followed by a layout step that decides between
positional and exponent form.
-/

namespace PushLedger.Number

/-- A decimal number: the digits as one natural number, times a power of ten. -/
structure Decimal where
  digits : Nat
  power : Int
deriving DecidableEq, Repr

/-- A quotient compared with a decimal grid: how many whole units of ten to `power` it holds. -/
def unitsOfTen (num den : Nat) (power : Int) : Nat :=
  if 0 ≤ power then num / (den * Nat.pow 10 power.toNat)
  else num * Nat.pow 10 (-power).toNat / den

/-- The order of `digits` times ten to `power` against a quotient. -/
def compareDecimal (digits : Nat) (power : Int) (num den : Nat) : Ordering :=
  if 0 ≤ power then compare (digits * Nat.pow 10 power.toNat * den) num
  else compare (digits * den) (num * Nat.pow 10 (-power).toNat)

/-- The number of digits before the point, found from a first guess that is at most two too low. -/
def placesBeforePoint (num den : Nat) : Int :=
  let guess := ((num.log2 : Int) - (den.log2 : Int) - 1) * 30103 / 100000
  let raise := fun (places : Int) =>
    if compareDecimal 1 places num den == .gt then places else places + 1
  raise (raise (raise guess))

/-- The reals that round to a given one: its two ends over the common denominator four, and
whether the ends themselves belong to it. They do when the mantissa is even. -/
structure Neighbourhood where
  low : Nat × Nat
  high : Nat × Nat
  closed : Bool

/-- The neighbourhood of a finite magnitude. The step below a power of two is half as wide. -/
def neighbourhood (mantissa : Nat) (exponent : Int) : Neighbourhood :=
  let narrow := mantissa = Nat.pow 2 52 ∧ exponent > Binary64.leastExponent
  { low := scaledUp (4 * mantissa - if narrow then 1 else 2) (exponent - 2)
    high := scaledUp (4 * mantissa + 2) (exponent - 2)
    closed := mantissa % 2 = 0 }

/-- Membership of a decimal in a neighbourhood. -/
def Neighbourhood.admits (n : Neighbourhood) (digits : Nat) (power : Int) : Bool :=
  let low := compareDecimal digits power n.low.1 n.low.2
  let high := compareDecimal digits power n.high.1 n.high.2
  if n.closed then low != .lt && high != .gt else low == .gt && high == .lt

/-- The nearer of two decimals one unit apart; a tie goes to the even one. -/
def nearerUnit (below : Nat) (power : Int) (num den : Nat) : Nat :=
  match compareDecimal (2 * below + 1) power (2 * num) den with
  | .gt => below
  | .lt => below + 1
  | .eq => if below % 2 = 0 then below else below + 1

/-- The first grid, from one digit upwards, that has a point in the neighbourhood. -/
def searchShortest (n : Neighbourhood) (num den : Nat) (places : Int) : Nat → Nat → Decimal
  | count, 0 => ⟨unitsOfTen num den (places - count), places - count⟩
  | count, fuel + 1 =>
      let power := places - count
      let below := unitsOfTen num den power
      match n.admits below power, n.admits (below + 1) power with
      | true, true => ⟨nearerUnit below power num den, power⟩
      | true, false => ⟨below, power⟩
      | false, true => ⟨below + 1, power⟩
      | false, false => searchShortest n num den places (count + 1) fuel

/-- Zeros at the end of the digits go into the power; at most `fuel` of them. -/
def dropZeros : Nat → Decimal → Decimal
  | 0, d => d
  | fuel + 1, d =>
      if d.digits ≠ 0 ∧ d.digits % 10 = 0 then dropZeros fuel ⟨d.digits / 10, d.power + 1⟩ else d

/-- The decimal with the fewest digits that rounds to the magnitude. Seventeen digits always
suffice. -/
def shortest (mantissa : Nat) (exponent : Int) : Decimal :=
  if mantissa = 0 then ⟨0, 0⟩ else
  let (num, den) := scaledUp mantissa exponent
  dropZeros 20
    (searchShortest (neighbourhood mantissa exponent) num den (placesBeforePoint num den) 1 17)

/-- The decimal digits of a natural number as characters. -/
def digitChars (n : Nat) : List Char := Nat.toDigits 10 n

/-- The exponent mark of scientific form: the sign, and at least `width` digits. -/
def exponentMark (exponent : Int) (width : Nat) : List Char :=
  let size := digitChars exponent.natAbs
  'e' :: (if exponent < 0 then '-' else '+') :: (List.replicate (width - size.length) '0' ++ size)

/-- Positional form, with at least one digit on each side of the point. -/
def positional (digits : List Char) (places : Int) : List Char :=
  if places ≤ 0 then '0' :: '.' :: (List.replicate (-places).toNat '0' ++ digits)
  else if digits.length ≤ places.toNat then
    digits ++ List.replicate (places.toNat - digits.length) '0' ++ ['.', '0']
  else digits.take places.toNat ++ '.' :: digits.drop places.toNat

/-- What a scientific form has even where the number does not need it. -/
structure ScientificForm where
  /-- A digit after the point. -/
  pointed : Bool
  /-- The fewest digits of the exponent. -/
  exponentWidth : Nat

/-- The form of exact texts: nothing but what is needed. -/
def ScientificForm.exact : ScientificForm := ⟨false, 1⟩

/-- The form of column texts. -/
def ScientificForm.column : ScientificForm := ⟨true, 2⟩

/-- Scientific form. -/
def scientific (form : ScientificForm) (digits : List Char) (places : Int) : List Char :=
  match digits with
  | [] => []
  | first :: rest =>
      first :: ((if rest.isEmpty then (if form.pointed then ['.', '0'] else []) else '.' :: rest) ++
        exponentMark (places - 1) form.exponentWidth)

/-- A minus sign in front of a text, or none. -/
def withSign (negative : Bool) (text : List Char) : List Char :=
  if negative then '-' :: text else text

/-- The text of a real in reports: the shortest digits, positional from `0.00001` up to sixteen
digits before the point. -/
def exactText (x : Binary64) : List Char :=
  match x.magnitude with
  | .infinite => withSign x.negative "inf".toList
  | .finite mantissa exponent =>
      let d := shortest mantissa exponent
      let digits := digitChars d.digits
      let places := d.power + digits.length
      withSign x.negative <|
        if mantissa = 0 then "0.0".toList
        else if -5 < places ∧ places ≤ 16 then positional digits places
        else scientific .exact digits places

/-- A real is brought between ten to the 17th and ten to the 19th by powers of ten; the count of
places moved comes back with it. -/
def normalizeStep (x : Extended) (moved : Int) : Nat → Extended × Int
  | 0 => (x, moved)
  | fuel + 1 =>
      if x.atLeastTenTo 119 then normalizeStep (x.mul (.tenthTo 100)) (moved + 100) fuel
      else if x.atLeastTenTo 29 then normalizeStep (x.mul (.tenthTo 10)) (moved + 10) fuel
      else if x.atLeastTenTo 19 then normalizeStep (x.mul (.tenthTo 1)) (moved + 1) fuel
      else if x.belowTenthTo 97 then normalizeStep (x.mul (.tenTo 100)) (moved - 100) fuel
      else if !x.atLeastTenTo 7 then normalizeStep (x.mul (.tenTo 10)) (moved - 10) fuel
      else if !x.atLeastTenTo 17 then normalizeStep (x.mul (.tenTo 1)) (moved - 1) fuel
      else (x, moved)

/-- Digits cut to a count, the last one raised when the first digit cut off is five or more. -/
def cutDigits (count : Nat) (digits : Nat) : Decimal :=
  let length := (digitChars digits).length
  if length ≤ count then ⟨digits, 0⟩ else
  let cut := length - count
  ⟨digits / Nat.pow 10 cut + (if 5 ≤ digits / Nat.pow 10 (cut - 1) % 10 then 1 else 0), cut⟩

/-- The fifteen significant digits of a magnitude. -/
def fifteenDigits (mantissa : Nat) (exponent : Int) : Decimal :=
  let start : Extended := let p := nearest 64 Extended.floor mantissa 1; ⟨p.1, p.2 + exponent⟩
  let (scaled, moved) := normalizeStep start 0 60
  let p := scaled.ratio
  let cut := cutDigits 15 (p.1 / p.2)
  dropZeros 20 ⟨cut.digits, cut.power + moved⟩

/-- The text that a text column makes of a real: fifteen significant digits, positional from
`0.0001` up to fifteen digits before the point. The sign of zero is lost. -/
def columnText (x : Binary64) : List Char :=
  match x.magnitude with
  | .infinite => withSign x.negative "Inf".toList
  | .finite mantissa exponent =>
      if mantissa = 0 then "0.0".toList else
      let d := fifteenDigits mantissa exponent
      let digits := digitChars d.digits
      let places := d.power + digits.length
      withSign x.negative <|
        if -4 < places ∧ places ≤ 15 then positional digits places
        else scientific .column digits places

end PushLedger.Number
