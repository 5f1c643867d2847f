import PushLedger.Number.Numeric
import PushLedger.Time.Rounded

/-!
# Time stamps in text

Tables of the first layout hold stamps as text. A stamp is a date, a date and a time, a time alone
on the first of January 2000, or a plain day number. The calendar is the Gregorian one carried
back without end, and a day past the end of its month runs on into the next. Everything goes
through the day count that starts at noon on 24 November 4714 BC, in milliseconds.

`Stamp.seconds?` is the whole reading: the seconds since 1970-01-01 00:00 UTC, or nothing for text
that is no stamp.
-/

namespace PushLedger.Stamp

open Number (isGap digitsValue)

/-- A day of the calendar; the month has any of its up to 31 days. -/
structure Day where
  year : Int
  month : Nat
  day : Nat
deriving DecidableEq, Repr

/-- A time of day with its distance from UTC in minutes. -/
structure Time where
  hour : Nat
  minute : Nat
  millis : Nat
  offset : Int
deriving DecidableEq, Repr

/-- Exactly `count` digits whose value lies within the bounds, and the text after them. -/
def digits? (count least greatest : Nat) (text : List Char) : Option (Nat × List Char) :=
  let run := text.take count
  let value := digitsValue run
  if run.length = count ∧ run.all Char.isDigit ∧ least ≤ value ∧ value ≤ greatest then
    some (value, text.drop count)
  else none

/-- A given character, and the text after it. -/
def mark? (c : Char) : List Char → Option (List Char)
  | d :: rest => if d = c then some rest else none
  | [] => none

/-- A date `YYYY-MM-DD`, with a minus sign in front for a year before the year zero. -/
def day? (text : List Char) : Option (Day × List Char) := do
  let (negative, text) := match text with
    | '-' :: rest => (true, rest)
    | rest => (false, rest)
  let (year, text) ← digits? 4 0 9999 text
  let text ← mark? '-' text
  let (month, text) ← digits? 2 1 12 text
  let text ← mark? '-' text
  let (day, text) ← digits? 2 1 31 text
  return (⟨if negative then -(year : Int) else year, month, day⟩, text)

/-- The end of a stamp: nothing but blanks. -/
def ends (text : List Char) : Bool := (text.dropWhile isGap).isEmpty

/-- The zone after a time: none, `Z`, or a sign and `HH:MM`. The result is in minutes. -/
def zone? (text : List Char) : Option Int :=
  match text.dropWhile isGap with
  | [] => some 0
  | c :: rest =>
      if c = 'Z' || c = 'z' then if ends rest then some 0 else none
      else if c = '+' || c = '-' then do
        let (hours, rest) ← digits? 2 0 14 rest
        let rest ← mark? ':' rest
        let (minutes, rest) ← digits? 2 0 59 rest
        let size : Int := minutes + hours * 60
        if ends rest then some (if c = '-' then -size else size) else none
      else none

/-- Seconds with a decimal fraction in milliseconds, rounded half up. Each step is rounded
arithmetic, and the character codes are part of it. -/
def fractionMillis (seconds : Nat) (fraction : List Char) : Nat :=
  let gather := fun (state : Ratio × Ratio) (c : Char) =>
    (((state.1.times (.ofNat 10)).plus (.ofNat c.toNat)).minus (.ofNat 48),
      state.2.times (.ofNat 10))
  let (value, scale) := fraction.foldl gather (.ofNat 0, .ofNat 1)
  (((Ratio.ofNat seconds).plus (value.per scale)).times (.ofNat 1000)).roundHalfUp

/-- The seconds after `HH:MM`, in milliseconds; they may be missing. -/
def millis? (text : List Char) : Option (Nat × List Char) :=
  match text with
  | ':' :: rest => do
      let (seconds, rest) ← digits? 2 0 59 rest
      match rest with
      | '.' :: fraction =>
          if (fraction.takeWhile Char.isDigit).isEmpty then return (seconds * 1000, rest)
          else return (fractionMillis seconds (fraction.takeWhile Char.isDigit),
            fraction.dropWhile Char.isDigit)
      | _ => return (seconds * 1000, rest)
  | _ => some (0, text)

/-- A time `HH:MM`, `HH:MM:SS` or `HH:MM:SS.fff` with an optional zone, up to the end. -/
def time? (text : List Char) : Option Time := do
  let (hour, text) ← digits? 2 0 24 text
  let text ← mark? ':' text
  let (minute, text) ← digits? 2 0 59 text
  let (millis, text) ← millis? text
  let offset ← zone? text
  return ⟨hour, minute, millis, offset⟩

/-- Milliseconds of the day count at the start of a calendar day. Years count from March, so that
the leap day comes last; the century terms correct the count of one leap day in four years. Both
divisions go towards zero: before the year zero, the centuries that are no multiple of four lie
one day later than the leap year rule puts them. -/
def Day.count (d : Day) : Int :=
  let early := d.month ≤ 2
  let year := if early then d.year - 1 else d.year
  let month : Int := if early then d.month + 12 else d.month
  let century := year.tdiv 100
  let correction := 2 - century + century.tdiv 4
  let yearDays := 36525 * (year + 4716) / 100
  let monthDays := 306001 * (month + 1) / 10000
  (2 * (yearDays + monthDays + d.day + correction) - 3049) * 43200000

/-- Milliseconds of a time of day, brought to UTC. -/
def Time.count (t : Time) : Int :=
  t.hour * 3600000 + t.minute * 60000 + t.millis - t.offset * 60000

/-- The first year of the day count. -/
def firstYear : Int := -4713

/-- The last millisecond of the day count: the end of the year 9999. -/
def lastCount : Int := 464269060799999

/-- The day on which a time alone stands. -/
def defaultDay : Day := ⟨2000, 1, 1⟩

/-- A date, or a date and a time with blanks or the letter T between them. -/
def dateTimeCount? (text : List Char) : Option (Option Int) := do
  let (day, rest) ← day? text
  let rest := rest.dropWhile fun c => isGap c || c = 'T'
  let start := if firstYear ≤ day.year then some day.count else none
  match time? rest with
  | some time => return start.map (· + time.count)
  | none => if rest.isEmpty then return start else failure

/-- The greatest day number, which itself is too large. -/
def dayNumberLimit : Ratio := ⟨10746969, 2⟩

/-- A plain number is a day number, read in rounded arithmetic. -/
def dayNumberCount? (text : List Char) : Option Int :=
  let scan := Number.scanNumeric text
  if !scan.whole then none else
  let value := scan.value
  match value.ratio? with
  | none => none
  | some (num, den) =>
      if value.negative && num != 0 then none
      else if num * dayNumberLimit.den < dayNumberLimit.num * den then
        some ((Ratio.times ⟨num, den⟩ (.ofNat 86400000)).roundHalfUp : Int)
      else none

/-- The day count of a stamp; text ends at a NUL character. -/
def count? (text : String) : Option Int :=
  let chars := text.toList.takeWhile (· ≠ '\x00')
  let found := match dateTimeCount? chars with
    | some count => count
    | none =>
        match time? chars with
        | some time => some (defaultDay.count + time.count)
        | none => dayNumberCount? chars
  found.filter fun count => 0 ≤ count ∧ count ≤ lastCount

/-- The seconds since 1970-01-01 00:00 UTC that a stamp names, rounded towards the past. -/
def seconds? (text : String) : Option Int :=
  (count? text).map fun count => count / 1000 - 210866760000

end PushLedger.Stamp
