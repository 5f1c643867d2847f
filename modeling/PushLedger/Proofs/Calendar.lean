import Mathlib.Algebra.GroupWithZero.Nat
import Mathlib.Order.Monotone.Basic
import PushLedger.Cell.Basic
import PushLedger.Number.Numeric

/-!
# The calendar

The days of the calendar are counted out here: a year is as long as its months, every fourth year is
one day longer, apart from three centuries out of four, and a date is as many days after the start
of the year zero as the years, the months and the days before it have together.

The text of a date and time, `YYYY-MM-DD HH:MM:SS`, has a fixed width, so texts are in the order of
time. Both orders are compared with the order of the six numbers, the year first.
-/

namespace PushLedger

namespace Number

/-- So many decimal digits of a number, with zeros in front. -/
def paddedDigits : Nat → Nat → List Char
  | 0, _ => []
  | count + 1, n => paddedDigits count (n / 10) ++ [Nat.digitChar (n % 10)]

/-- There are as many digits as were asked for. -/
@[simp] theorem length_paddedDigits (count n : Nat) : (paddedDigits count n).length = count := by
  induction count generalizing n with
  | zero => rfl
  | succ count inductionHypothesis => simp [paddedDigits, inductionHypothesis]

/-- All of them are digits. -/
theorem isDigit_of_mem_paddedDigits (count n : Nat) (c : Char) (member : c ∈ paddedDigits count n) :
    c.isDigit = true := by
  induction count generalizing n with
  | zero => exact absurd member List.not_mem_nil
  | succ count inductionHypothesis =>
    rcases List.mem_append.mp member with earlier | last
    · exact inductionHypothesis (n / 10) earlier
    · rw [List.mem_singleton.mp last, Nat.isDigit_digitChar]
      exact decide_eq_true (Nat.mod_lt n (by decide))

/-- The first of several digits is one. -/
theorem paddedDigits_eq_cons (count n : Nat) :
    ∃ c rest, paddedDigits (count + 1) n = c :: rest ∧ c.isDigit = true := by
  have filled : paddedDigits (count + 1) n ≠ [] := by simp [paddedDigits]
  obtain ⟨c, rest, split⟩ := List.exists_cons_of_ne_nil filled
  exact ⟨c, rest, split, isDigit_of_mem_paddedDigits _ n c (split ▸ List.mem_cons_self)⟩

/-- The digits name the number, if it is not too large for them. -/
theorem digitsValue_paddedDigits (count n : Nat) (bounded : n < 10 ^ count) :
    digitsValue (paddedDigits count n) = n := by
  induction count generalizing n with
  | zero =>
    obtain rfl : n = 0 := by simpa using bounded
    rfl
  | succ count inductionHypothesis =>
    have shorter : n / 10 < 10 ^ count := by
      rw [Nat.pow_succ] at bounded
      omega
    have front := inductionHypothesis (n / 10) shorter
    have last : digitValue (Nat.digitChar (n % 10)) = n % 10 :=
      Nat.toNat_digitChar_sub_48_of_lt_ten (Nat.mod_lt n (by decide))
    unfold digitsValue at front ⊢
    rw [paddedDigits, List.foldl_append, front, List.foldl_cons, List.foldl_nil, last]
    omega

/-- The digits of a greater number are greater, whatever comes after them. -/
theorem paddedDigits_append_lt (count m n : Nat) (less : m < n) (bounded : n < 10 ^ count)
    (s t : List Char) : paddedDigits count m ++ s < paddedDigits count n ++ t := by
  induction count generalizing m n s t with
  | zero =>
    have zero : n = 0 := by simpa using bounded
    omega
  | succ count inductionHypothesis =>
    have shorter : n / 10 < 10 ^ count := by
      rw [Nat.pow_succ] at bounded
      omega
    simp only [paddedDigits, List.append_assoc]
    rcases Nat.lt_or_ge (m / 10) (n / 10) with front | last
    · exact inductionHypothesis (m / 10) (n / 10) front shorter _ _
    · -- the digits before the last one agree, so the last one decides
      have same : m / 10 = n / 10 := by omega
      have digit : Nat.digitChar (m % 10) < Nat.digitChar (n % 10) := by
        have first := Nat.toNat_digitChar_of_lt_ten (Nat.mod_lt m (by decide : 0 < 10))
        have second := Nat.toNat_digitChar_of_lt_ten (Nat.mod_lt n (by decide : 0 < 10))
        have below : (Nat.digitChar (m % 10)).toNat < (Nat.digitChar (n % 10)).toNat := by omega
        exact below
      rw [same]
      exact List.append_left_lt (List.cons_lt_cons_iff.mpr (.inl digit))

end Number

namespace Calendar

/-- The year has a leap day: every fourth year has one, but of the centuries only every fourth. -/
def IsLeap (year : Nat) : Prop := year % 4 = 0 ∧ (year % 100 = 0 → year % 400 = 0)

instance (year : Nat) : Decidable (IsLeap year) := by unfold IsLeap; infer_instance

/-- The days of a year. -/
def yearLength (year : Nat) : Nat := if IsLeap year then 366 else 365

/-- The days of a month. -/
def monthLength (year : Nat) : Nat → Nat
  | 2 => if IsLeap year then 29 else 28
  | 4 => 30
  | 6 => 30
  | 9 => 30
  | 11 => 30
  | _ => 31

/-- The days from the start of the year zero to the start of a year. -/
def daysBeforeYear : Nat → Nat
  | 0 => 0
  | year + 1 => daysBeforeYear year + yearLength year

/-- The days from the start of a year to the start of one of its months; the first month is one. -/
def daysBeforeMonth (year : Nat) : Nat → Nat
  | 0 => 0
  | 1 => 0
  | month + 2 => daysBeforeMonth year (month + 1) + monthLength year (month + 1)

/-- A year is as long as its months. -/
theorem daysBeforeMonth_thirteen (year : Nat) : daysBeforeMonth year 13 = yearLength year := by
  by_cases leap : IsLeap year <;> simp [daysBeforeMonth, monthLength, yearLength, leap]

/-- Later years begin later. -/
theorem daysBeforeYear_mono : Monotone daysBeforeYear :=
  monotone_nat_of_le_succ fun _ => Nat.le_add_right _ _

/-- Later months begin later. -/
theorem daysBeforeMonth_mono (year : Nat) : Monotone (daysBeforeMonth year) := by
  refine monotone_nat_of_le_succ fun month => ?_
  cases month with
  | zero => exact Nat.le_refl 0
  | succ month => exact Nat.le_add_right _ _

/-- No month is longer than 31 days. -/
theorem monthLength_le (year month : Nat) : monthLength year month ≤ 31 := by
  unfold monthLength
  split
  · split <;> decide
  all_goals decide

/-- Every fourth year is one day longer, every century one day shorter again, and every fourth
century one day longer after all. -/
theorem yearLength_eq (year : Nat) : yearLength year + (if year % 100 = 0 then 1 else 0) =
    365 + (if year % 4 = 0 then 1 else 0) + if year % 400 = 0 then 1 else 0 := by
  have fourth : year % 100 = 0 → year % 4 = 0 := by omega
  have hundredth : year % 400 = 0 → year % 100 = 0 := by omega
  unfold yearLength IsLeap
  by_cases century : year % 100 = 0
  · by_cases cycle : year % 400 = 0 <;> simp [century, cycle, fourth century]
  · have noCycle : ¬ year % 400 = 0 := fun cycle => century (hundredth cycle)
    by_cases leap : year % 4 = 0 <;> simp [century, noCycle, leap]

/-- Of the years so far every fourth has a leap day, apart from the centuries that have none. -/
theorem daysBeforeYear_eq (year : Nat) : daysBeforeYear year + (year + 99) / 100 =
    365 * year + (year + 3) / 4 + (year + 399) / 400 := by
  induction year with
  | zero => rfl
  | succ year inductionHypothesis =>
    have quarters : (year + 1 + 3) / 4 = (year + 3) / 4 + if year % 4 = 0 then 1 else 0 := by
      split <;> omega
    have centuries : (year + 1 + 99) / 100 =
        (year + 99) / 100 + if year % 100 = 0 then 1 else 0 := by
      split <;> omega
    have cycles : (year + 1 + 399) / 400 =
        (year + 399) / 400 + if year % 400 = 0 then 1 else 0 := by
      split <;> omega
    have length := yearLength_eq year
    rw [daysBeforeYear, quarters, centuries, cycles]
    omega

end Calendar

/-- A second of the years 0 to 9999. -/
structure DateTime where
  year : Nat
  month : Nat
  day : Nat
  hour : Nat
  minute : Nat
  second : Nat
  year_le : year ≤ 9999
  month_le : 1 ≤ month ∧ month ≤ 12
  day_le : 1 ≤ day ∧ day ≤ Calendar.monthLength year month
  hour_lt : hour < 24
  minute_lt : minute < 60
  second_lt : second < 60
deriving DecidableEq

namespace DateTime

open Calendar Number

/-- The characters of the text of a date and time. -/
def chars (d : DateTime) : List Char :=
  paddedDigits 4 d.year ++ '-' :: (paddedDigits 2 d.month ++ '-' :: (paddedDigits 2 d.day ++
    ' ' :: (paddedDigits 2 d.hour ++ ':' :: (paddedDigits 2 d.minute ++
      ':' :: paddedDigits 2 d.second))))

/-- The text of a date and time, `YYYY-MM-DD HH:MM:SS`. -/
def text (d : DateTime) : String := String.ofList d.chars

/-- The days of the calendar before the date, from the start of the year zero. -/
def daysBefore (d : DateTime) : Nat :=
  daysBeforeYear d.year + daysBeforeMonth d.year d.month + (d.day - 1)

/-- The seconds since the start of 1970, negative before it. -/
def seconds (d : DateTime) : Int :=
  ((d.daysBefore : Int) - daysBeforeYear 1970) * 86400 +
    (d.hour * 3600 + d.minute * 60 + d.second : Nat)

/-- The date lies within its year. -/
theorem day_le_yearLength (d : DateTime) :
    daysBeforeMonth d.year d.month + d.day ≤ yearLength d.year := by
  obtain ⟨first, last⟩ := d.month_le
  obtain ⟨_, bounded⟩ := d.day_le
  have next : daysBeforeMonth d.year (d.month + 1) =
      daysBeforeMonth d.year d.month + monthLength d.year d.month := by
    obtain ⟨month, same⟩ := Nat.exists_eq_add_of_le' first
    rw [same]
    rfl
  have whole : daysBeforeMonth d.year (d.month + 1) ≤ daysBeforeMonth d.year 13 :=
    daysBeforeMonth_mono d.year (by omega)
  rw [daysBeforeMonth_thirteen] at whole
  omega

/-- Two digits suffice for a day. -/
theorem day_lt_hundred (d : DateTime) : d.day < 100 := by
  have bounded := d.day_le.2
  have short := monthLength_le d.year d.month
  omega

/-- The six numbers of the earlier date come first, the year before all others. -/
inductive Precedes (a b : DateTime) : Prop where
  | year (less : a.year < b.year)
  | month (year : a.year = b.year) (less : a.month < b.month)
  | day (year : a.year = b.year) (month : a.month = b.month) (less : a.day < b.day)
  | hour (year : a.year = b.year) (month : a.month = b.month) (day : a.day = b.day)
      (less : a.hour < b.hour)
  | minute (year : a.year = b.year) (month : a.month = b.month) (day : a.day = b.day)
      (hour : a.hour = b.hour) (less : a.minute < b.minute)
  | second (year : a.year = b.year) (month : a.month = b.month) (day : a.day = b.day)
      (hour : a.hour = b.hour) (minute : a.minute = b.minute) (less : a.second < b.second)

/-- Of two different dates one precedes the other. -/
theorem precedes_total (a b : DateTime) : a.Precedes b ∨ a = b ∨ b.Precedes a := by
  rcases Nat.lt_trichotomy a.year b.year with less | year | more
  · exact .inl (.year less)
  · rcases Nat.lt_trichotomy a.month b.month with less | month | more
    · exact .inl (.month year less)
    · rcases Nat.lt_trichotomy a.day b.day with less | day | more
      · exact .inl (.day year month less)
      · rcases Nat.lt_trichotomy a.hour b.hour with less | hour | more
        · exact .inl (.hour year month day less)
        · rcases Nat.lt_trichotomy a.minute b.minute with less | minute | more
          · exact .inl (.minute year month day hour less)
          · rcases Nat.lt_trichotomy a.second b.second with less | second | more
            · exact .inl (.second year month day hour minute less)
            · refine .inr (.inl ?_)
              cases a
              cases b
              simp_all
            · exact .inr (.inr (.second year.symm month.symm day.symm hour.symm minute.symm more))
          · exact .inr (.inr (.minute year.symm month.symm day.symm hour.symm more))
        · exact .inr (.inr (.hour year.symm month.symm day.symm more))
      · exact .inr (.inr (.day year.symm month.symm more))
    · exact .inr (.inr (.month year.symm more))
  · exact .inr (.inr (.year more))

/-- A date with an earlier day has fewer days before it. -/
theorem daysBefore_lt_of_day (a b : DateTime) (year : a.year = b.year) (month : a.month = b.month)
    (less : a.day < b.day) : a.daysBefore < b.daysBefore := by
  have first := a.day_le.1
  unfold daysBefore
  rw [year, month]
  omega

/-- A date in an earlier month has fewer days before it. -/
theorem daysBefore_lt_of_month (a b : DateTime) (year : a.year = b.year)
    (less : a.month < b.month) : a.daysBefore < b.daysBefore := by
  obtain ⟨first, last⟩ := a.day_le
  obtain ⟨month, same⟩ := Nat.exists_eq_add_of_le' a.month_le.1
  have next : daysBeforeMonth a.year (a.month + 1) =
      daysBeforeMonth a.year a.month + monthLength a.year a.month := by
    rw [same]
    rfl
  have later : daysBeforeMonth a.year (a.month + 1) ≤ daysBeforeMonth a.year b.month :=
    daysBeforeMonth_mono a.year less
  unfold daysBefore
  rw [← year]
  omega

/-- A date in an earlier year has fewer days before it. -/
theorem daysBefore_lt_of_year (a b : DateTime) (less : a.year < b.year) :
    a.daysBefore < b.daysBefore := by
  have within := a.day_le_yearLength
  have first := a.day_le.1
  have next : daysBeforeYear (a.year + 1) = daysBeforeYear a.year + yearLength a.year := rfl
  have later : daysBeforeYear (a.year + 1) ≤ daysBeforeYear b.year := daysBeforeYear_mono less
  unfold daysBefore
  omega

/-- The earlier date has the fewer seconds. -/
theorem Precedes.seconds_lt {a b : DateTime} (precedes : a.Precedes b) : a.seconds < b.seconds := by
  have hour := a.hour_lt
  have minute := a.minute_lt
  have second := a.second_lt
  have sameDay (year : a.year = b.year) (month : a.month = b.month) (day : a.day = b.day) :
      a.daysBefore = b.daysBefore := by
    unfold daysBefore
    rw [year, month, day]
  have earlierDay (fewer : a.daysBefore < b.daysBefore) : a.seconds < b.seconds := by
    unfold seconds
    omega
  cases precedes with
  | year less => exact earlierDay (daysBefore_lt_of_year a b less)
  | month year less => exact earlierDay (daysBefore_lt_of_month a b year less)
  | day year month less => exact earlierDay (daysBefore_lt_of_day a b year month less)
  | hour year month day less =>
    have days := sameDay year month day
    unfold seconds
    omega
  | minute year month day hour less =>
    have days := sameDay year month day
    unfold seconds
    omega
  | second year month day hour minute less =>
    have days := sameDay year month day
    unfold seconds
    omega

/-- What follows the same field and the same mark decides. -/
theorem field_lt (field : List Char) (mark : Char) {s t : List Char} (less : s < t) :
    field ++ mark :: s < field ++ mark :: t :=
  List.append_left_lt (List.cons_lt_cons_iff.mpr (.inr ⟨rfl, less⟩))

/-- The earlier date has the lesser text. -/
theorem Precedes.text_lt {a b : DateTime} (precedes : a.Precedes b) : a.text < b.text := by
  have yearWidth : b.year < 10 ^ 4 := by have bounded := b.year_le; omega
  have monthWidth : b.month < 10 ^ 2 := by have bounded := b.month_le; omega
  have dayWidth : b.day < 10 ^ 2 := by have bounded := b.day_lt_hundred; omega
  have hourWidth : b.hour < 10 ^ 2 := by have bounded := b.hour_lt; omega
  have minuteWidth : b.minute < 10 ^ 2 := by have bounded := b.minute_lt; omega
  have secondWidth : b.second < 10 ^ 2 := by have bounded := b.second_lt; omega
  rw [String.lt_iff, text, text, String.toList_ofList, String.toList_ofList, chars, chars]
  cases precedes with
  | year less => exact paddedDigits_append_lt 4 _ _ less yearWidth _ _
  | month year less =>
    rw [year]
    exact field_lt _ _ (paddedDigits_append_lt 2 _ _ less monthWidth _ _)
  | day year month less =>
    rw [year, month]
    exact field_lt _ _ (field_lt _ _ (paddedDigits_append_lt 2 _ _ less dayWidth _ _))
  | hour year month day less =>
    rw [year, month, day]
    exact field_lt _ _ (field_lt _ _ (field_lt _ _
      (paddedDigits_append_lt 2 _ _ less hourWidth _ _)))
  | minute year month day hour less =>
    rw [year, month, day, hour]
    exact field_lt _ _ (field_lt _ _ (field_lt _ _ (field_lt _ _
      (paddedDigits_append_lt 2 _ _ less minuteWidth _ _))))
  | second year month day hour minute less =>
    have last := paddedDigits_append_lt 2 _ _ less secondWidth [] []
    rw [List.append_nil, List.append_nil] at last
    rw [year, month, day, hour, minute]
    exact field_lt _ _ (field_lt _ _ (field_lt _ _ (field_lt _ _ (field_lt _ _ last))))

/-- As cells, the texts of two dates are in the order of their seconds. -/
theorem order_text (a b : DateTime) :
    (Cell.text a.text).order (.text b.text) = compare a.seconds b.seconds := by
  change Cell.orderText a.text b.text = compare a.seconds b.seconds
  unfold Cell.orderText
  rcases a.precedes_total b with earlier | rfl | later
  · rw [if_pos earlier.text_lt, compare_lt_iff_lt.mpr earlier.seconds_lt]
  · rw [if_neg (String.lt_irrefl _), if_pos rfl, compare_eq_iff_eq.mpr rfl]
  · have below : ¬ a.text < b.text := String.lt_asymm later.text_lt
    have apart : a.text ≠ b.text := fun same => String.lt_irrefl _ (same ▸ later.text_lt)
    rw [if_neg below, if_neg apart, compare_gt_iff_gt.mpr later.seconds_lt]

end DateTime

end PushLedger
