import Mathlib.Tactic.IntervalCases
import PushLedger.Proofs.Calendar
import PushLedger.Proofs.Opening

/-!
# Dates in old tables

Tables of the first layout hold stamps as texts of dates and times. A rebuild reads such a text
through a count of days that has one formula for years and one for months, with March as the first
month of a year. It comes to the same as counting out the calendar, for every second of the years 0
to 9999: before and after 1970, and on both sides of every leap day. So a rebuild keeps the order of
the stamps and the time that lies between any two of them.
-/

namespace PushLedger

namespace Stamp

open Calendar Number

/-- Digits that were written are read. -/
theorem digits?_paddedDigits (count least greatest n : Nat) (rest : List Char)
    (bounded : n < 10 ^ count) (above : least ≤ n) (below : n ≤ greatest) :
    digits? count least greatest (paddedDigits count n ++ rest) = some (n, rest) := by
  have taken : (paddedDigits count n ++ rest).take count = paddedDigits count n :=
    List.take_left' (length_paddedDigits count n)
  have dropped : (paddedDigits count n ++ rest).drop count = rest :=
    List.drop_left' (length_paddedDigits count n)
  have all : (paddedDigits count n).all Char.isDigit = true :=
    List.all_eq_true.mpr (isDigit_of_mem_paddedDigits count n)
  simp only [digits?, taken, dropped, digitsValue_paddedDigits count n bounded, all, above, below,
    length_paddedDigits, and_self, if_true]

/-- No digit is passed over with the blanks. -/
theorem dropWhile_paddedDigits (passed : Char → Bool) (count n : Nat) (rest : List Char)
    (stops : ∀ c, c.isDigit = true → passed c = false) :
    (paddedDigits (count + 1) n ++ rest).dropWhile passed = paddedDigits (count + 1) n ++ rest := by
  obtain ⟨c, others, split, digit⟩ := paddedDigits_eq_cons count n
  rw [split, List.cons_append, List.dropWhile_cons_of_neg]
  rw [stops c digit]
  exact Bool.false_ne_true

/-- A date that was written without a sign is read. -/
theorem day?_written (year month day : Nat) (rest : List Char) (yearBounded : year ≤ 9999)
    (monthBounded : 1 ≤ month ∧ month ≤ 12) (dayBounded : 1 ≤ day ∧ day ≤ 31) :
    day? (paddedDigits 4 year ++ '-' :: (paddedDigits 2 month ++ '-' ::
      (paddedDigits 2 day ++ rest))) = some (⟨year, month, day⟩, rest) := by
  have readYear (after : List Char) := digits?_paddedDigits 4 0 9999 year after (by omega)
    (by omega) yearBounded
  have readMonth (after : List Char) := digits?_paddedDigits 2 1 12 month after (by omega)
    monthBounded.1 monthBounded.2
  have readDay := digits?_paddedDigits 2 1 31 day rest (by omega) dayBounded.1 dayBounded.2
  obtain ⟨c, others, split, digit⟩ := paddedDigits_eq_cons 3 year
  have unsigned : c ≠ '-' := by
    rintro rfl
    exact nomatch digit
  rw [split] at readYear ⊢
  simp only [List.cons_append] at readYear ⊢
  unfold day?
  split
  rename_i negative text sign
  split at sign
  · rename_i heading
    exact absurd (List.cons.inj heading).1 unsigned
  · obtain ⟨rfl, rfl⟩ := Prod.mk.inj sign
    simp [readYear, readMonth, readDay, mark?]

/-- A time that was written without a fraction and without a zone is read. -/
theorem time?_written (hour minute second : Nat) (hourBounded : hour < 24)
    (minuteBounded : minute < 60) (secondBounded : second < 60) :
    time? (paddedDigits 2 hour ++ ':' :: (paddedDigits 2 minute ++ ':' ::
      paddedDigits 2 second)) = some ⟨hour, minute, second * 1000, 0⟩ := by
  have readHour (after : List Char) := digits?_paddedDigits 2 0 24 hour after (by omega) (by omega)
    (by omega)
  have readMinute (after : List Char) := digits?_paddedDigits 2 0 59 minute after (by omega)
    (by omega) (by omega)
  have readSecond := digits?_paddedDigits 2 0 59 second [] (by omega) (by omega) (by omega)
  rw [List.append_nil] at readSecond
  simp [time?, readHour, readMinute, readSecond, mark?, millis?, zone?]

/-- From the year before the year zero on, dropping the fraction of a century towards zero is as
good as rounding it down. -/
theorem correction_eq (year : Int) (bounded : -1 ≤ year) :
    2 - year.tdiv 100 + (year.tdiv 100).tdiv 4 = 2 - year / 100 + year / 400 := by
  by_cases before : year < 0
  · obtain rfl : year = -1 := by omega
    decide
  · rw [Int.tdiv_eq_ediv_of_nonneg (by omega), Int.tdiv_eq_ediv_of_nonneg (by omega)]
    omega

/-- A year that starts in March starts so many days after the calendar year that ends within it; the
formula counts these days from its own start. -/
theorem marchYears_eq (year : Nat) :
    36525 * ((year : Int) - 1 + 4716) / 100 +
        (2 - ((year : Int) - 1).tdiv 100 + (((year : Int) - 1).tdiv 100).tdiv 4) =
      daysBeforeYear year + 1722155 := by
  have years := daysBeforeYear_eq year
  have quarters : 36525 * ((year : Int) - 1 + 4716) / 100 =
      365 * year + (year + 3) / 4 + 1722153 := by omega
  have centuries : ((year : Int) + 99) / 100 = (year - 1) / 100 + 1 := by omega
  have cycles : ((year : Int) + 399) / 400 = (year - 1) / 400 + 1 := by omega
  rw [correction_eq _ (by omega), quarters]
  omega

/-- The formula for months counts January and February after the ten months from March on. -/
theorem earlyMonths_eq (year month : Nat) (bounded : 1 ≤ month ∧ month ≤ 2) :
    306001 * ((month : Int) + 12 + 1) / 10000 = daysBeforeMonth year month + 428 := by
  obtain rfl | rfl : month = 1 ∨ month = 2 := by omega
  all_goals rfl

/-- The formula for months counts the others from March on. -/
theorem lateMonths_eq (year month : Nat) (bounded : 3 ≤ month ∧ month ≤ 12) :
    306001 * ((month : Int) + 1) / 10000 + yearLength year =
      daysBeforeMonth year month + 428 := by
  obtain ⟨lower, upper⟩ := bounded
  by_cases leap : IsLeap year <;> interval_cases month <;>
    simp [daysBeforeMonth, monthLength, yearLength, leap]

/-- The formula for years and months counts the days of the calendar. The count starts at noon, so
it goes by halves of days. -/
theorem count_day (year month day : Nat) (bounded : 1 ≤ month ∧ month ≤ 12) (first : 1 ≤ day) :
    (⟨year, month, day⟩ : Day).count =
      (2 * ((daysBeforeYear year + daysBeforeMonth year month + (day - 1) : Nat) : Int) + 3442119) *
        43200000 := by
  by_cases early : month ≤ 2
  · have years := marchYears_eq year
    have months := earlyMonths_eq year month ⟨bounded.1, early⟩
    simp only [Day.count, early, if_true, months]
    omega
  · have years := marchYears_eq (year + 1)
    have months := lateMonths_eq year month ⟨by omega, bounded.2⟩
    have next : daysBeforeYear (year + 1) = daysBeforeYear year + yearLength year := rfl
    rw [next, Nat.cast_succ, Int.add_sub_cancel] at years
    simp only [Day.count, early, if_false]
    omega

/-- A digit is none of the characters between a date and a time. -/
theorem not_separator_of_isDigit (c : Char) (digit : c.isDigit = true) :
    (isGap c || c = 'T') = false := by
  have bounds : 48 ≤ c.toNat ∧ c.toNat ≤ 57 := by
    rw [Char.isDigit, Bool.and_eq_true, decide_eq_true_iff, decide_eq_true_iff] at digit
    exact digit
  have apart (other : Char) (outside : other.toNat < 48 ∨ 57 < other.toNat) : c ≠ other := by
    rintro rfl
    omega
  have control : ¬ c ≤ '\r' := fun below => by
    have less : c.toNat ≤ 13 := below
    omega
  simp [isGap, apart ' ' (by decide), apart 'T' (by decide), control]

/-- No character of the text of a date and time ends the reading of it. -/
theorem no_nul (d : DateTime) (c : Char) (member : c ∈ d.chars) : c ≠ '\x00' := by
  rintro rfl
  have noDigit (count n : Nat) : ¬ '\x00' ∈ paddedDigits count n := fun member =>
    nomatch isDigit_of_mem_paddedDigits count n _ member
  simp [DateTime.chars, noDigit] at member

/-- A date and time that was written is read. -/
theorem dateTimeCount?_chars (d : DateTime) : dateTimeCount? d.chars =
    some (some ((⟨d.year, d.month, d.day⟩ : Day).count +
      (⟨d.hour, d.minute, d.second * 1000, 0⟩ : Time).count)) := by
  have short : d.day ≤ 31 := Nat.le_trans d.day_le.2 (monthLength_le d.year d.month)
  have readDay (rest : List Char) := day?_written d.year d.month d.day rest d.year_le d.month_le
    ⟨d.day_le.1, short⟩
  have readTime := time?_written d.hour d.minute d.second d.hour_lt d.minute_lt d.second_lt
  have blank (rest : List Char) : (' ' :: (paddedDigits 2 d.hour ++ rest)).dropWhile
      (fun c => isGap c || c = 'T') = paddedDigits 2 d.hour ++ rest := by
    rw [List.dropWhile_cons_of_pos (by decide)]
    exact dropWhile_paddedDigits _ 1 d.hour rest not_separator_of_isDigit
  have late : firstYear ≤ (d.year : Int) := by
    unfold firstYear
    omega
  simp [dateTimeCount?, DateTime.chars, readDay, blank, readTime, late]

/-- The count of a date and time has the days of the calendar and the seconds of the day. -/
theorem count_eq (d : DateTime) : (⟨d.year, d.month, d.day⟩ : Day).count +
    (⟨d.hour, d.minute, d.second * 1000, 0⟩ : Time).count =
      1000 * d.seconds + 210866760000000 := by
  have start := daysBeforeYear_eq 1970
  have day := count_day d.year d.month d.day d.month_le d.day_le.1
  have time : (⟨d.hour, d.minute, d.second * 1000, 0⟩ : Time).count =
      1000 * (d.hour * 3600 + d.minute * 60 + d.second : Nat) := by
    simp only [Time.count]
    omega
  rw [day, time, DateTime.seconds, DateTime.daysBefore]
  omega

/-- No date of the years up to 9999 lies outside of the count of days. -/
theorem count_bounds (d : DateTime) :
    0 ≤ 1000 * d.seconds + 210866760000000 ∧
      1000 * d.seconds + 210866760000000 ≤ lastCount := by
  have start := daysBeforeYear_eq 1970
  have whole := daysBeforeYear_eq 10000
  have within := d.day_le_yearLength
  have next : daysBeforeYear (d.year + 1) = daysBeforeYear d.year + yearLength d.year := rfl
  have last : daysBeforeYear (d.year + 1) ≤ daysBeforeYear 10000 :=
    daysBeforeYear_mono (Nat.succ_le_succ d.year_le)
  have first := d.day_le.1
  have hour := d.hour_lt
  have minute := d.minute_lt
  have second := d.second_lt
  unfold lastCount DateTime.seconds DateTime.daysBefore
  omega

/-- The text of a date and time is read as the seconds of the calendar. -/
theorem seconds?_text (d : DateTime) : seconds? d.text = some d.seconds := by
  have all : d.chars.takeWhile (· ≠ '\x00') = d.chars :=
    List.takeWhile_eq_self_iff.mpr fun c member => decide_eq_true (no_nul d c member)
  have bounds := count_bounds d
  have counted : count? d.text = some (1000 * d.seconds + 210866760000000) := by
    simp only [count?, DateTime.text, String.toList_ofList, all, dateTimeCount?_chars, count_eq,
      Option.filter_some, bounds, and_self, decide_true, if_true]
  have exactly : (1000 * d.seconds + 210866760000000) / 1000 - 210866760000 = d.seconds := by
    omega
  rw [seconds?, counted, Option.map_some, exactly]

/-- No digit is taken for a sign. -/
theorem splitSign_of_isDigit (c : Char) (rest : List Char) (digit : c.isDigit = true) :
    splitSign (c :: rest) = (false, c :: rest) := by
  unfold splitSign
  split
  · rename_i heading
    obtain rfl := (List.cons.inj heading).1
    exact nomatch digit
  · rename_i heading
    obtain rfl := (List.cons.inj heading).1
    exact nomatch digit
  · rfl

/-- The text of a date and time begins with the number of its year, and more follows. -/
theorem not_whole_chars (d : DateTime) : (scanNumeric d.chars).whole = false := by
  have unblank (rest : List Char) := dropWhile_paddedDigits isGap 3 d.year rest fun c digit =>
    (Bool.or_eq_false_iff.mp (not_separator_of_isDigit c digit)).1
  have year (rest : List Char) : (paddedDigits 4 d.year ++ '-' :: rest).dropWhile Char.isDigit =
      '-' :: rest := by
    rw [List.dropWhile_append_of_pos (isDigit_of_mem_paddedDigits 4 d.year)]
    rfl
  have unsigned (rest : List Char) : splitSign (paddedDigits 4 d.year ++ rest) =
      (false, paddedDigits 4 d.year ++ rest) := by
    obtain ⟨c, others, split, digit⟩ := paddedDigits_eq_cons 3 d.year
    rw [split]
    exact splitSign_of_isDigit c _ digit
  have dash (rest : List Char) : ('-' :: rest).dropWhile isGap = '-' :: rest := rfl
  simp [scanNumeric, DateTime.chars, unblank, unsigned, year, dash]

end Stamp

/-- A column of numbers keeps the text of a date and time as it is. -/
theorem DateTime.apply_numeric_text (d : DateTime) :
    Affinity.numeric.apply (.text d.text) = .text d.text := by
  have unfinished : (Number.scanNumeric d.text.toList).whole = false := by
    rw [text, String.toList_ofList]
    exact Stamp.not_whole_chars d
  simp [Affinity.apply, Cell.settleText, unfinished]

/-- The time between two dates is the age of the earlier one at the later one, in milliseconds. No
age of these years is too great for a word. -/
theorem DateTime.ageOf_millis (now d : DateTime) :
    (Instant.ofMillis (1000 * now.seconds)).ageOf (1000 * d.seconds) =
      1000 * (now.seconds - d.seconds) := by
  have reading := Stamp.count_bounds now
  have stamp := Stamp.count_bounds d
  unfold Stamp.lastCount at reading stamp
  simp only [Instant.ageOf, Instant.millis_ofMillis, Word.saturate, Word.least, Word.greatest]
  omega

namespace Table

/-- The table has the first published layout with its indexes, and its rows obey it: their cells
have passed through the affinities of the columns, required ones are filled, and no two rows clash.
-/
structure OfFirstLayout (t : Table) : Prop where
  dated : t.layout = .dated
  indexed : t.indexed = true
  stored : ∀ row ∈ t.rows, row.toContent.stored .dated = row.toContent
  filled : ∀ row ∈ t.rows, row.toContent.firstMissing? .dated = none
  unclashing : Row.anyClash t.rows = false

namespace OfFirstLayout

variable {t : Table} (first : t.OfFirstLayout)

include first

/-- No row lacks a topic, an endpoint or a key. -/
theorem complete (row : Row) (member : row ∈ t.rows) : row.Complete := by
  have filled := first.filled row member
  simp only [Content.firstMissing?, Content.cell, Layout.columns, Layout.required, Column.all,
    List.find?_eq_none, List.mem_cons, List.not_mem_nil, Bool.and_eq_true, decide_eq_true_iff,
    beq_iff_eq, not_and] at filled
  exact ⟨filled .topic (by simp) (by simp), filled .endpoint (by simp) (by simp),
    filled .keyAuth (by simp) (by simp), filled .keyP256dh (by simp) (by simp)⟩

/-- Text columns hold the topic of a row as it is. -/
theorem topic_stored (row : Row) (member : row ∈ t.rows) :
    Affinity.text.apply row.topic = row.topic :=
  congrArg Content.topic (first.stored row member)

/-- Text columns hold the endpoint of a row as it is. -/
theorem endpoint_stored (row : Row) (member : row ∈ t.rows) :
    Affinity.text.apply row.endpoint = row.endpoint :=
  congrArg Content.endpoint (first.stored row member)

/-- Topic and endpoint tell the rows apart as text columns store them. -/
theorem distinct : (t.rows.map fun row => row.settledKey).Nodup := by
  have apart := (Row.anyClash_eq_false_iff t.rows).mp first.unclashing
  rw [List.Nodup, List.pairwise_map]
  refine apart.imp_of_mem fun {a b} firstMember secondMember unclashing same => unclashing ?_
  obtain ⟨topic, endpoint⟩ := Prod.mk.inj same
  have complete := first.complete a firstMember
  have sameTopic := (Cell.same_apply_text_iff a.topic b.topic).mpr topic
  have sameEndpoint := (Cell.same_apply_text_iff a.endpoint b.endpoint).mpr endpoint
  rw [first.topic_stored a firstMember, first.topic_stored b secondMember] at sameTopic
  rw [first.endpoint_stored a firstMember, first.endpoint_stored b secondMember] at sameEndpoint
  simp [Content.clashes, complete.topic, complete.endpoint, sameTopic, sameEndpoint]

end OfFirstLayout

end Table

namespace Database

/-- A rebuild of a table of the first published layout succeeds, if nothing hinders it. -/
theorem upgradable_of_first_layout (db : Database) (version : Nat) (t : Table)
    (kept : db.subscriptions = some t) (first : t.OfFirstLayout) (unhindered : db.Unhindered) :
    db.Upgradable version t := by
  have flagged : t.layout.flagged = true := by
    rw [first.dated]
    rfl
  exact unhindered.upgradable (oldTable_of_kept db version t kept) flagged first.complete
    first.distinct fun _ => .inl first.indexed

/-- The row has become the other one, and a date and time that it was stamped with has become the
milliseconds of the calendar since 1970. -/
structure Dates (before after : Row) : Prop where
  id : after.id = before.id
  updatedAt : ∀ d : DateTime, before.updatedAt = .text d.text →
    after.updatedAt = .integer (1000 * d.seconds)

/-- The copy of a row has the stamp of the row in milliseconds. -/
theorem dates_copied (row : Row) : Dates row row.copied where
  id := rfl
  updatedAt d stamped := by
    simp [Row.copied, Content.rebuilt, Cell.rebuiltStamp, stamped, Stamp.seconds?_text,
      Affinity.apply, Int.mul_comm]

/-- A table of the first published layout is brought up to date, and whatever the layout of an old
table: what was stamped with a date and time of the years 0 to 9999 is then stamped with a thousand
times the seconds of the calendar since the start of 1970. Such texts are stored as they are. They
are in the order of the stamps they become, and the ages of these stamps are the times that lay
between the dates. -/
theorem update_converts_dates (db : Database) (version : Nat) (t : Table)
    (old : db.currentVersion = .ok version) (less : version < latestVersion)
    (kept : db.subscriptions = some t) :
    (t.OfFirstLayout → db.Unhindered → db.update.result = .ok ()) ∧
    (db.update.result = .ok () → ∃ copy, db.update.database.subscriptions = some copy ∧
      List.Forall₂ Dates t.rows copy.rows) ∧
    (∀ d : DateTime, (Layout.dated.affinity .updatedAt).apply (.text d.text) = .text d.text) ∧
    (∀ a b : DateTime, (Cell.text a.text).order (.text b.text) =
      (Cell.integer (1000 * a.seconds)).order (.integer (1000 * b.seconds))) ∧
    ∀ now d : DateTime, (Instant.ofMillis (1000 * now.seconds)).ageOf (1000 * d.seconds) =
      1000 * (now.seconds - d.seconds) := by
  refine ⟨?succeeds, ?converts, DateTime.apply_numeric_text, ?ordered, DateTime.ageOf_millis⟩
  case succeeds =>
    intro first unhindered
    have fit := upgradable_of_first_layout db version t kept first unhindered
    exact (update_upgradable old less t fit).1
  case converts =>
    intro done
    obtain ⟨found, fit⟩ := upgradable_of_update old less done
    obtain rfl : found = t := fit.eq_of_kept kept
    refine ⟨rebuiltTable found, ?_, ?_⟩
    · rw [(update_upgradable old less found fit).2]
      rfl
    · rw [rows_rebuiltTable, List.forall₂_map_right_iff, List.forall₂_same]
      exact fun row _ => dates_copied row
  case ordered =>
    intro a b
    rw [a.order_text b]
    change compare a.seconds b.seconds = compare (1000 * a.seconds) (1000 * b.seconds)
    rcases Int.lt_trichotomy a.seconds b.seconds with less | same | more
    · rw [compare_lt_iff_lt.mpr less, compare_lt_iff_lt.mpr (by omega)]
    · rw [same, compare_eq_iff_eq.mpr rfl, compare_eq_iff_eq.mpr rfl]
    · rw [compare_gt_iff_gt.mpr more, compare_gt_iff_gt.mpr (by omega)]

/-! Three rows of the first published layout are stamped on the leap day of the year zero, in the
last second before 1970, and in 2024. -/

/-- The leap day of the year zero. -/
def leapDay : DateTime :=
  ⟨0, 2, 29, 0, 0, 0, by decide, by decide, by decide, by decide, by decide, by decide⟩

/-- The last second before 1970. -/
def lastSecond : DateTime :=
  ⟨1969, 12, 31, 23, 59, 59, by decide, by decide, by decide, by decide, by decide, by decide⟩

/-- A second in 2024. -/
def laterSecond : DateTime :=
  ⟨2024, 1, 2, 3, 4, 5, by decide, by decide, by decide, by decide, by decide, by decide⟩

/-- A row that is stamped with a date and time. -/
def stampedRow (endpoint : String) (d : DateTime) (id : Int) : Row where
  topic := .text "news"
  userId := .null
  endpoint := .text endpoint
  keyAuth := .text "auth"
  keyP256dh := .text "p256dh"
  updatedAt := .text d.text
  warningSent := .integer 0
  id := id

/-- The table with the three rows. -/
def stampedTable : Table where
  layout := .dated
  indexed := true
  rows := [stampedRow "https://push.example/a" leapDay 1,
    stampedRow "https://push.example/b" lastSecond 2,
    stampedRow "https://push.example/c" laterSecond 3]
  counter := 3
  guard := none

/-- The database that holds the table. -/
def stampedDatabase : Database := ofFirstVersion stampedTable

/-- The three dates become milliseconds, two of them before 1970. -/
theorem stamped_dates_converted :
    stampedDatabase.currentVersion = .ok 1 ∧ 1 < latestVersion ∧
      stampedDatabase.subscriptions = some stampedTable ∧ stampedTable.OfFirstLayout ∧
      stampedDatabase.Unhindered ∧
      ∃ copy, stampedDatabase.update.database.subscriptions = some copy ∧
        (copy.rows.map fun row => row.updatedAt) =
          [.integer (-62162121600000), .integer (-1000), .integer 1704164645000] := by
  have old : stampedDatabase.currentVersion = .ok 1 := by decide +kernel
  have kept : stampedDatabase.subscriptions = some stampedTable := rfl
  have first : stampedTable.OfFirstLayout :=
    ⟨rfl, rfl, by decide +kernel, by decide +kernel, by decide +kernel⟩
  have unhindered : stampedDatabase.Unhindered :=
    { copyName := rfl
      indexNames := fun _ _ => rfl
      tableName := nofun
      stampsName := nofun
      stampsKeyed := fun stamps kept => by
        rw [← Option.some.inj kept, VersionTable.keyed_withStamp]
        rfl
      resolved := nofun }
  obtain ⟨succeeds, converts, _⟩ :=
    update_converts_dates stampedDatabase 1 stampedTable old (by decide) kept
  obtain ⟨⟨layout, indexed, rows, counter, guard⟩, stored, dates⟩ :=
    converts (succeeds first unhindered)
  refine ⟨old, by decide, kept, first, unhindered, _, stored, ?_⟩
  have stamps : leapDay.seconds = -62162121600 ∧ lastSecond.seconds = -1 ∧
      laterSecond.seconds = 1704164645 := by
    decide +kernel
  obtain _ | ⟨leap, _ | ⟨last, _ | ⟨later, ⟨⟩⟩⟩⟩ := dates
  simp [leap.updatedAt _ rfl, last.updatedAt _ rfl, later.updatedAt _ rfl, stamps]

end Database
end PushLedger
