import PushLedger.Command.Arguments
import PushLedger.Number.Numeric
import PushLedger.Proofs.Statements

/-!
# What the command line accepts

The usage of the command is said once more without its parser: which arguments are left when a leading
flag is taken away together with its directory, how many they may be, and which texts are numbers. The
parser accepts these command lines and no others, and reads from them what the usage says.

What the command can be asked for can also be written down as arguments again. Only a database that is
called like the flag cannot be asked for in this way, unless a directory for the log comes before it.
-/

namespace PushLedger.Command

/-! ## Numbers -/

/-- The text is a number: one digit or more, with a plus sign in front or without one, and not beyond
the unsigned words. -/
def IsNumber (text : String) (n : Nat) : Prop :=
  ∃ digits, (text.toList = digits ∨ text.toList = '+' :: digits) ∧ digits ≠ [] ∧
    (∀ c ∈ digits, c.isDigit = true) ∧ Number.digitsValue digits = n ∧ n ≤ Word.greatestUnsigned

/-- More digits do not make a number smaller. -/
theorem le_ofDigitChars (digits : List Char) (start : Nat) :
    start ≤ Nat.ofDigitChars 10 digits start := by
  induction digits generalizing start with
  | nil => exact Nat.le_refl start
  | cons c rest inductionHypothesis =>
    have longer : start ≤ 10 * start + (c.toNat - '0'.toNat) := by omega
    exact Nat.le_trans longer (inductionHypothesis _)

/-- Digits are read on if all of them are digits and the whole number fits. That a number on the way
is too large already says that the whole one is. -/
theorem readDigits_ok_iff (digits : List Char) (start n : Nat)
    (fits : start ≤ Word.greatestUnsigned) :
    readDigits digits start = .ok n ↔ (∀ c ∈ digits, c.isDigit = true) ∧
      Nat.ofDigitChars 10 digits start = n ∧ n ≤ Word.greatestUnsigned := by
  induction digits generalizing start with
  | nil =>
    constructor
    · intro done
      obtain rfl := Except.ok.inj done
      exact ⟨nofun, rfl, fits⟩
    · rintro ⟨_, rfl, _⟩
      rfl
  | cons c rest inductionHypothesis =>
    have next : Nat.ofDigitChars 10 (c :: rest) start =
        Nat.ofDigitChars 10 rest (start * 10 + (c.toNat - '0'.toNat)) := by
      rw [Nat.mul_comm]
      rfl
    rw [readDigits, next, List.forall_mem_cons]
    cases digit : c.isDigit with
    | false => simp
    | true =>
      dsimp only
      by_cases small : start * 10 + (c.toNat - '0'.toNat) ≤ Word.greatestUnsigned
      · rw [if_pos small]
        simpa using inductionHypothesis _ small
      · rw [if_neg small]
        constructor
        · exact nofun
        · rintro ⟨_, rfl, bounded⟩
          exact absurd (Nat.le_trans (le_ofDigitChars rest _) bounded) small

/-- The reader of numbers accepts the numbers. -/
theorem readNumber_ok_iff (text : String) (n : Nat) :
    readNumber text = .ok n ↔ IsNumber text n := by
  have noDigit : '+'.isDigit = false := by decide
  unfold readNumber IsNumber
  split
  · rename_i empty
    constructor
    · exact nofun
    · rintro ⟨digits, spelled | spelled, filled, _⟩
      · exact absurd (spelled.symm.trans empty) filled
      · exact nomatch spelled.symm.trans empty
  · rename_i sign
    constructor
    · exact nofun
    · rintro ⟨digits, spelled | spelled, filled, all, _⟩
      · rw [← spelled, sign, List.forall_mem_cons, noDigit] at all
        exact nomatch all.1
      · exact absurd (List.cons.inj (spelled.symm.trans sign)).2 filled
  · rename_i digits filled sign
    rw [readDigits_ok_iff _ _ _ (Nat.zero_le _)]
    constructor
    · rintro ⟨all, value, bounded⟩
      exact ⟨digits, .inr sign, filled, all, value, bounded⟩
    · rintro ⟨others, spelled | spelled, _, all, value, bounded⟩
      · rw [← spelled, sign, List.forall_mem_cons, noDigit] at all
        exact nomatch all.1
      · obtain rfl := (List.cons.inj (spelled.symm.trans sign)).2
        exact ⟨all, value, bounded⟩
  · rename_i filled unsigned signed
    rw [readDigits_ok_iff _ _ _ (Nat.zero_le _)]
    constructor
    · rintro ⟨all, value, bounded⟩
      exact ⟨text.toList, .inl rfl, filled, all, value, bounded⟩
    · rintro ⟨digits, spelled | spelled, others, all, value, bounded⟩
      · subst spelled
        exact ⟨all, value, bounded⟩
      · exact absurd spelled (signed digits)

/-- An age among the arguments is read if it is a number, and named in the refusal if it is not. -/
theorem readAge_ok_iff (name value : String) (n : Nat) :
    readAge name value = .ok n ↔ IsNumber value n := by
  rw [← readNumber_ok_iff]
  unfold readAge
  cases readNumber value <;> simp

/-! ## Arguments -/

/-- The arguments other than the flag ask for the configuration: by the path alone, with the default
ages, or by the path and two numbers. -/
inductive Asks : List String → Configuration → Prop
  | path (path : String) : Asks [path] (.ofPath path)
  | ages (path warning expire : String) (warningAfter expireAfter : Nat)
      (first : IsNumber warning warningAfter) (second : IsNumber expire expireAfter) :
      Asks [path, warning, expire] { path, sweep := { warningAfter, expireAfter } }

/-- The directory that follows a leading flag. -/
def flagged (arguments : List String) : Option String :=
  if arguments.head? = some logFlag then arguments[1]? else none

/-- What is left without a leading flag and the argument after it. -/
def unflagged (arguments : List String) : List String :=
  if arguments.head? = some logFlag then arguments.drop 2 else arguments

/-- The reader of configurations accepts what asks for one. -/
theorem readConfiguration_ok_iff (arguments : List String) (c : Configuration) :
    readConfiguration arguments = .ok c ↔ Asks arguments c := by
  constructor
  · intro done
    unfold readConfiguration at done
    split at done
    · obtain rfl := Except.ok.inj done
      exact .path _
    · obtain ⟨warningAfter, first, rest⟩ := (bind_eq_ok_iff _ _ _).mp done
      obtain ⟨expireAfter, second, same⟩ := (bind_eq_ok_iff _ _ _).mp rest
      obtain rfl := Except.ok.inj same
      exact .ages _ _ _ _ _ ((readAge_ok_iff _ _ _).mp first) ((readAge_ok_iff _ _ _).mp second)
    · exact nomatch done
  · intro asks
    cases asks with
    | path path => rfl
    | ages path warning expire warningAfter expireAfter first second =>
      have readFirst := (readAge_ok_iff "warning-secs" _ _).mpr first
      have readSecond := (readAge_ok_iff "expire-secs" _ _).mpr second
      simp only [readConfiguration, readFirst, readSecond, ok_bind, pure_eq_ok]

/-- The flag is split off with its directory, unless it stands alone. -/
theorem splitFlag_ok_iff (arguments rest : List String) (directory : Option String) :
    splitFlag arguments = .ok (directory, rest) ↔
      arguments ≠ [logFlag] ∧ directory = flagged arguments ∧ rest = unflagged arguments := by
  unfold splitFlag flagged unflagged
  split
  · rename_i only
    by_cases flag : only = logFlag <;> simp [flag, eq_comm]
  · rename_i first second others
    by_cases flag : first = logFlag <;> simp [flag, eq_comm]
  · simp [eq_comm]

/-- The parser accepts what the usage says. -/
theorem parse_ok_iff (arguments : List String) (a : Arguments) :
    Arguments.parse arguments = .ok a ↔ arguments ≠ [logFlag] ∧
      a.logDirectory = flagged arguments ∧ Asks (unflagged arguments) a.configuration := by
  unfold Arguments.parse
  rw [bind_eq_ok_iff]
  constructor
  · rintro ⟨⟨directory, rest⟩, split, done⟩
    obtain ⟨alone, rfl, rfl⟩ := (splitFlag_ok_iff _ _ _).mp split
    obtain ⟨c, read, same⟩ := (bind_eq_ok_iff _ _ _).mp done
    obtain rfl := Except.ok.inj same
    exact ⟨alone, rfl, (readConfiguration_ok_iff _ _).mp read⟩
  · rintro ⟨alone, directory, asks⟩
    refine ⟨_, (splitFlag_ok_iff _ _ _).mpr ⟨alone, rfl, rfl⟩, ?_⟩
    simp only [(readConfiguration_ok_iff _ _).mpr asks, ok_bind, pure_eq_ok, ← directory]

/-! ## Arguments that are written down -/

/-- A number is written as a number. -/
theorem isNumber_toString (n : Nat) (bounded : n ≤ Word.greatestUnsigned) :
    IsNumber (toString n) n := by
  refine ⟨Nat.toDigits 10 n, .inl (by simp), ?_, ?_, Nat.ofDigitChars_ten_toDigits, bounded⟩
  · exact Nat.toDigits_ne_nil
  · intro c member
    exact Nat.isDigit_of_mem_toDigits (by decide) (by decide) member

namespace Arguments

/-- Both ages fit into unsigned words. -/
def Bounded (a : Arguments) : Prop :=
  a.configuration.sweep.warningAfter ≤ Word.greatestUnsigned ∧
    a.configuration.sweep.expireAfter ≤ Word.greatestUnsigned

/-- The path and the ages that are written down ask for the configuration. -/
theorem asks_written (a : Arguments) (bounded : a.Bounded) :
    Asks [a.configuration.path, toString a.configuration.sweep.warningAfter,
      toString a.configuration.sweep.expireAfter] a.configuration :=
  .ages _ _ _ _ _ (isNumber_toString _ bounded.1) (isNumber_toString _ bounded.2)

/-- What is written down is read again, unless the path is taken for the flag. -/
theorem parse_render_iff (a : Arguments) (bounded : a.Bounded) :
    parse a.render = .ok a ↔ ¬ (a.logDirectory = none ∧ a.configuration.path = logFlag) := by
  have asks := a.asks_written bounded
  rw [parse_ok_iff]
  unfold render
  cases directory : a.logDirectory with
  | some directory => simpa [flagged, unflagged] using asks
  | none =>
    by_cases named : a.configuration.path = logFlag
    · simp [flagged, named]
    · simpa [flagged, unflagged, named] using asks

/-- The command line is accepted exactly if it is not the flag alone and what is left without a
leading flag and its directory is a path, or a path and two numbers; it then says this path, this
directory and these numbers or the default ages. Conversely, whatever can be asked for with ages
that fit is read from the arguments that are written for it, unless it has no directory and its path
is the flag. -/
theorem parse_accepts_usage :
    (∀ arguments a, parse arguments = .ok a ↔ arguments ≠ [logFlag] ∧
      a.logDirectory = flagged arguments ∧ Asks (unflagged arguments) a.configuration) ∧
    ∀ a : Arguments, a.Bounded →
      (parse a.render = .ok a ↔ ¬ (a.logDirectory = none ∧ a.configuration.path = logFlag)) :=
  ⟨parse_ok_iff, parse_render_iff⟩

/-- A database that is called like the flag, with the greatest age that can be given. -/
def flagAsPath (logDirectory : Option String) : Arguments :=
  ⟨{ path := logFlag, sweep := { warningAfter := 1, expireAfter := Word.greatestUnsigned } },
    logDirectory⟩

/-- It can be asked for if a directory comes before it, and not otherwise. -/
theorem flag_as_path_read :
    (∀ logDirectory, (flagAsPath logDirectory).Bounded) ∧
    parse ["--log-dir", "logs", "--log-dir", "1", "18446744073709551615"] =
      .ok (flagAsPath (some "logs")) ∧
    parse ["--log-dir", "1", "18446744073709551615"] ≠ .ok (flagAsPath none) := by
  have bounded (logDirectory : Option String) : (flagAsPath logDirectory).Bounded :=
    ⟨(by decide : 1 ≤ Word.greatestUnsigned), Nat.le_refl Word.greatestUnsigned⟩
  have withDirectory : (flagAsPath (some "logs")).render =
      ["--log-dir", "logs", "--log-dir", "1", "18446744073709551615"] := by decide +kernel
  have withoutDirectory : (flagAsPath none).render =
      ["--log-dir", "1", "18446744073709551615"] := by decide +kernel
  rw [← withDirectory, ← withoutDirectory]
  refine ⟨bounded, ?_, ?_⟩
  · exact (parse_accepts_usage.2 (flagAsPath (some "logs")) (bounded _)).mpr nofun
  · intro read
    exact (parse_accepts_usage.2 (flagAsPath none) (bounded _)).mp read ⟨rfl, rfl⟩

end Arguments

end PushLedger.Command
