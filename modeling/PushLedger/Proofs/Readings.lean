import PushLedger.Proofs.Documents

/-!
# What is read from a value

A text is read from a string that says it, an integer from a number without point and exponent that is
within its bounds, and nothing from a value of another kind. Nothing broken is read, so that what is
accepted was written.
-/

namespace PushLedger.Json

/-! ## Texts -/

namespace Piece

/-- What a string says is its text. -/
theorem Says.text? {pieces : List Piece} {s : String} (said : Says pieces s.toList) :
    text? pieces = some s := by
  simp [Piece.text?, said.chars?]

/-- The text of a string that was written is what the string says. -/
theorem AllWritten.said {pieces : List Piece} {text : List Char} (written : AllWritten pieces text)
    {s : String} (read : text? pieces = some s) : Says pieces s.toList := by
  obtain ⟨chars, found, rfl⟩ := Option.map_eq_some_iff.mp read
  rw [String.toList_ofList]
  exact (chars?_eq_some_iff (fun _ => written.unit_lt) chars).mp found

end Piece

/-- What is made of a result is a success exactly if the result is. -/
theorem map_eq_ok_iff {ε α β : Type} (f : α → β) (result : Except ε α) (b : β) :
    result.map f = .ok b ↔ ∃ a, result = .ok a ∧ f a = b := by
  cases result <;> simp [Except.map]

/-- What does not fit is never accepted. -/
theorem mismatch_ne_ok {α : Type} (value : Value) (expected : Expected) (a : α) :
    mismatch value expected ≠ .ok a := by
  unfold mismatch
  split
  · exact nofun
  · exact nofun
  · split <;> exact nofun
  · split <;> exact nofun
  · exact nofun
  · exact nofun
  · exact nofun

namespace Value

/-- The value is a string that says the text. -/
def SaysText (value : Value) (s : String) : Prop :=
  ∃ pieces, value = .string pieces ∧ Piece.Says pieces s.toList

/-- A text is read from a string that has one. -/
theorem readString_eq_ok_iff (value : Value) (expected : Expected) (s : String) :
    value.readString expected = .ok s ↔
      ∃ pieces, value = .string pieces ∧ Piece.text? pieces = some s := by
  cases value with
  | string pieces =>
    simp only [readString, string.injEq, exists_eq_left']
    cases Piece.text? pieces <;> simp
  | _ => simp only [readString, mismatch_ne_ok, reduceCtorEq, false_and, exists_false]

/-- A text is read from a string that was written exactly if the string says the text. -/
theorem readString_ok_iff {value : Value} {text : List Char} (written : value.Written text)
    (expected : Expected) (s : String) : value.readString expected = .ok s ↔ value.SaysText s := by
  rw [readString_eq_ok_iff]
  refine exists_congr fun pieces => and_congr_right ?_
  rintro rfl
  obtain _ | _ | _ | _ | ⟨_, _, pieceTexts⟩ := written
  exact ⟨pieceTexts.said, Piece.Says.text?⟩

/-- A value that says a text is read as the text. -/
theorem SaysText.readString {value : Value} {s : String} (said : value.SaysText s)
    (expected : Expected) : value.readString expected = .ok s := by
  obtain ⟨pieces, rfl, said⟩ := said
  exact (readString_eq_ok_iff _ expected s).mpr ⟨pieces, rfl, said.text?⟩

/-- A value from which a text is read is not broken. -/
theorem sound_of_readString {expected : Expected} (value : Value) (s : String)
    (read : value.readString expected = .ok s) : value.sound = true := by
  obtain ⟨_, rfl, _⟩ := (readString_eq_ok_iff value expected s).mp read
  rfl

/-! ## Integers -/

/-- The value is a whole number without a sign, and fits an unsigned word. -/
def SaysUnsigned (value : Value) (n : Nat) : Prop :=
  ∃ digits, value = .number ⟨false, digits, [], none⟩ ∧ Number.digitsValue digits = n ∧
    n ≤ Word.greatestUnsigned

/-- An integer is read from a number that is one, within the bounds. -/
theorem readInteger_ok_iff (value : Value) (expected : Expected) (least greatest n : Int) :
    value.readInteger expected least greatest = .ok n ↔
      ∃ numeral, value = .number numeral ∧ numeral.integer? = some n ∧ least ≤ n ∧ n ≤ greatest := by
  cases value with
  | number numeral =>
    simp only [readInteger, number.injEq, exists_eq_left']
    cases numeral.integer? with
    | none => simpa using mismatch_ne_ok _ _ n
    | some m =>
      by_cases bounded : least ≤ m ∧ m ≤ greatest
      · simp only [bounded, and_self, if_true, Except.ok.injEq, Option.some.injEq]
        exact ⟨fun same => ⟨same, same ▸ bounded⟩, And.left⟩
      · simp only [bounded, if_false, Option.some.injEq]
        refine ⟨nofun, ?_⟩
        rintro ⟨rfl, inside⟩
        exact absurd inside bounded
  | _ => simp only [readInteger, mismatch_ne_ok, reduceCtorEq, false_and, exists_false]

/-- A value from which an integer is read is not broken. -/
theorem sound_of_readInteger {expected : Expected} {least greatest : Int} (value : Value) (n : Int)
    (read : value.readInteger expected least greatest = .ok n) : value.sound = true := by
  obtain ⟨_, rfl, _⟩ := (readInteger_ok_iff value expected least greatest n).mp read
  rfl

/-- A number is an integer that is not below zero exactly if it has neither sign, point nor exponent,
and fits an unsigned word. -/
theorem integer?_natural_iff (numeral : Numeral) (n : Nat) :
    numeral.integer? = some (n : Int) ↔
      numeral = ⟨false, numeral.whole, [], none⟩ ∧ Number.digitsValue numeral.whole = n ∧
        n ≤ Word.greatestUnsigned := by
  obtain ⟨negative, whole, fraction, exponent⟩ := numeral
  simp only [Numeral.integer?, Bool.and_eq_true, List.isEmpty_iff, Option.isNone_iff_eq_none,
    Numeral.mk.injEq, true_and]
  by_cases plain : fraction = [] ∧ exponent = none
  · rw [if_pos plain]
    cases negative with
    | true =>
      simp only [if_true, reduceCtorEq, false_and, iff_false]
      split
      · rw [Option.some.injEq]
        omega
      · exact nofun
    | false =>
      simp only [reduceCtorEq, if_false, plain, and_self, true_and]
      split
      · rename_i fits
        simp only [Option.some.injEq, Int.ofNat_inj]
        exact ⟨fun same => ⟨same, same ▸ fits⟩, And.left⟩
      · rename_i large
        simp only [reduceCtorEq, false_iff, not_and]
        rintro rfl
        exact large
  · rw [if_neg plain]
    simp [plain]

/-- An age is read from a whole number without a sign. -/
theorem readUnsigned_ok_iff (value : Value) (n : Nat) :
    value.readUnsigned = .ok n ↔ value.SaysUnsigned n := by
  have mapped : value.readUnsigned = .ok n ↔
      value.readInteger .unsigned 0 Word.greatestUnsigned = .ok (n : Int) := by
    rw [readUnsigned, map_eq_ok_iff]
    constructor
    · rintro ⟨m, read, rfl⟩
      obtain ⟨_, _, _, nonnegative, _⟩ := (readInteger_ok_iff _ _ _ _ m).mp read
      rwa [Int.toNat_of_nonneg nonnegative]
    · exact fun read => ⟨n, read, Int.toNat_natCast n⟩
  rw [mapped, readInteger_ok_iff]
  constructor
  · rintro ⟨numeral, rfl, integer, _⟩
    obtain ⟨plain, amount, bounded⟩ := (integer?_natural_iff numeral n).mp integer
    exact ⟨numeral.whole, congrArg _ plain, amount, bounded⟩
  · rintro ⟨digits, rfl, amount, bounded⟩
    refine ⟨_, rfl, (integer?_natural_iff _ n).mpr ⟨rfl, amount, bounded⟩, ?_⟩
    omega

/-- A value from which an age is read is not broken. -/
theorem sound_of_readUnsigned (value : Value) (n : Nat) (read : value.readUnsigned = .ok n) :
    value.sound = true := by
  obtain ⟨_, rfl, _⟩ := (readUnsigned_ok_iff value n).mp read
  rfl

/-- The digits of a number amount to the number. -/
theorem digitsValue_digitChars (n : Nat) : Number.digitsValue (Number.digitChars n) = n :=
  Nat.ofDigitChars_ten_toDigits

/-- A number that fits an unsigned word states itself. -/
theorem saysUnsigned_ofInt {n : Nat} (bounded : n ≤ Word.greatestUnsigned) :
    (ofInt n).SaysUnsigned n := by
  refine ⟨Number.digitChars n, ?_, digitsValue_digitChars n, bounded⟩
  have positive : ¬ (n : Int) < 0 := by omega
  simp [ofInt, positive]

/-- A number within the signed words is read as itself. -/
theorem readSigned_ofInt {n : Int} (bounded : Word.Holds n) : (ofInt n).readSigned = .ok n := by
  refine (readInteger_ok_iff _ _ _ _ n).mpr ⟨_, rfl, ?_, bounded⟩
  obtain ⟨least, greatest⟩ := bounded
  unfold Word.least at least
  unfold Word.greatest at greatest
  simp only [Numeral.integer?, digitsValue_digitChars, List.isEmpty_nil, Option.isNone_none,
    Bool.and_self, if_true, decide_eq_true_eq]
  split
  · rw [if_pos (by unfold Word.greatest; omega)]
    congr 1
    omega
  · rw [if_pos (by unfold Word.greatestUnsigned; omega)]
    congr 1
    omega

/-! ## Truth values and texts that may be absent -/

/-- A value from which a truth value is read is not broken. -/
theorem sound_of_readBoolean (value : Value) (b : Bool) (read : value.readBoolean = .ok b) :
    value.sound = true := by
  cases value with
  | boolean _ => rfl
  | _ => simp only [readBoolean, mismatch_ne_ok] at read

/-- A value that says a text is read as the text where it may be absent. -/
theorem SaysText.readOptional {value : Value} {s : String} (said : value.SaysText s) :
    value.readOptional = .ok (some s) := by
  obtain ⟨pieces, rfl, said⟩ := said
  simp [Value.readOptional, Value.readString, said.text?, Except.map]

/-- A value from which a text or nothing is read is not broken. -/
theorem sound_of_readOptional (value : Value) (s : Option String)
    (read : value.readOptional = .ok s) : value.sound = true := by
  unfold readOptional at read
  split at read
  · rfl
  · obtain ⟨t, readString, _⟩ := (map_eq_ok_iff _ _ _).mp read
    exact sound_of_readString _ t readString

end Value

end PushLedger.Json
