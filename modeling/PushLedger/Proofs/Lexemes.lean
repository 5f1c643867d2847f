import Mathlib.Data.List.TakeWhile
import PushLedger.Proofs.Grammar

/-!
# Strings and numbers are read as the grammar writes them

The reader of a string and the reader of a number find what was written and leave what follows, and
what they find was written. For a string nothing more needs to be known, as its closing quote ends it.
A number has no end of its own: its digits are read as far as they go, so that what follows may not go
on with it.

What a string says is settled by its pieces alone. Their characters are the ones that the pieces
say, as long as the units have sixteen bits, and those that were written do.
-/

namespace PushLedger.Json

/-! ## What follows -/

/-- A blank, a comma or a closing bracket. -/
def closes (c : Char) : Bool := isBlank c || c = ',' || c = ']' || c = '\x7d'

/-- Nothing follows, or something that begins with a blank, a comma or a closing bracket. -/
def Ends (rest : List Char) : Prop := ∀ c ∈ rest.head?, closes c = true

/-- No digit follows. -/
def NoDigit (rest : List Char) : Prop := ∀ c ∈ rest.head?, c.isDigit = false

/-- Blanks end what stands before them. -/
theorem Blanks.ends {blanks : List Char} (blank : Blanks blanks) : Ends blanks := by
  intro c head
  simp [closes, blank c (List.mem_of_mem_head? head)]

/-- Seven characters end a number. -/
theorem mem_of_closes {c : Char} (closing : closes c = true) :
    c ∈ [' ', '\n', '\t', '\r', ',', ']', '\x7d'] := by
  simpa [closes, isBlank, or_assoc] using closing

/-- No number goes on where it ends. -/
theorem not_numeral_of_closes {c : Char} (closing : closes c = true) :
    c.isDigit = false ∧ c ≠ '.' ∧ c ≠ 'e' ∧ c ≠ 'E' := by
  have listed := mem_of_closes closing
  simp only [List.mem_cons, List.not_mem_nil, or_false] at listed
  rcases listed with rfl | rfl | rfl | rfl | rfl | rfl | rfl <;> decide

/-- A digit does not end a number, and neither does a sign. -/
theorem not_closes_of_numeral {c : Char} (begins : c.isDigit = true ∨ c = '-') :
    closes c = false := by
  cases closing : closes c with
  | false => rfl
  | true =>
    obtain digit | rfl := begins
    · exact nomatch digit.symm.trans (not_numeral_of_closes closing).1
    · exact nomatch closing

/-- Where a number ends no digit follows. -/
theorem Ends.noDigit {rest : List Char} (ends : Ends rest) : NoDigit rest :=
  fun c head => (not_numeral_of_closes (ends c head)).1

/-! ## Strings -/

namespace Piece

/-- A piece that was written is read, and then what follows it. -/
theorem Written.readPieces? {piece : Piece} {first text rest : List Char} {pieces : List Piece}
    (written : piece.Written first) (others : readPieces? text = some (pieces, rest)) :
    readPieces? (first ++ text) = some (piece :: pieces, rest) := by
  cases written with
  | plain c unquoted unescaped visible =>
    have shown : ¬ c.toNat < 0x20 := Nat.not_lt.mpr visible
    simp [Json.readPieces?, unescaped, shown, others]
  | short letter c stands =>
    have noUnit : letter ≠ 'u' := by
      rintro rfl
      exact nomatch stands
    simp [Json.readPieces?, noUnit, stands, others]
  | unit a b c d n digits => simp [Json.readPieces?, digits, others]

/-- A string is read to its closing quote exactly if it was written before the quote. -/
theorem readPieces?_eq_some_iff (text rest : List Char) (pieces : List Piece) :
    readPieces? text = some (pieces, rest) ↔
      ∃ inner, text = inner ++ '"' :: rest ∧ AllWritten pieces inner := by
  constructor
  · intro read
    fun_induction readPieces? text generalizing pieces with
    | case1 => exact nomatch read
    | case2 _ =>
      obtain ⟨rfl, rfl⟩ := Prod.mk.inj (Option.some.inj read)
      exact ⟨[], rfl, .nil⟩
    | case3 a b c d _ inductionHypothesis =>
      simp only [Option.bind_eq_bind, Option.bind_eq_some_iff, Prod.exists, Option.pure_def,
        Option.some.injEq, Prod.mk.injEq] at read
      obtain ⟨n, digits, others, _, readRest, rfl, rfl⟩ := read
      obtain ⟨inner, rfl, written⟩ := inductionHypothesis _ readRest
      exact ⟨_, rfl, .cons (.unit a b c d n digits) written⟩
    | case4 letter _ _ inductionHypothesis =>
      simp only [Option.bind_eq_bind, Option.bind_eq_some_iff, Prod.exists, Option.pure_def,
        Option.some.injEq, Prod.mk.injEq] at read
      obtain ⟨c, stands, others, _, readRest, rfl, rfl⟩ := read
      obtain ⟨inner, rfl, written⟩ := inductionHypothesis _ readRest
      exact ⟨_, rfl, .cons (.short letter c stands) written⟩
    | case5 => exact nomatch read
    | case6 c _ unquoted _ _ visible inductionHypothesis =>
      simp only [Option.bind_eq_bind, Option.bind_eq_some_iff, Prod.exists, Option.pure_def,
        Option.some.injEq, Prod.mk.injEq] at read
      obtain ⟨others, _, readRest, rfl, rfl⟩ := read
      obtain ⟨inner, rfl, written⟩ := inductionHypothesis _ readRest
      simp only [Bool.or_eq_true, decide_eq_true_eq, not_or, Nat.not_lt] at visible
      exact ⟨_, rfl, .cons (.plain c unquoted visible.1 visible.2) written⟩
  · rintro ⟨inner, rfl, written⟩
    induction written with
    | nil => simp [Json.readPieces?]
    | cons written _ inductionHypothesis =>
      rw [List.append_assoc]
      exact written.readPieces? inductionHypothesis

/-! ## What strings say -/

/-- A hexadecimal digit is below sixteen. -/
theorem hexDigit?_lt {c : Char} {n : Nat} (digit : hexDigit? c = some n) : n < 16 := by
  have bounded {least greatest : Char} (bounds : least ≤ c ∧ c ≤ greatest) :
      least.toNat ≤ c.toNat ∧ c.toNat ≤ greatest.toNat := bounds
  unfold hexDigit? at digit
  split at digit
  · rename_i bounds
    obtain ⟨least, greatest⟩ := bounded bounds
    have last : '9'.toNat = '0'.toNat + 9 := rfl
    obtain rfl := Option.some.inj digit
    omega
  split at digit
  · rename_i bounds
    obtain ⟨least, greatest⟩ := bounded bounds
    have last : 'f'.toNat = 'a'.toNat + 5 := rfl
    obtain rfl := Option.some.inj digit
    omega
  split at digit
  · rename_i bounds
    obtain ⟨least, greatest⟩ := bounded bounds
    have last : 'F'.toNat = 'A'.toNat + 5 := rfl
    obtain rfl := Option.some.inj digit
    omega
  · exact nomatch digit

/-- A unit that was written has sixteen bits. -/
theorem Written.unit_lt {n : Nat} {text : List Char} (written : (Piece.unit n).Written text) :
    n < 0x10000 := by
  obtain _ | _ | ⟨a, b, c, d, _, digits⟩ := written
  simp only [hexUnit?, Option.bind_eq_bind, Option.bind_eq_some_iff, Option.pure_def,
    Option.some.injEq] at digits
  obtain ⟨a', first, b', second, c', third, d', fourth, rfl⟩ := digits
  have := hexDigit?_lt first
  have := hexDigit?_lt second
  have := hexDigit?_lt third
  have := hexDigit?_lt fourth
  omega

/-- The units of a string that was written have sixteen bits. -/
theorem AllWritten.unit_lt {pieces : List Piece} {text : List Char} (written : AllWritten pieces text)
    {n : Nat} (listed : Piece.unit n ∈ pieces) : n < 0x10000 := by
  induction written with
  | nil => exact nomatch listed
  | cons written _ inductionHypothesis =>
    obtain rfl | later := List.mem_cons.mp listed
    · exact written.unit_lt
    · exact inductionHypothesis later

/-- No character lies between the two ranges of units that make pairs. -/
theorem toNat_cases (c : Char) : c.toNat < 0xD800 ∨ 0xDFFF < c.toNat ∧ c.toNat < 0x110000 := c.valid

/-- The character of a number outside these ranges has that number. -/
theorem toNat_ofNat {n : Nat} (valid : n < 0xD800 ∨ 0xDFFF < n ∧ n < 0x110000) :
    (Char.ofNat n).toNat = n := by
  rw [Char.ofNat, dif_pos valid]
  rfl

/-- A unit that is no half of a pair names a character by itself. -/
theorem chars?_unit {n : Nat} (noHigh : isHigh n = false) (noLow : isLow n = false)
    (rest : List Piece) : chars? (.unit n :: rest) = (chars? rest).map (Char.ofNat n :: ·) := by
  match rest with
  | [] | .char _ :: _ | .unit _ :: _ => simp [chars?, noHigh, noLow]

/-- What the pieces say are their characters. -/
theorem Says.chars? {pieces : List Piece} {text : List Char} (said : Says pieces text) :
    chars? pieces = some text := by
  induction said with
  | nil => rfl
  | char c _ inductionHypothesis => simp [Piece.chars?, inductionHypothesis]
  | unit c basic _ inductionHypothesis =>
    have valid := toNat_cases c
    have noHigh : isHigh c.toNat = false := by
      simp [isHigh]
      omega
    have noLow : isLow c.toNat = false := by
      simp [isLow]
      omega
    rw [chars?_unit noHigh noLow, inductionHypothesis, Char.ofNat_toNat]
    rfl
  | pair c beyond _ inductionHypothesis =>
    have valid := toNat_cases c
    have high : isHigh (0xD800 + (c.toNat - 0x10000) / 0x400) = true := by
      simp [isHigh]
      omega
    have low : isLow (0xDC00 + (c.toNat - 0x10000) % 0x400) = true := by
      simp [isLow]
      omega
    have named : paired (0xD800 + (c.toNat - 0x10000) / 0x400)
        (0xDC00 + (c.toNat - 0x10000) % 0x400) = c := by
      have number : 0x10000 + (0xD800 + (c.toNat - 0x10000) / 0x400 - 0xD800) * 0x400 +
          (0xDC00 + (c.toNat - 0x10000) % 0x400 - 0xDC00) = c.toNat := by omega
      rw [paired, number, Char.ofNat_toNat]
    simp [Piece.chars?, high, low, named, inductionHypothesis]

/-- A unit that is no half of a pair says its character. -/
theorem said_unit {n : Nat} {rest : List Piece} {text : List Char} (noHigh : isHigh n = false)
    (noLow : isLow n = false) (bounded : n < 0x10000) (others : Says rest text) :
    Says (.unit n :: rest) (Char.ofNat n :: text) := by
  have number : (Char.ofNat n).toNat = n := by
    refine toNat_ofNat ?_
    simp only [isHigh, isLow, Bool.and_eq_false_iff, decide_eq_false_iff_not] at noHigh noLow
    omega
  have said := Says.unit (Char.ofNat n) (number.symm ▸ bounded) others
  rwa [number] at said

/-- Both halves of a pair say their character. -/
theorem said_pair {high low : Nat} {rest : List Piece} {text : List Char}
    (isHigh : isHigh high = true) (isLow : isLow low = true) (others : Says rest text) :
    Says (.unit high :: .unit low :: rest) (paired high low :: text) := by
  simp only [Piece.isHigh, Piece.isLow, Bool.and_eq_true, decide_eq_true_eq] at isHigh isLow
  have number : (paired high low).toNat =
      0x10000 + (high - 0xD800) * 0x400 + (low - 0xDC00) := toNat_ofNat (by omega)
  have said := Says.pair (paired high low) (by omega) others
  rw [number] at said
  rwa [show 0xD800 + (0x10000 + (high - 0xD800) * 0x400 + (low - 0xDC00) - 0x10000) / 0x400 = high
    by omega, show 0xDC00 + (0x10000 + (high - 0xD800) * 0x400 + (low - 0xDC00) - 0x10000) % 0x400 =
    low by omega] at said

/-- The characters of pieces are what the pieces say, if their units have sixteen bits. -/
theorem chars?_eq_some_iff {pieces : List Piece} (bounded : ∀ n, Piece.unit n ∈ pieces → n < 0x10000)
    (text : List Char) : chars? pieces = some text ↔ Says pieces text := by
  refine ⟨fun read => ?_, Says.chars?⟩
  fun_induction chars? pieces generalizing text with
  | case1 =>
    obtain rfl := Option.some.inj read
    exact .nil
  | case2 c rest inductionHypothesis =>
    obtain ⟨others, readRest, rfl⟩ := Option.map_eq_some_iff.mp read
    exact .char c (inductionHypothesis (fun n listed => bounded n (.tail _ listed)) _ readRest)
  | case3 high low rest pair inductionHypothesis =>
    obtain ⟨others, readRest, rfl⟩ := Option.map_eq_some_iff.mp read
    obtain ⟨isHigh, isLow⟩ := Bool.and_eq_true_iff.mp pair
    refine said_pair isHigh isLow (inductionHypothesis (fun n listed => ?_) _ readRest)
    exact bounded n (.tail _ (.tail _ listed))
  | case4 => exact nomatch read
  | case5 high low rest _ single inductionHypothesis =>
    obtain ⟨others, readRest, rfl⟩ := Option.map_eq_some_iff.mp read
    obtain ⟨noHigh, noLow⟩ := Bool.or_eq_false_iff.mp ((Bool.not_eq_true _).mp single)
    refine said_unit noHigh noLow (bounded _ List.mem_cons_self)
      (inductionHypothesis (fun n listed => ?_) _ readRest)
    exact bounded n (.tail _ listed)
  | case6 => exact nomatch read
  | case7 n rest _ single inductionHypothesis =>
    obtain ⟨others, readRest, rfl⟩ := Option.map_eq_some_iff.mp read
    obtain ⟨noHigh, noLow⟩ := Bool.or_eq_false_iff.mp ((Bool.not_eq_true _).mp single)
    refine said_unit noHigh noLow (bounded _ List.mem_cons_self)
      (inductionHypothesis (fun n listed => ?_) _ readRest)
    exact bounded n (.tail _ listed)

end Piece

/-! ## Numbers -/

/-- Digits are read as far as they go. -/
theorem readDigits?_eq_some_iff (text digits rest : List Char) :
    readDigits? text = some (digits, rest) ↔
      text = digits ++ rest ∧ Digits digits ∧ NoDigit rest := by
  unfold readDigits?
  constructor
  · intro read
    dsimp only at read
    split at read
    · exact nomatch read
    · rename_i filled
      obtain ⟨rfl, rfl⟩ := Prod.mk.inj (Option.some.inj read)
      refine ⟨(List.takeWhile_append_dropWhile).symm, ⟨?_, ?_⟩, ?_⟩
      · simpa using filled
      · exact fun c => List.mem_takeWhile_imp
      · intro c head
        have stopped := List.head?_dropWhile_not Char.isDigit text
        rw [Option.mem_def.mp head] at stopped
        simpa using stopped
  · rintro ⟨rfl, ⟨filled, all⟩, stop⟩
    have stops : rest.takeWhile Char.isDigit = [] ∧ rest.dropWhile Char.isDigit = rest := by
      cases rest with
      | nil => exact ⟨rfl, rfl⟩
      | cons c _ =>
        have noDigit := stop c rfl
        simp [noDigit]
    rw [List.takeWhile_append_of_pos all, List.dropWhile_append_of_pos all, stops.1, stops.2,
      List.append_nil]
    simp [filled]

/-- Before the point the digits are read as far as they go, unless a superfluous zero comes first. -/
theorem readWhole?_eq_some_iff (text whole rest : List Char) :
    readWhole? text = some (whole, rest) ↔ readDigits? text = some (whole, rest) ∧
      (whole.head? = some '0' → whole = ['0']) := by
  unfold readWhole?
  split
  · rename_i read
    rw [read]
    constructor
    · exact nofun
    · rintro ⟨same, plain⟩
      obtain ⟨rfl, rfl⟩ := Prod.mk.inj (Option.some.inj same)
      exact nomatch plain rfl
  · rename_i plain
    refine ⟨fun read => ⟨read, fun zero => ?_⟩, And.left⟩
    match whole with
    | c :: [] => exact congrArg (fun c => [c]) (Option.some.inj zero)
    | c :: d :: digits =>
      obtain rfl := Option.some.inj zero
      exact (plain d digits rest read).elim

namespace Numeral

/-- The sign of an exponent is read before its digits. -/
theorem readSign_of_written {negative : Bool} {sign : List Char} (signed : SignWritten negative sign)
    {digits : List Char} (all : Digits digits) (rest : List Char) :
    readSign (sign ++ (digits ++ rest)) = (negative, digits ++ rest) := by
  cases signed with
  | minus => rfl
  | plus => rfl
  | none =>
    obtain ⟨filled, digit⟩ := all
    cases digits with
    | nil => exact absurd rfl filled
    | cons c digits =>
      have first := digit c List.mem_cons_self
      have noMinus : c ≠ '-' := by
        rintro rfl
        exact nomatch first
      have noPlus : c ≠ '+' := by
        rintro rfl
        exact nomatch first
      simp [readSign, noMinus, noPlus]

/-- The sign that is read before a text was written there. -/
theorem signWritten_readSign (text : List Char) :
    ∃ sign, text = sign ++ (readSign text).2 ∧ SignWritten (readSign text).1 sign := by
  unfold readSign
  split
  · exact ⟨_, rfl, .minus⟩
  · exact ⟨_, rfl, .plus⟩
  · exact ⟨[], rfl, .none⟩

/-- What was written behind the point is read. -/
theorem readFraction?_of_written {fraction inner : List Char}
    (written : FractionWritten fraction inner) {rest : List Char} (noDigit : NoDigit rest)
    (noPoint : rest.head? ≠ some '.') :
    readFraction? (inner ++ rest) = some (fraction, rest) := by
  cases written with
  | none =>
    unfold readFraction?
    split
    · rename_i point
      exact absurd (congrArg List.head? point) noPoint
    · rfl
  | some digits all => exact (readDigits?_eq_some_iff _ _ _).mpr ⟨rfl, all, noDigit⟩

/-- What is read behind the point was written. -/
theorem fractionWritten_of_read {text fraction rest : List Char}
    (read : readFraction? text = some (fraction, rest)) :
    ∃ inner, text = inner ++ rest ∧ FractionWritten fraction inner := by
  unfold readFraction? at read
  split at read
  · obtain ⟨rfl, all, _⟩ := (readDigits?_eq_some_iff _ _ _).mp read
    exact ⟨_, rfl, .some _ all⟩
  · obtain ⟨rfl, rfl⟩ := Prod.mk.inj (Option.some.inj read)
    exact ⟨[], rfl, .none⟩

/-- The exponent that was written is read. -/
theorem readExponent?_of_written {exponent : Option (Bool × List Char)} {inner : List Char}
    (written : ExponentWritten exponent inner) {rest : List Char} (ends : Ends rest) :
    readExponent? (inner ++ rest) = some (exponent, rest) := by
  cases written with
  | none =>
    cases rest with
    | nil => rfl
    | cons c rest =>
      obtain ⟨_, _, small, great⟩ := not_numeral_of_closes (ends c rfl)
      simp [readExponent?, small, great]
  | some mark marked signed digits all =>
    have read := (readDigits?_eq_some_iff (digits ++ rest) digits rest).mpr ⟨rfl, all, ends.noDigit⟩
    simp [readExponent?, marked, readSign_of_written signed all, read]

/-- The exponent that is read was written. -/
theorem exponentWritten_of_read {text rest : List Char} {exponent : Option (Bool × List Char)}
    (read : readExponent? text = some (exponent, rest)) :
    ∃ inner, text = inner ++ rest ∧ ExponentWritten exponent inner := by
  unfold readExponent? at read
  split at read
  · obtain ⟨rfl, rfl⟩ := Prod.mk.inj (Option.some.inj read)
    exact ⟨[], rfl, .none⟩
  · rename_i mark after
    split at read
    · rename_i marked
      obtain ⟨sign, spelled, signed⟩ := signWritten_readSign after
      simp only [Option.bind_eq_bind, Option.bind_eq_some_iff, Prod.exists, Option.pure_def,
        Option.some.injEq, Prod.mk.injEq] at read
      obtain ⟨digits, _, readDigits, rfl, rfl⟩ := read
      obtain ⟨unsigned, all, _⟩ := (readDigits?_eq_some_iff _ _ _).mp readDigits
      rw [unsigned, ← List.append_assoc] at spelled
      refine ⟨mark :: (sign ++ digits), congrArg _ spelled, ?_⟩
      exact .some mark (by simpa using marked) signed digits all
    · obtain ⟨rfl, rfl⟩ := Prod.mk.inj (Option.some.inj read)
      exact ⟨[], rfl, .none⟩

/-- Behind the digits of a number neither a digit nor a point follows. -/
theorem ExponentWritten.follows {exponent : Option (Bool × List Char)} {inner : List Char}
    (written : ExponentWritten exponent inner) {rest : List Char} (ends : Ends rest) :
    NoDigit (inner ++ rest) ∧ (inner ++ rest).head? ≠ Option.some '.' := by
  cases written with
  | none =>
    refine ⟨ends.noDigit, fun point => ?_⟩
    exact (not_numeral_of_closes (ends '.' point)).2.1 rfl
  | some mark marked _ _ _ =>
    obtain rfl | rfl := marked <;> exact ⟨by simp [NoDigit], by simp⟩

/-- Behind the digits before the point no digit follows. -/
theorem FractionWritten.noDigit {fraction inner : List Char}
    (written : FractionWritten fraction inner) {rest : List Char} (noDigit : NoDigit rest) :
    NoDigit (inner ++ rest) := by
  cases written with
  | none => exact noDigit
  | some _ _ => simp [NoDigit]

/-- A number that was written is read. -/
theorem readNumeral?_of_written {numeral : Numeral} {text : List Char}
    (written : numeral.Written text) {rest : List Char} (ends : Ends rest) :
    readNumeral? (text ++ rest) = some (numeral, rest) := by
  obtain ⟨negative, whole, all, plain, pointed, raised⟩ := written
  rename_i fraction fractionText exponent exponentText
  have readExponent := readExponent?_of_written raised ends
  obtain ⟨noDigit, noPoint⟩ := raised.follows ends
  have readFraction := readFraction?_of_written pointed noDigit noPoint
  have readDigits := (readDigits?_eq_some_iff _ _ _).mpr ⟨rfl, all, pointed.noDigit noDigit⟩
  have readWhole := (readWhole?_eq_some_iff _ _ _).mpr ⟨readDigits, plain⟩
  cases negative with
  | true => simp [readNumeral?, Number.withSign, readWhole, readFraction, readExponent]
  | false =>
    obtain ⟨filled, digit⟩ := all
    cases whole with
    | nil => exact absurd rfl filled
    | cons c digits =>
      have noMinus : c ≠ '-' := by
        rintro rfl
        exact nomatch digit _ List.mem_cons_self
      rw [List.cons_append] at readWhole
      simp [readNumeral?, Number.withSign, noMinus, readWhole, readFraction, readExponent]

/-- A number that is read was written. -/
theorem written_of_read {text rest : List Char} {numeral : Numeral}
    (read : readNumeral? text = some (numeral, rest)) :
    ∃ inner, text = inner ++ rest ∧ numeral.Written inner := by
  unfold readNumeral? at read
  split at read
  rename_i negative unsigned sign
  have spelled : text = Number.withSign negative unsigned := by
    split at sign <;> obtain ⟨rfl, rfl⟩ := Prod.mk.inj sign <;> rfl
  simp only [Option.bind_eq_bind, Option.bind_eq_some_iff, Prod.exists, Option.pure_def,
    Option.some.injEq, Prod.mk.injEq] at read
  obtain ⟨whole, afterWhole, readWhole, fraction, afterFraction, readFraction, exponent, _,
    readExponent, rfl, rfl⟩ := read
  obtain ⟨readDigits, plain⟩ := (readWhole?_eq_some_iff _ _ _).mp readWhole
  obtain ⟨rfl, all, _⟩ := (readDigits?_eq_some_iff _ _ _).mp readDigits
  obtain ⟨fractionText, rfl, pointed⟩ := fractionWritten_of_read readFraction
  obtain ⟨exponentText, rfl, raised⟩ := exponentWritten_of_read readExponent
  refine ⟨_, ?_, .mk negative whole all plain pointed raised⟩
  rw [spelled]
  cases negative <;> simp [Number.withSign]

end Numeral

end PushLedger.Json
