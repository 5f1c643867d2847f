import PushLedger.Json.Record
import PushLedger.Proofs.Lexemes
import PushLedger.Proofs.Statements

/-!
# Documents are read as the grammar writes them

The reader and the grammar agree. What was written is read with as much fuel as its text is long:
every part of a text is shorter than the whole, so one induction on the fuel serves values, items
and members together. What is read without a broken place was written, by another induction on the
fuel.

A text is therefore a document of one value at most, and a reader of values accepts a text exactly
if it accepts the value that the text is a document of.
-/

namespace PushLedger.Json

/-! ## Blanks -/

/-- Blanks are skipped. -/
theorem skipBlanks_append {blanks : List Char} (blank : Blanks blanks) (rest : List Char) :
    skipBlanks (blanks ++ rest) = skipBlanks rest := List.dropWhile_append_of_pos blank

/-- Nothing else is skipped. -/
theorem skipBlanks_cons {c : Char} (visible : isBlank c = false) (rest : List Char) :
    skipBlanks (c :: rest) = c :: rest := by
  simp [skipBlanks, visible]

/-- What is skipped are blanks. -/
theorem exists_blanks (text : List Char) :
    ∃ blanks, text = blanks ++ skipBlanks text ∧ Blanks blanks :=
  ⟨text.takeWhile isBlank, List.takeWhile_append_dropWhile.symm, fun _ => List.mem_takeWhile_imp⟩

/-- Nothing is left of blanks. -/
theorem skipBlanks_eq_nil_iff (text : List Char) : skipBlanks text = [] ↔ Blanks text :=
  List.dropWhile_eq_nil_iff

/-- What ends nothing is no blank. -/
theorem not_isBlank_of_not_closes {c : Char} (opening : closes c = false) : isBlank c = false := by
  simp only [closes, Bool.or_eq_false_iff] at opening
  exact opening.1.1.1

/-! ## How values begin -/

/-- A number begins with a digit or with a sign. -/
theorem Numeral.Written.begins {numeral : Numeral} {text : List Char}
    (written : numeral.Written text) :
    ∃ c rest, text = c :: rest ∧ (c.isDigit = true ∨ c = '-') := by
  obtain ⟨negative, whole, ⟨filled, all⟩, _, _, _⟩ := written
  cases negative with
  | true => exact ⟨'-', _, rfl, .inr rfl⟩
  | false =>
    cases whole with
    | nil => exact absurd rfl filled
    | cons c _ => exact ⟨c, _, rfl, .inl (all c List.mem_cons_self)⟩

/-- A value begins with a character that ends nothing. -/
theorem opens_of_written {value : Value} {text : List Char} (written : value.Written text) :
    ∃ c rest, text = c :: rest ∧ closes c = false := by
  cases written with
  | number numeral _ written =>
    obtain ⟨c, rest, rfl, begins⟩ := written.begins
    exact ⟨c, rest, rfl, not_closes_of_numeral begins⟩
  | _ => exact ⟨_, _, rfl, by decide⟩

/-- The text of a number is read as a number. -/
theorem readScalar_number {numeral : Numeral} {text : List Char} (written : numeral.Written text)
    {rest : List Char} (ends : Ends rest) :
    readScalar (text ++ rest) = (.number numeral, rest) := by
  have read := numeral.readNumeral?_of_written written ends
  obtain ⟨c, _, rfl, begins⟩ := written.begins
  unfold readScalar
  split
  case h_4 => rw [read]
  all_goals
    rename_i spelled
    obtain ⟨rfl, -⟩ := List.cons.inj spelled
    exact absurd begins (by decide)

/-! ## What was written is read -/

/-- With this fuel every value is read whose text is not longer than the fuel. -/
def ReadsValues (fuel : Nat) : Prop :=
  ∀ (value : Value) (text before rest : List Char), value.Written text → text.length ≤ fuel →
    Blanks before → Ends rest → readValue fuel (before ++ (text ++ rest)) = (value, rest)

/-- The same for the items of arrays. -/
def ReadsItems (fuel : Nat) : Prop :=
  ∀ (isFirst : Bool) (items : Items) (text rest : List Char), items.Written isFirst text →
    text.length ≤ fuel → readItems fuel isFirst (text ++ rest) = (items, rest)

/-- The same for the members of objects. -/
def ReadsMembers (fuel : Nat) : Prop :=
  ∀ (isFirst : Bool) (members : Members) (text rest : List Char), members.Written isFirst text →
    text.length ≤ fuel → readMembers fuel isFirst (text ++ rest) = (members, rest)

/-- A closing character ends what stands before it, with blanks between them or not. -/
theorem ends_of_closes {blanks : List Char} (blank : Blanks blanks) {c : Char}
    (closing : closes c = true) (rest : List Char) : Ends (blanks ++ c :: rest) := by
  cases blanks with
  | nil => simpa [Ends] using closing
  | cons b _ => simpa [Ends] using blank.ends b rfl

/-- A comma ends what stands before it. -/
theorem Lead.ends {lead : List Char} (leads : Lead false lead) (rest : List Char) :
    Ends (lead ++ rest) := by
  obtain _ | ⟨before, after, blank, _⟩ := leads
  rw [List.append_assoc]
  exact ends_of_closes blank rfl _

/-- What follows an item ends it. -/
theorem Items.Written.ends {items : Items} {text : List Char} (written : items.Written false text)
    (rest : List Char) : Ends (text ++ rest) := by
  cases written with
  | done _ _ blank =>
    rw [List.append_assoc]
    exact ends_of_closes blank rfl rest
  | more _ _ _ _ _ _ leads _ _ =>
    rw [List.append_assoc]
    exact leads.ends _

/-- What follows a member ends it. -/
theorem Members.Written.ends {members : Members} {text : List Char}
    (written : members.Written false text) (rest : List Char) : Ends (text ++ rest) := by
  cases written with
  | done _ _ blank =>
    rw [List.append_assoc]
    exact ends_of_closes blank rfl rest
  | more _ _ _ _ _ _ _ _ _ _ leads _ _ _ _ _ =>
    rw [List.append_assoc]
    exact leads.ends _

/-- A value is written with one character at least. -/
theorem length_pos_of_written {value : Value} {text : List Char} (written : value.Written text) :
    0 < text.length := by
  obtain ⟨_, _, rfl, _⟩ := opens_of_written written
  exact Nat.zero_lt_succ _

/-- The end of an array is written with one character at least. -/
theorem Items.Written.length_pos {items : Items} {isFirst : Bool} {text : List Char}
    (written : items.Written isFirst text) : 0 < text.length := by
  cases written with
  | done _ _ _ => simp
  | more _ _ _ _ _ _ _ written _ =>
    have filled := length_pos_of_written written
    simp only [List.length_append]
    omega

/-- The end of an object is written with one character at least. -/
theorem Members.Written.length_pos {members : Members} {isFirst : Bool} {text : List Char}
    (written : members.Written isFirst text) : 0 < text.length := by
  cases written <;> (simp only [List.length_append, List.length_cons]; omega)

/-- A value is read with one more step than its parts. -/
theorem readsValues_succ {fuel : Nat} (items : ReadsItems fuel) (members : ReadsMembers fuel) :
    ReadsValues (fuel + 1) := by
  intro value text before rest written fits blank ends
  rw [readValue, skipBlanks_append blank]
  cases written with
  | null => rfl
  | true => rfl
  | false => rfl
  | number numeral text written =>
    have scalar := readScalar_number written ends
    obtain ⟨c, more, rfl, begins⟩ := written.begins
    have visible := not_isBlank_of_not_closes (not_closes_of_numeral begins)
    rw [List.cons_append] at scalar ⊢
    rw [skipBlanks_cons visible]
    split <;> rename_i spelled
    case h_4 => exact scalar
    all_goals
      obtain ⟨rfl, -⟩ := List.cons.inj spelled
      exact absurd begins (by decide)
  | string pieces text written =>
    have read := (Piece.readPieces?_eq_some_iff (text ++ '"' :: rest) rest pieces).mpr
      ⟨text, rfl, written⟩
    rw [List.cons_append, List.append_assoc, skipBlanks_cons (by decide)]
    simp [read]
  | array list text written =>
    rw [List.cons_append, skipBlanks_cons (by decide)]
    simp [items true list text rest written (Nat.le_of_succ_le_succ fits)]
  | object list text written =>
    rw [List.cons_append, skipBlanks_cons (by decide)]
    simp [members true list text rest written (Nat.le_of_succ_le_succ fits)]

/-- Items are read with one more step than the value and the items in them. -/
theorem readsItems_succ {fuel : Nat} (values : ReadsValues fuel) (items : ReadsItems fuel) :
    ReadsItems (fuel + 1) := by
  intro isFirst list text rest written fits
  rw [readItems]
  cases written with
  | done _ blanks blank =>
    rw [List.append_assoc, skipBlanks_append blank]
    rfl
  | more _ lead text restText value others leads written writtenRest =>
    have filled := length_pos_of_written written
    have filledRest := writtenRest.length_pos
    simp only [List.length_append] at fits
    have readFirst (before : List Char) (blank : Blanks before) :=
      values value text before (restText ++ rest) written (by omega) blank (writtenRest.ends rest)
    have readRest := items false others restText rest writtenRest (by omega)
    cases leads with
    | first _ blank =>
      have read := readFirst [] nofun
      obtain ⟨c, more, rfl, opening⟩ := opens_of_written written
      rw [List.nil_append, List.cons_append] at read
      rw [List.append_assoc, skipBlanks_append blank, List.append_assoc, List.cons_append,
        skipBlanks_cons (not_isBlank_of_not_closes opening)]
      split <;> rename_i spelled
      · obtain ⟨rfl, -⟩ := List.cons.inj spelled
        exact nomatch opening
      · obtain ⟨rfl, -⟩ := List.cons.inj spelled
        exact nomatch opening
      · simp [read, readRest]
    | comma before after blankBefore blankAfter =>
      have read := readFirst after blankAfter
      simp only [List.append_assoc, List.cons_append]
      rw [skipBlanks_append blankBefore, skipBlanks_cons (by decide)]
      simp [read, readRest]

/-- Members are read with one more step than the value and the members in them. -/
theorem readsMembers_succ {fuel : Nat} (values : ReadsValues fuel) (members : ReadsMembers fuel) :
    ReadsMembers (fuel + 1) := by
  intro isFirst list text rest written fits
  rw [readMembers]
  cases written with
  | done _ blanks blank =>
    rw [List.append_assoc, skipBlanks_append blank]
    rfl
  | more _ lead nameText before after text restText name value others leads named blankBefore
      blankAfter written writtenRest =>
    have filledRest := writtenRest.length_pos
    simp only [List.length_append, List.length_cons] at fits
    have readFirst := values value text after (restText ++ rest) written (by omega) blankAfter
      (writtenRest.ends rest)
    have readRest := members false others restText rest writtenRest (by omega)
    have readName := (Piece.readPieces?_eq_some_iff _ (before ++ ':' :: (after ++
      (text ++ (restText ++ rest)))) name).mpr ⟨nameText, rfl, named⟩
    have skipColon := skipBlanks_append blankBefore (':' :: (after ++ (text ++ (restText ++ rest))))
    rw [skipBlanks_cons (by decide)] at skipColon
    have skipQuote (more : List Char) : skipBlanks ('"' :: more) = '"' :: more :=
      skipBlanks_cons (by decide) more
    cases leads with
    | first _ blank =>
      simp only [List.append_assoc, List.cons_append]
      rw [skipBlanks_append blank, skipQuote]
      simp [skipQuote, skipColon, readName, readFirst, readRest]
    | comma ahead behind blankAhead blankBehind =>
      simp only [List.append_assoc, List.cons_append]
      rw [skipBlanks_append blankAhead, skipBlanks_cons (by decide)]
      simp [skipBlanks_append blankBehind, skipQuote, skipColon, readName, readFirst, readRest]

/-- What was written is read with as much fuel as its text is long. -/
theorem reads (fuel : Nat) : ReadsValues fuel ∧ ReadsItems fuel ∧ ReadsMembers fuel := by
  induction fuel with
  | zero =>
    refine ⟨?_, ?_, ?_⟩
    · intro _ _ _ _ written empty
      exact absurd (length_pos_of_written written) (Nat.not_lt.mpr empty)
    · intro _ _ _ _ written empty
      exact absurd written.length_pos (Nat.not_lt.mpr empty)
    · intro _ _ _ _ written empty
      exact absurd written.length_pos (Nat.not_lt.mpr empty)
  | succ fuel inductionHypothesis =>
    obtain ⟨values, items, members⟩ := inductionHypothesis
    exact ⟨readsValues_succ items members, readsItems_succ values items,
      readsMembers_succ values members⟩

mutual

/-- Nothing is broken in a value that was written. -/
theorem Value.sound_of_written : (value : Value) → {text : List Char} → value.Written text →
    value.sound = true
  | .null, _, _ => rfl
  | .boolean _, _, _ => rfl
  | .number _, _, _ => rfl
  | .string _, _, _ => rfl
  | .array items, _, .array _ _ written => items.sound_of_written written
  | .object members, _, .object _ _ written => members.sound_of_written written

/-- Nothing is broken in items that were written. -/
theorem Items.sound_of_written : (items : Items) → {isFirst : Bool} → {text : List Char} →
    items.Written isFirst text → items.sound = true
  | .done, _, _, _ => rfl
  | .more value rest, _, _, .more _ _ _ _ _ _ _ written others =>
      Bool.and_eq_true_iff.mpr ⟨value.sound_of_written written, rest.sound_of_written others⟩

/-- Nothing is broken in members that were written. -/
theorem Members.sound_of_written : (members : Members) → {isFirst : Bool} → {text : List Char} →
    members.Written isFirst text → members.sound = true
  | .done, _, _, _ => rfl
  | .more _ value rest, _, _, .more _ _ _ _ _ _ _ _ _ _ _ _ _ _ written others =>
      Bool.and_eq_true_iff.mpr ⟨value.sound_of_written written, rest.sound_of_written others⟩

end

/-! ## What is read was written -/

/-- With this fuel a value that is read, and is not broken, was written behind blanks. -/
def FindsValues (fuel : Nat) : Prop :=
  ∀ (text rest : List Char) (value : Value), readValue fuel text = (value, rest) →
    value.sound = true →
    ∃ before inner, text = before ++ (inner ++ rest) ∧ Blanks before ∧ value.Written inner

/-- The same for the items of arrays. -/
def FindsItems (fuel : Nat) : Prop :=
  ∀ (isFirst : Bool) (text rest : List Char) (items : Items),
    readItems fuel isFirst text = (items, rest) → items.sound = true →
    ∃ inner, text = inner ++ rest ∧ items.Written isFirst inner

/-- The same for the members of objects. -/
def FindsMembers (fuel : Nat) : Prop :=
  ∀ (isFirst : Bool) (text rest : List Char) (members : Members),
    readMembers fuel isFirst text = (members, rest) → members.sound = true →
    ∃ inner, text = inner ++ rest ∧ members.Written isFirst inner

/-- More blanks may lead to a first item or member. -/
theorem Lead.first_append {lead : List Char} (blank : Blanks lead) (more : List Char)
    (blankMore : Blanks more) : Lead true (lead ++ more) :=
  .first _ (List.forall_mem_append.mpr ⟨blank, blankMore⟩)

/-- Blanks may follow the comma before every other one. -/
theorem Lead.comma_append {lead : List Char} (blank : Blanks lead) (more : List Char)
    (blankMore : Blanks more) : Lead false (lead ++ [','] ++ more) := by
  rw [List.append_assoc]
  exact .comma lead more blank blankMore

/-- A word or a number that is read was written. -/
theorem written_of_readScalar {text rest : List Char} {value : Value}
    (read : readScalar text = (value, rest)) (sound : value.sound = true) :
    ∃ inner, text = inner ++ rest ∧ value.Written inner := by
  unfold readScalar at read
  split at read
  · obtain ⟨rfl, rfl⟩ := Prod.mk.inj read
    exact ⟨_, rfl, .null⟩
  · obtain ⟨rfl, rfl⟩ := Prod.mk.inj read
    exact ⟨_, rfl, .true⟩
  · obtain ⟨rfl, rfl⟩ := Prod.mk.inj read
    exact ⟨_, rfl, .false⟩
  · split at read
    · rename_i found
      obtain ⟨rfl, rfl⟩ := Prod.mk.inj read
      obtain ⟨inner, spelled, written⟩ := Numeral.written_of_read found
      exact ⟨inner, spelled, .number _ _ written⟩
    · obtain ⟨rfl, -⟩ := Prod.mk.inj read
      exact nomatch sound

/-- A value is found with one more step than its parts. -/
theorem findsValues_succ {fuel : Nat} (items : FindsItems fuel) (members : FindsMembers fuel) :
    FindsValues (fuel + 1) := by
  intro text rest value read sound
  suffices ∃ inner, skipBlanks text = inner ++ rest ∧ value.Written inner by
    obtain ⟨inner, spelled, written⟩ := this
    obtain ⟨before, split, blank⟩ := exists_blanks text
    exact ⟨before, inner, spelled ▸ split, blank, written⟩
  rw [readValue] at read
  split at read <;> rename_i spelled
  · split at read
    · rename_i found
      obtain ⟨rfl, rfl⟩ := Prod.mk.inj read
      obtain ⟨inner, rfl, written⟩ := (Piece.readPieces?_eq_some_iff _ _ _).mp found
      exact ⟨_, by simp [spelled], .string _ inner written⟩
    · obtain ⟨rfl, -⟩ := Prod.mk.inj read
      exact nomatch sound
  · split at read
    rename_i found
    obtain ⟨rfl, rfl⟩ := Prod.mk.inj read
    obtain ⟨inner, rfl, written⟩ := items true _ _ _ found sound
    exact ⟨_, spelled, .array _ inner written⟩
  · split at read
    rename_i found
    obtain ⟨rfl, rfl⟩ := Prod.mk.inj read
    obtain ⟨inner, rfl, written⟩ := members true _ _ _ found sound
    exact ⟨_, spelled, .object _ inner written⟩
  · exact written_of_readScalar read sound

/-- An item that is read behind what leads to it was written there, with the items after it. -/
theorem FindsValues.more {fuel : Nat} (values : FindsValues fuel) (items : FindsItems fuel)
    {isFirst : Bool} {lead text middle rest : List Char}
    (leads : ∀ blanks, Blanks blanks → Lead isFirst (lead ++ blanks)) {value : Value} {others : Items}
    (readFirst : readValue fuel text = (value, middle))
    (readRest : readItems fuel false middle = (others, rest))
    (sound : (Items.more value others).sound = true) :
    ∃ inner, lead ++ text = inner ++ rest ∧ (Items.more value others).Written isFirst inner := by
  obtain ⟨soundFirst, soundRest⟩ := Bool.and_eq_true_iff.mp sound
  obtain ⟨before, inner, rfl, blank, written⟩ := values _ _ _ readFirst soundFirst
  obtain ⟨innerRest, rfl, writtenRest⟩ := items _ _ _ _ readRest soundRest
  exact ⟨_, by simp, .more _ _ _ _ _ _ (leads before blank) written writtenRest⟩

/-- Items are found with one more step than the value and the items in them. -/
theorem findsItems_succ {fuel : Nat} (values : FindsValues fuel) (items : FindsItems fuel) :
    FindsItems (fuel + 1) := by
  intro isFirst text rest list read sound
  obtain ⟨blanks, spelledText, blank⟩ := exists_blanks text
  rw [readItems] at read
  dsimp only at read
  split at read <;> rename_i spelled
  · obtain ⟨rfl, rfl⟩ := Prod.mk.inj read
    exact ⟨_, by simpa [spelled] using spelledText, .done isFirst blanks blank⟩
  · rw [spelledText, spelled]
    split at read <;> rename_i first <;> obtain ⟨rfl, rfl⟩ := Prod.mk.inj read
    · subst first
      exact values.more items (Lead.first_append blank) rfl rfl sound
    · rw [Bool.not_eq_true] at first
      subst first
      rw [← List.singleton_append, ← List.append_assoc]
      exact values.more items (Lead.comma_append blank) rfl rfl sound
  · rw [spelledText]
    split at read <;> rename_i first <;> obtain ⟨rfl, rfl⟩ := Prod.mk.inj read
    · subst first
      exact values.more items (Lead.first_append blank) rfl rfl sound
    · exact nomatch sound

/-- A member that is read behind what leads to it was written there, with the members after it. -/
theorem FindsValues.named {fuel : Nat} (values : FindsValues fuel) (members : FindsMembers fuel)
    {isFirst : Bool} {lead text rest : List Char}
    (leads : ∀ blanks, Blanks blanks → Lead isFirst (lead ++ blanks)) {list : Members}
    (read : (match skipBlanks text with
      | '"' :: rest =>
          match readPieces? rest with
          | none => (Members.broken, [])
          | some (name, rest) =>
              match skipBlanks rest with
              | ':' :: rest =>
                  let (value, rest) := readValue fuel rest
                  let (members, rest) := readMembers fuel false rest
                  (.more name value members, rest)
              | _ => (.more name .broken .broken, [])
      | _ => (.broken, [])) = (list, rest)) (sound : list.sound = true) :
    ∃ inner, lead ++ text = inner ++ rest ∧ list.Written isFirst inner := by
  obtain ⟨blanks, spelledText, blank⟩ := exists_blanks text
  split at read <;> rename_i quoted
  · split at read <;> rename_i found
    · obtain ⟨rfl, -⟩ := Prod.mk.inj read
      exact nomatch sound
    · rename_i afterName
      obtain ⟨blanksAfter, spelledAfter, blankAfter⟩ := exists_blanks afterName
      split at read <;> rename_i colon
      · split at read
        rename_i readFirst
        split at read
        rename_i readRest
        obtain ⟨rfl, rfl⟩ := Prod.mk.inj read
        obtain ⟨soundFirst, soundRest⟩ := Bool.and_eq_true_iff.mp sound
        obtain ⟨before, inner, spelledValue, blankBefore, written⟩ :=
          values _ _ _ readFirst soundFirst
        obtain ⟨innerRest, spelledRest, writtenRest⟩ := members _ _ _ _ readRest soundRest
        obtain ⟨innerName, spelledName, named⟩ := (Piece.readPieces?_eq_some_iff _ _ _).mp found
        refine ⟨_, ?_, .more _ _ _ _ _ _ _ _ _ _ (leads blanks blank) named blankAfter blankBefore
          written writtenRest⟩
        rw [spelledText, quoted, spelledName, spelledAfter, colon, spelledValue, spelledRest]
        simp
      · obtain ⟨rfl, -⟩ := Prod.mk.inj read
        exact nomatch sound
  · obtain ⟨rfl, -⟩ := Prod.mk.inj read
    exact nomatch sound

/-- Members are found with one more step than the value and the members in them. -/
theorem findsMembers_succ {fuel : Nat} (values : FindsValues fuel) (members : FindsMembers fuel) :
    FindsMembers (fuel + 1) := by
  intro isFirst text rest list read sound
  obtain ⟨blanks, spelledText, blank⟩ := exists_blanks text
  rw [readMembers] at read
  dsimp only at read
  split at read <;> rename_i spelled
  · obtain ⟨rfl, rfl⟩ := Prod.mk.inj read
    exact ⟨_, by simpa [spelled] using spelledText, .done isFirst blanks blank⟩
  · rw [spelledText, spelled]
    split at read <;> rename_i first
    · subst first
      exact values.named members (Lead.first_append blank) read sound
    · rw [Bool.not_eq_true] at first
      subst first
      rw [← List.singleton_append, ← List.append_assoc]
      exact values.named members (Lead.comma_append blank) read sound
  · rw [spelledText]
    split at read <;> rename_i first
    · subst first
      exact values.named members (Lead.first_append blank) read sound
    · obtain ⟨rfl, -⟩ := Prod.mk.inj read
      exact nomatch sound

/-- What is read was written, with any fuel. -/
theorem finds (fuel : Nat) : FindsValues fuel ∧ FindsItems fuel ∧ FindsMembers fuel := by
  induction fuel with
  | zero =>
    refine ⟨?_, ?_, ?_⟩
    · intro _ _ _ read sound
      obtain ⟨rfl, -⟩ := Prod.mk.inj read
      exact nomatch sound
    · intro _ _ _ _ read sound
      obtain ⟨rfl, -⟩ := Prod.mk.inj read
      exact nomatch sound
    · intro _ _ _ _ read sound
      obtain ⟨rfl, -⟩ := Prod.mk.inj read
      exact nomatch sound
  | succ fuel inductionHypothesis =>
    obtain ⟨values, items, members⟩ := inductionHypothesis
    exact ⟨findsValues_succ items members, findsItems_succ values items,
      findsMembers_succ values members⟩

/-! ## Documents -/

/-- A document of a value is read as the value, and only blanks are left of it. -/
theorem IsDocument.read {value : Value} {text : String} (document : IsDocument value text) :
    ∃ rest, Json.read text = (value, rest) ∧ Blanks rest := by
  obtain ⟨before, inner, after, spelled, blankBefore, blankAfter, written⟩ := document
  have fits : inner.length ≤ 2 * text.length + 2 := by
    have size : text.length = (before ++ (inner ++ after)).length := by
      rw [← spelled, String.length_toList]
    simp only [List.length_append] at size
    omega
  refine ⟨after, ?_, blankAfter⟩
  rw [Json.read, spelled]
  exact (reads _).1 value inner before after written fits blankBefore blankAfter.ends

/-- A text is a document of one value at most. -/
theorem IsDocument.unique {value other : Value} {text : String} (document : IsDocument value text)
    (another : IsDocument other text) : value = other := by
  obtain ⟨_, read, _⟩ := document.read
  obtain ⟨_, readOther, _⟩ := another.read
  exact congrArg Prod.fst (read.symm.trans readOther)

/-- The first character of the text that is no blank begins an object. -/
def BeginsObject (text : String) : Prop :=
  ∃ blanks rest, text.toList = blanks ++ '\x7b' :: rest ∧ Blanks blanks

/-- A document that begins an object is the document of an object. -/
theorem IsDocument.exists_members {value : Value} {text : String} (document : IsDocument value text)
    (begins : BeginsObject text) : ∃ members, value = .object members := by
  obtain ⟨before, inner, after, spelled, blankBefore, _, written⟩ := document
  obtain ⟨blanks, rest, begins, blank⟩ := begins
  obtain ⟨c, more, rfl, opening⟩ := opens_of_written written
  have same := congrArg skipBlanks (spelled.symm.trans begins)
  rw [skipBlanks_append blankBefore, skipBlanks_append blank, List.cons_append,
    skipBlanks_cons (not_isBlank_of_not_closes opening), skipBlanks_cons (by decide)] at same
  obtain ⟨rfl, -⟩ := List.cons.inj same
  cases written with
  | object members _ _ => exact ⟨members, rfl⟩
  | number _ _ written =>
    obtain ⟨_, _, spelled, begins⟩ := written.begins
    obtain ⟨rfl, -⟩ := List.cons.inj spelled
    exact absurd begins (by decide)

/-- A whole text is accepted exactly if it is a document of a value that is accepted. -/
theorem decode_ok_iff {α : Type} {reader : Value → Read α}
    (soundReader : ∀ value a, reader value = .ok a → value.sound = true) (text : String) (a : α) :
    decode reader text = .ok a ↔ ∃ value, IsDocument value text ∧ reader value = .ok a := by
  unfold decode
  constructor
  · intro accepted
    split at accepted
    rename_i value rest read
    split at accepted
    · rename_i accepts
      split at accepted
      · rename_i blank
        obtain rfl := Except.ok.inj accepted
        obtain ⟨before, inner, spelled, blankBefore, written⟩ :=
          (finds _).1 _ _ _ read (soundReader _ _ accepts)
        refine ⟨value, ⟨before, inner, rest, spelled, blankBefore, ?_, written⟩, accepts⟩
        exact (skipBlanks_eq_nil_iff rest).mp (List.isEmpty_iff.mp blank)
      · exact nomatch accepted
    · exact nomatch accepted
  · rintro ⟨value, document, accepts⟩
    obtain ⟨rest, read, blank⟩ := document.read
    rw [read]
    dsimp only
    rw [accepts, (skipBlanks_eq_nil_iff rest).mpr blank]
    rfl

end PushLedger.Json
