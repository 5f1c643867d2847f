import PushLedger.Json.Printer
import PushLedger.Proofs.Fields

/-!
# Spellings of one value

A value may be written in many ways. The characters of a string may be escaped or not, and the
members of an object may stand in any order. Two values are respellings of each other if they differ
in nothing but this; blanks are no matter of values at all.

What the printer writes is a document of a respelling: it escapes the quote, the backslash and the
controls, and leaves the rest as it is.
-/

namespace PushLedger.Json

/-! ## Respellings -/

mutual

/-- The second value is a respelling of the first. -/
inductive Value.Respelled : Value → Value → Prop
  | null : Value.Respelled .null .null
  | boolean (b : Bool) : Value.Respelled (.boolean b) (.boolean b)
  | number (numeral : Numeral) : Value.Respelled (.number numeral) (.number numeral)
  | string {pieces others : List Piece} (text : List Char) (said : Piece.Says pieces text)
      (saidAgain : Piece.Says others text) : Value.Respelled (.string pieces) (.string others)
  | array {items others : Items} (respelled : Items.Respelled items others) :
      Value.Respelled (.array items) (.array others)
  | object {members others : Members} {entries rearranged ordered : List (String × Value)}
      (lists : members.Lists entries) (listsOthers : others.Lists rearranged)
      (order : rearranged.Perm ordered) (respelled : EntriesRespelled entries ordered) :
      Value.Respelled (.object members) (.object others)

/-- The second items are respellings of the first, one by one. -/
inductive Items.Respelled : Items → Items → Prop
  | done : Items.Respelled .done .done
  | more {value other : Value} {rest restOthers : Items} (respelled : Value.Respelled value other)
      (others : Items.Respelled rest restOthers) :
      Items.Respelled (.more value rest) (.more other restOthers)

/-- The second entries have the names of the first and respellings of their values, one by one. -/
inductive EntriesRespelled : List (String × Value) → List (String × Value) → Prop
  | nil : EntriesRespelled [] []
  | cons (name : String) {value other : Value} {rest restOthers : List (String × Value)}
      (respelled : Value.Respelled value other) (others : EntriesRespelled rest restOthers) :
      EntriesRespelled ((name, value) :: rest) ((name, other) :: restOthers)

end

/-- Respelled entries have the same names. -/
theorem EntriesRespelled.names : {entries others : List (String × Value)} →
    EntriesRespelled entries others → others.map Prod.fst = entries.map Prod.fst
  | _, _, .nil => rfl
  | _, _, .cons name _ others => congrArg (name :: ·) others.names

/-- Under the name of an entry stands a respelling of its value. -/
theorem EntriesRespelled.exists_mem {name : String} {value : Value} :
    {entries others : List (String × Value)} → EntriesRespelled entries others →
    (name, value) ∈ entries → ∃ other, (name, other) ∈ others ∧ value.Respelled other
  | _, _, .nil, listed => nomatch listed
  | _, _, .cons key respelled others, listed => by
    obtain same | later := List.mem_cons.mp listed
    · obtain ⟨rfl, rfl⟩ := Prod.mk.inj same
      exact ⟨_, List.mem_cons_self, respelled⟩
    · obtain ⟨other, member, respelledOther⟩ := others.exists_mem later
      exact ⟨other, List.mem_cons_of_mem _ member, respelledOther⟩

namespace Value

/-- The pieces of a text say the text. -/
theorem said_ofText (s : String) : Piece.Says (Piece.ofText s) s.toList := by
  have all (cs : List Char) : Piece.Says (cs.map .char) cs := by
    induction cs with
    | nil => exact .nil
    | cons c _ inductionHypothesis => exact .char c inductionHypothesis
  exact all s.toList

/-- A respelling of a text is a string that says the text. -/
theorem Respelled.saysText {s : String} {value : Value} (respelled : (ofText s).Respelled value) :
    value.SaysText s := by
  obtain _ | _ | _ | ⟨text, said, saidAgain⟩ := respelled
  have same : text = s.toList :=
    Option.some.inj (said.chars?.symm.trans (said_ofText s).chars?)
  exact ⟨_, rfl, same ▸ saidAgain⟩

/-- The members of an object that is made of entries are the entries. -/
theorem lists_ofMembers (entries : List (String × Value)) : (entries.foldr (fun member rest =>
    Members.more (Piece.ofText member.1) member.2 rest) .done).Lists entries := by
  induction entries with
  | nil => exact .done
  | cons entry _ inductionHypothesis =>
    exact .more entry.1 entry.2 (said_ofText entry.1) inductionHypothesis

/-- A respelling of an integer is the integer. -/
theorem Respelled.eq_ofInt {n : Int} {value : Value} (respelled : (ofInt n).Respelled value) :
    value = ofInt n := by
  cases respelled
  rfl

/-- A respelling of a text or null is read as the text or as none. -/
theorem Respelled.readOptional : {s : Option String} → {value : Value} →
    (ofText? s).Respelled value → value.readOptional = .ok s
  | none, _, .null => rfl
  | some _, _, respelled => (saysText respelled).readOptional

end Value

/-! ## Entries under known names -/

/-- The entries with known names are respellings of the given ones, in any order. -/
def EntriesSpell (names : List String) (given entries : List (String × Value)) : Prop :=
  ∃ ordered, (entries.filter (·.1 ∈ names)).Perm ordered ∧ EntriesRespelled given ordered

namespace EntriesSpell

variable {names : List String} {given entries : List (String × Value)}

/-- Names that are given once at most occur once at most. -/
theorem once (spell : EntriesSpell names given entries) (distinct : (given.map Prod.fst).Nodup) :
    ((entries.map Prod.fst).filter (· ∈ names)).Nodup := by
  obtain ⟨ordered, order, respelled⟩ := spell
  rw [List.filter_map]
  exact (order.map Prod.fst).nodup_iff.mpr (respelled.names.symm ▸ distinct)

/-- A respelling of a value is looked up under the name it is given for. -/
theorem exists_lookup (spell : EntriesSpell names given entries)
    (distinct : (given.map Prod.fst).Nodup) {name : String} (known : name ∈ names) {value : Value}
    (listed : (name, value) ∈ given) :
    ∃ other, entries.lookup name = some other ∧ value.Respelled other := by
  have once := spell.once distinct
  obtain ⟨ordered, order, respelled⟩ := spell
  obtain ⟨other, member, respelledOther⟩ := respelled.exists_mem listed
  have inside := (List.mem_filter.mp (order.mem_iff.mpr member)).1
  exact ⟨other, (lookup_eq_some_iff_mem once known other).mpr inside, respelledOther⟩

/-- Nothing is looked up under a known name that is not given. -/
theorem lookup_none (spell : EntriesSpell names given entries) {name : String}
    (known : name ∈ names) (absent : name ∉ given.map Prod.fst) : entries.lookup name = none := by
  obtain ⟨ordered, order, respelled⟩ := spell
  refine lookup_of_not_mem fun named => absent ?_
  obtain ⟨entry, listed, rfl⟩ := List.mem_map.mp named
  have inside : entry ∈ ordered :=
    order.mem_iff.mp (List.mem_filter.mpr ⟨listed, by simpa using known⟩)
  exact respelled.names ▸ List.mem_map_of_mem inside

end EntriesSpell

/-! ## What the printer writes -/

namespace Piece

/-- A character is printed as a piece that says it. -/
theorem exists_of_charText (c : Char) : ∃ piece : Piece, piece.Written (charText c) ∧
    ∀ {rest : List Piece} {text : List Char}, Says rest text → Says (piece :: rest) (c :: text) := by
  have control : ∀ n < 0x20, hexUnit? (hexDigit (n / 4096)) (hexDigit (n / 256)) (hexDigit (n / 16))
      (hexDigit n) = some n := by decide
  have short (letter c : Char) (stands : shortEscape? letter = some c) :
      ∃ piece : Piece, piece.Written ['\\', letter] ∧ ∀ {rest : List Piece} {text : List Char},
        Says rest text → Says (piece :: rest) (c :: text) :=
    ⟨.char c, .short letter c stands, .char c⟩
  unfold charText
  split_ifs with quote backslash newline carriage tab backspace feed small
  · exact quote ▸ short '"' '"' rfl
  · exact backslash ▸ short '\\' '\\' rfl
  · exact newline ▸ short 'n' '\n' rfl
  · exact carriage ▸ short 'r' '\r' rfl
  · exact tab ▸ short 't' '\t' rfl
  · exact backspace ▸ short 'b' '\x08' rfl
  · exact feed ▸ short 'f' '\x0C' rfl
  · refine ⟨.unit c.toNat, .unit _ _ _ _ _ (control c.toNat small), .unit c (by omega)⟩
  · exact ⟨.char c, .plain c quote backslash (Nat.not_lt.mp small), .char c⟩

/-- Characters are printed as pieces that say them. -/
theorem exists_of_flatMap (text : List Char) :
    ∃ pieces, AllWritten pieces (text.flatMap charText) ∧ Says pieces text := by
  induction text with
  | nil => exact ⟨[], .nil, .nil⟩
  | cons c rest inductionHypothesis =>
    obtain ⟨pieces, written, said⟩ := inductionHypothesis
    obtain ⟨piece, writtenFirst, saidFirst⟩ := exists_of_charText c
    exact ⟨piece :: pieces, .cons writtenFirst written, saidFirst said⟩

/-- A text is printed between quotes. -/
theorem exists_of_printString (s : String) : ∃ pieces text,
    printString (ofText s) = '"' :: (text ++ ['"']) ∧ AllWritten pieces text ∧
      Says pieces s.toList := by
  obtain ⟨pieces, written, said⟩ := exists_of_flatMap s.toList
  refine ⟨pieces, _, ?_, written, said⟩
  simp [printString, ofText, List.flatMap_map, Piece.print]

end Piece

namespace Value

/-- The printer writes a respelling of the value. -/
def Printed (value : Value) : Prop := ∃ other, value.Respelled other ∧ other.Written value.print

/-- A text is printed. -/
theorem printed_ofText (s : String) : (ofText s).Printed := by
  obtain ⟨pieces, text, spelled, written, said⟩ := Piece.exists_of_printString s
  refine ⟨.string pieces, .string s.toList (said_ofText s) said, ?_⟩
  rw [ofText, print, spelled]
  exact .string pieces text written

/-- A text or null is printed. -/
theorem printed_ofText? : (value : Option String) → (ofText? value).Printed
  | none => ⟨.null, .null, .null⟩
  | some s => printed_ofText s

/-- A truth value is printed. -/
theorem printed_boolean : (b : Bool) → (boolean b).Printed
  | true => ⟨_, .boolean true, .true⟩
  | false => ⟨_, .boolean false, .false⟩

/-- The digits of a number begin with zero only if they are a zero by itself. -/
theorem digitChars_plain (n : Nat) :
    (Number.digitChars n).head? = some '0' → Number.digitChars n = ['0'] := by
  have positive (n : Nat) (above : 0 < n) : (Nat.toDigits 10 n).head? ≠ some '0' := by
    induction n using Nat.strongRecOn with
    | _ n inductionHypothesis =>
      by_cases small : n < 10
      · rw [Nat.toDigits_of_lt_base small]
        have all : ∀ n < 10, 0 < n → [n.digitChar].head? ≠ some '0' := by decide
        exact all n small above
      · rw [Nat.toDigits_of_base_le (by decide) (Nat.not_lt.mp small)]
        have shorter := inductionHypothesis (n / 10) (by omega) (by omega)
        cases digits : Nat.toDigits 10 (n / 10) with
        | nil => exact absurd digits Nat.toDigits_ne_nil
        | cons c rest => simpa [digits] using shorter
  intro zero
  cases n with
  | zero => exact Nat.toDigits_zero 10
  | succ n => exact absurd zero (positive (n + 1) (Nat.succ_pos n))

/-- An integer is printed. -/
theorem printed_ofInt (n : Int) : (ofInt n).Printed := by
  refine ⟨ofInt n, .number _, .number _ _ ?_⟩
  have digits : Digits (Number.digitChars n.natAbs) :=
    ⟨Nat.toDigits_ne_nil, fun _ member => Nat.isDigit_of_mem_toDigits (by decide) (by decide) member⟩
  have written := Numeral.Written.mk (n < 0) (Number.digitChars n.natAbs) digits
    (digitChars_plain n.natAbs) .none .none
  simpa [ofInt, print, Numeral.print] using written

/-- Members are printed one by one, up to the closing bracket. -/
theorem printed_members (members : List (String × Value))
    (printed : ∀ member ∈ members, member.2.Printed) (isFirst : Bool) :
    ∃ (others : Members) (entries : List (String × Value)),
      others.Written isFirst ((members.foldr (fun member rest =>
        Members.more (Piece.ofText member.1) member.2 rest) .done).print isFirst ++ ['\x7d']) ∧
      others.Lists entries ∧ EntriesRespelled members entries := by
  induction members generalizing isFirst with
  | nil => exact ⟨.done, [], .done isFirst [] nofun, .done, .nil⟩
  | cons member rest inductionHypothesis =>
    obtain ⟨name, value⟩ := member
    obtain ⟨⟨other, respelled, written⟩, printedRest⟩ := List.forall_mem_cons.mp printed
    obtain ⟨others, entries, writtenRest, lists, respelledRest⟩ :=
      inductionHypothesis printedRest false
    obtain ⟨pieces, text, spelled, named, said⟩ := Piece.exists_of_printString name
    refine ⟨.more pieces other others, (name, other) :: entries, ?_, .more name other said lists,
      .cons name respelled respelledRest⟩
    have leads : Lead isFirst (if isFirst then [] else [',']) := by
      cases isFirst with
      | true => exact .first [] nofun
      | false => exact .comma [] [] nofun nofun
    have more := Members.Written.more isFirst _ text [] [] _ _ pieces other others leads named nofun
      nofun written writtenRest
    rw [List.foldr_cons, Members.print, spelled]
    simpa using more

/-- An object is printed if its members are. -/
theorem printed_ofMembers {members : List (String × Value)}
    (printed : ∀ member ∈ members, member.2.Printed) : (ofMembers members).Printed := by
  obtain ⟨others, entries, written, lists, respelled⟩ := printed_members members printed true
  refine ⟨.object others, .object (lists_ofMembers members) lists (.refl entries) respelled, ?_⟩
  rw [ofMembers, print]
  exact .object others _ written

end Value

end PushLedger.Json
