import PushLedger.Json.Reader

/-!
# The grammar of JSON text

Which texts write a value is said here without a reader, rule by rule: blanks between tokens, strings
out of characters, short escapes and escaped units, numbers without superfluous zeros, and brackets
around items and members with commas between them.

What a string says is a second question. Its characters may stand for themselves or be given by their
16-bit units, one unit for a character of the basic plane and a pair of them for any other.
-/

namespace PushLedger.Json

/-- The text has nothing but blanks. -/
def Blanks (text : List Char) : Prop := ∀ c ∈ text, isBlank c = true

/-! ## Strings -/

namespace Piece

/-- The text writes the piece: a visible character stands for itself, a letter behind a backslash for
one of eight characters, and four hexadecimal digits for a unit. -/
inductive Written : Piece → List Char → Prop
  | plain (c : Char) (unquoted : c ≠ '"') (unescaped : c ≠ '\\') (visible : 0x20 ≤ c.toNat) :
      Written (.char c) [c]
  | short (letter c : Char) (stands : shortEscape? letter = some c) :
      Written (.char c) ['\\', letter]
  | unit (a b c d : Char) (n : Nat) (digits : hexUnit? a b c d = some n) :
      Written (.unit n) ['\\', 'u', a, b, c, d]

/-- The text writes the pieces of a string, one after another. -/
inductive AllWritten : List Piece → List Char → Prop
  | nil : AllWritten [] []
  | cons {piece : Piece} {rest : List Piece} {first text : List Char} (written : piece.Written first)
      (others : AllWritten rest text) : AllWritten (piece :: rest) (first ++ text)

/-- The pieces say the characters: each is given as it is, or by its unit, or by its pair of units. -/
inductive Says : List Piece → List Char → Prop
  | nil : Says [] []
  | char {rest : List Piece} {text : List Char} (c : Char) (others : Says rest text) :
      Says (.char c :: rest) (c :: text)
  | unit {rest : List Piece} {text : List Char} (c : Char) (basic : c.toNat < 0x10000)
      (others : Says rest text) : Says (.unit c.toNat :: rest) (c :: text)
  | pair {rest : List Piece} {text : List Char} (c : Char) (beyond : 0x10000 ≤ c.toNat)
      (others : Says rest text) :
      Says (.unit (0xD800 + (c.toNat - 0x10000) / 0x400) ::
        .unit (0xDC00 + (c.toNat - 0x10000) % 0x400) :: rest) (c :: text)

end Piece

/-! ## Numbers -/

/-- The text is a run of digits. -/
def Digits (text : List Char) : Prop := text ≠ [] ∧ ∀ c ∈ text, c.isDigit = true

namespace Numeral

/-- The text writes the digits after the point, with the point if there are any. -/
inductive FractionWritten : List Char → List Char → Prop
  | none : FractionWritten [] []
  | some (digits : List Char) (all : Digits digits) : FractionWritten digits ('.' :: digits)

/-- The text is the sign of an exponent; only the minus sign may not be left out. -/
inductive SignWritten : Bool → List Char → Prop
  | minus : SignWritten true ['-']
  | plus : SignWritten false ['+']
  | none : SignWritten false []

/-- The text writes the exponent, if there is one. -/
inductive ExponentWritten : Option (Bool × List Char) → List Char → Prop
  | none : ExponentWritten none []
  | some (mark : Char) (marked : mark = 'e' ∨ mark = 'E') {negative : Bool} {sign : List Char}
      (signed : SignWritten negative sign) (digits : List Char) (all : Digits digits) :
      ExponentWritten (some (negative, digits)) (mark :: (sign ++ digits))

/-- The text writes the number. Before the point only a zero by itself begins with zero. -/
inductive Written : Numeral → List Char → Prop
  | mk (negative : Bool) (whole : List Char) (all : Digits whole)
      (plain : whole.head? = some '0' → whole = ['0']) {fraction fractionText : List Char}
      (pointed : FractionWritten fraction fractionText) {exponent : Option (Bool × List Char)}
      {exponentText : List Char} (raised : ExponentWritten exponent exponentText) :
      Written ⟨negative, whole, fraction, exponent⟩
        (Number.withSign negative (whole ++ (fractionText ++ exponentText)))

end Numeral

/-! ## Values -/

/-- What stands before an item or a member: blanks before the first one, and a comma between blanks
before every other one. -/
inductive Lead : Bool → List Char → Prop
  | first (blanks : List Char) (blank : Blanks blanks) : Lead true blanks
  | comma (before after : List Char) (blankBefore : Blanks before) (blankAfter : Blanks after) :
      Lead false (before ++ ',' :: after)

mutual

/-- The text writes the value, without blanks around it. -/
inductive Value.Written : Value → List Char → Prop
  | null : Value.Written .null ['n', 'u', 'l', 'l']
  | true : Value.Written (.boolean true) ['t', 'r', 'u', 'e']
  | false : Value.Written (.boolean false) ['f', 'a', 'l', 's', 'e']
  | number (numeral : Numeral) (text : List Char) (written : numeral.Written text) :
      Value.Written (.number numeral) text
  | string (pieces : List Piece) (text : List Char) (written : Piece.AllWritten pieces text) :
      Value.Written (.string pieces) ('"' :: (text ++ ['"']))
  | array (items : Items) (text : List Char) (written : Items.Written true items text) :
      Value.Written (.array items) ('[' :: text)
  | object (members : Members) (text : List Char) (written : Members.Written true members text) :
      Value.Written (.object members) ('\x7b' :: text)

/-- The text writes the items up to the closing bracket of their array. -/
inductive Items.Written : Bool → Items → List Char → Prop
  | done (isFirst : Bool) (blanks : List Char) (blank : Blanks blanks) :
      Items.Written isFirst .done (blanks ++ [']'])
  | more (isFirst : Bool) (lead text restText : List Char) (value : Value) (rest : Items)
      (leads : Lead isFirst lead) (written : Value.Written value text)
      (others : Items.Written false rest restText) :
      Items.Written isFirst (.more value rest) (lead ++ (text ++ restText))

/-- The text writes the members up to the closing bracket of their object. -/
inductive Members.Written : Bool → Members → List Char → Prop
  | done (isFirst : Bool) (blanks : List Char) (blank : Blanks blanks) :
      Members.Written isFirst .done (blanks ++ ['\x7d'])
  | more (isFirst : Bool) (lead nameText before after text restText : List Char)
      (name : List Piece) (value : Value) (rest : Members) (leads : Lead isFirst lead)
      (named : Piece.AllWritten name nameText) (blankBefore : Blanks before)
      (blankAfter : Blanks after) (written : Value.Written value text)
      (others : Members.Written false rest restText) :
      Members.Written isFirst (.more name value rest)
        (lead ++ '"' :: (nameText ++ '"' :: (before ++ ':' :: (after ++ (text ++ restText)))))

end

/-- The text is a document of the value: it writes the value, with blanks around it or not. -/
def IsDocument (value : Value) (text : String) : Prop :=
  ∃ before inner after, text.toList = before ++ (inner ++ after) ∧ Blanks before ∧ Blanks after ∧
    value.Written inner

end PushLedger.Json
