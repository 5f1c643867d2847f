import PushLedger.Json.Value

/-!
# Reading JSON text

The grammar is the strict one: four blanks, three words, numbers without superfluous zeros,
strings without raw control characters, no comma before a closing bracket. Reading never fails; it
marks the place from which the text makes no sense and stops there.

Values nest to any depth, so the recursion runs on fuel. Every second step consumes a character;
twice the length of the text is always enough.
-/

namespace PushLedger.Json

/-- The characters that may stand between tokens. -/
def isBlank (c : Char) : Bool := c = ' ' || c = '\n' || c = '\t' || c = '\r'

/-- The text from its first character that is not blank. -/
def skipBlanks (text : List Char) : List Char := text.dropWhile isBlank

/-- The value of a hexadecimal digit. -/
def hexDigit? (c : Char) : Option Nat :=
  if '0' ≤ c ∧ c ≤ '9' then some (c.toNat - '0'.toNat)
  else if 'a' ≤ c ∧ c ≤ 'f' then some (c.toNat - 'a'.toNat + 10)
  else if 'A' ≤ c ∧ c ≤ 'F' then some (c.toNat - 'A'.toNat + 10)
  else none

/-- The unit of four hexadecimal digits. -/
def hexUnit? (a b c d : Char) : Option Nat := do
  let a ← hexDigit? a
  let b ← hexDigit? b
  let c ← hexDigit? c
  let d ← hexDigit? d
  return ((a * 16 + b) * 16 + c) * 16 + d

/-- The character that a short escape stands for. -/
def shortEscape? : Char → Option Char
  | '"' => some '"'
  | '\\' => some '\\'
  | '/' => some '/'
  | 'b' => some '\x08'
  | 'f' => some '\x0C'
  | 'n' => some '\n'
  | 'r' => some '\r'
  | 't' => some '\t'
  | _ => none

/-- The pieces of a string after its opening quote, and the text after its closing one. -/
def readPieces? : List Char → Option (List Piece × List Char)
  | [] => none
  | '"' :: rest => some ([], rest)
  | '\\' :: 'u' :: a :: b :: c :: d :: rest => do
      let n ← hexUnit? a b c d
      let (pieces, rest) ← readPieces? rest
      return (.unit n :: pieces, rest)
  | '\\' :: escape :: rest => do
      let c ← shortEscape? escape
      let (pieces, rest) ← readPieces? rest
      return (.char c :: pieces, rest)
  | c :: rest =>
      if c = '\\' || c.toNat < 0x20 then none else do
        let (pieces, rest) ← readPieces? rest
        return (.char c :: pieces, rest)

/-- At least one digit, and the text after the digits. -/
def readDigits? (text : List Char) : Option (List Char × List Char) :=
  let digits := text.takeWhile Char.isDigit
  if digits.isEmpty then none else some (digits, text.dropWhile Char.isDigit)

/-- The digits before the point; only a zero by itself begins with zero. -/
def readWhole? (text : List Char) : Option (List Char × List Char) :=
  match readDigits? text with
  | some ('0' :: _ :: _, _) => none
  | result => result

/-- The digits after the point, if there is a point. -/
def readFraction? : List Char → Option (List Char × List Char)
  | '.' :: rest => readDigits? rest
  | text => some ([], text)

/-- The sign of an exponent, and the text after it. -/
def readSign : List Char → Bool × List Char
  | '-' :: rest => (true, rest)
  | '+' :: rest => (false, rest)
  | text => (false, text)

/-- The exponent, if there is one. -/
def readExponent? : List Char → Option (Option (Bool × List Char) × List Char)
  | [] => some (none, [])
  | c :: rest =>
      if c = 'e' || c = 'E' then do
        let (negative, unsigned) := readSign rest
        let (digits, rest) ← readDigits? unsigned
        return (some (negative, digits), rest)
      else some (none, c :: rest)

/-- A number and the text after it. -/
def readNumeral? (text : List Char) : Option (Numeral × List Char) := do
  let (negative, unsigned) := match text with
    | '-' :: rest => (true, rest)
    | text => (false, text)
  let (whole, rest) ← readWhole? unsigned
  let (fraction, rest) ← readFraction? rest
  let (exponent, rest) ← readExponent? rest
  return ({ negative, whole, fraction, exponent }, rest)

/-- A value other than a string, an array or an object. -/
def readScalar : List Char → Value × List Char
  | 'n' :: 'u' :: 'l' :: 'l' :: rest => (.null, rest)
  | 't' :: 'r' :: 'u' :: 'e' :: rest => (.boolean true, rest)
  | 'f' :: 'a' :: 'l' :: 's' :: 'e' :: rest => (.boolean false, rest)
  | text =>
      match readNumeral? text with
      | some (numeral, rest) => (.number numeral, rest)
      | none => (.broken, [])

mutual

/-- A value and the text after it. -/
def readValue : Nat → List Char → Value × List Char
  | 0, _ => (.broken, [])
  | fuel + 1, text =>
      match skipBlanks text with
      | '"' :: rest =>
          match readPieces? rest with
          | some (pieces, rest) => (.string pieces, rest)
          | none => (.broken, [])
      | '[' :: rest =>
          let (items, rest) := readItems fuel true rest
          (.array items, rest)
      | '\x7b' :: rest =>
          let (members, rest) := readMembers fuel true rest
          (.object members, rest)
      | text => readScalar text

/-- The items of an array and the text after it. The first one has no comma in front. -/
def readItems : Nat → Bool → List Char → Items × List Char
  | 0, _, _ => (.broken, [])
  | fuel + 1, isFirst, text =>
      let readMore := fun text =>
        let (value, rest) := readValue fuel text
        let (items, rest) := readItems fuel false rest
        (Items.more value items, rest)
      match skipBlanks text with
      | ']' :: rest => (.done, rest)
      | ',' :: rest => if isFirst then readMore (',' :: rest) else readMore rest
      | text => if isFirst then readMore text else (.broken, [])

/-- The members of an object and the text after it. The first one has no comma in front. -/
def readMembers : Nat → Bool → List Char → Members × List Char
  | 0, _, _ => (.broken, [])
  | fuel + 1, isFirst, text =>
      let readMore := fun text =>
        match skipBlanks text with
        | '"' :: rest =>
            match readPieces? rest with
            | none => (Members.broken, [])
            | some (name, rest) =>
                match skipBlanks rest with
                | ':' :: rest =>
                    let (value, rest) := readValue fuel rest
                    let (members, rest) := readMembers fuel false rest
                    (.more name value members, rest)
                | _ => (.more name .broken .broken, [])
        | _ => (.broken, [])
      match skipBlanks text with
      | '\x7d' :: rest => (.done, rest)
      | ',' :: rest => if isFirst then readMore (',' :: rest) else readMore rest
      | text => if isFirst then readMore text else (.broken, [])

end

/-- The value at the beginning of a text and what follows it. -/
def read (text : String) : Value × List Char :=
  readValue (2 * text.length + 2) text.toList

end PushLedger.Json
