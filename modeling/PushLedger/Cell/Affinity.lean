import PushLedger.Cell.Basic
import PushLedger.Number.Numeric
import PushLedger.Number.Decimal

/-!
# Affinity

A column with an affinity nudges what is written into it. A text column turns numbers into text. A
numeric column turns text that is a number into that number, and a real that equals an integer
into the integer; a column of reals turns every number into a real. Whatever cannot be turned stays
as it is; an empty cell and bytes always stay. What was once stored is stored again as it is.
-/

namespace PushLedger

/-- The preference of a column. -/
inductive Affinity
  | text | numeric | real | none
deriving DecidableEq, Repr

namespace Cell

/-- A real that equals an integer strictly within the signed words becomes that integer. -/
def settleReal (x : Binary64) : Cell :=
  match x.toInt? with
  | some n => if Word.least < n ∧ n < Word.greatest then .integer n else .real x
  | Option.none => .real x

/-- Text that is a number in full becomes the number; an integer too large for a word becomes a
real. -/
def settleText (s : String) : Cell :=
  let scan := Number.scanNumeric s.toList
  if !scan.whole then .text s
  else if scan.integral && decide (Word.Holds scan.integer) then .integer scan.integer
  else settleReal scan.value

/-- A settled real is an integer or the real itself. -/
theorem settleReal_cases (x : Binary64) :
    (∃ n, settleReal x = .integer n) ∨ settleReal x = .real x := by
  unfold settleReal
  split
  · split
    · exact .inl ⟨_, rfl⟩
    · exact .inr rfl
  · exact .inr rfl

/-- A settled text is the text itself, an integer, or a real that stays as it is. -/
theorem settleText_cases (s : String) :
    settleText s = .text s ∨ (∃ n, settleText s = .integer n) ∨
      ∃ x, settleText s = .real x ∧ settleReal x = .real x := by
  unfold settleText
  dsimp only
  split
  · exact .inl rfl
  · split
    · exact .inr (.inl ⟨_, rfl⟩)
    · rcases settleReal_cases (Number.scanNumeric s.toList).value with settled | kept
      · exact .inr (.inl settled)
      · exact .inr (.inr ⟨_, kept, kept⟩)

/-- An integer as a real; any other cell stays. -/
def asReal : Cell → Cell
  | .integer n => .real (.ofRatio (n < 0) n.natAbs 1)
  | cell => cell

/-- The decimal text of an integer. -/
def integerText (n : Int) : String :=
  String.ofList (Number.withSign (n < 0) (Number.digitChars n.natAbs))

end Cell

/-- What a column with this affinity stores when a cell is written into it. -/
def Affinity.apply : Affinity → Cell → Cell
  | .text, .integer n => .text (Cell.integerText n)
  | .text, .real x => .text (String.ofList (Number.columnText x))
  | .numeric, .text s => Cell.settleText s
  | .numeric, .real x => Cell.settleReal x
  | .real, .text s => (Cell.settleText s).asReal
  | .real, .integer n => (Cell.integer n).asReal
  | _, cell => cell

namespace Affinity

/-- A column with this affinity stores integers as they are. -/
def keepsIntegers : Affinity → Bool
  | .text => false
  | .real => false
  | _ => true

/-- An integer is stored as it is by a column that keeps integers. -/
theorem apply_integer (affinity : Affinity) (keeps : affinity.keepsIntegers = true) (n : Int) :
    affinity.apply (.integer n) = .integer n := by
  cases affinity <;> simp_all [keepsIntegers, apply]

/-- An empty cell is stored for an empty cell only. -/
@[simp] theorem apply_eq_null_iff (affinity : Affinity) (cell : Cell) :
    affinity.apply cell = .null ↔ cell = .null := by
  cases cell with
  | text s =>
    rcases Cell.settleText_cases s with kept | ⟨n, settled⟩ | ⟨x, settled, _⟩ <;>
      cases affinity <;> simp [apply, Cell.asReal, *]
  | real x =>
    rcases Cell.settleReal_cases x with ⟨n, settled⟩ | kept <;>
      cases affinity <;> simp [apply, *]
  | _ => cases affinity <;> simp [apply, Cell.asReal]

/-- Only a column that keeps integers holds one. -/
theorem keepsIntegers_of_apply (affinity : Affinity) (cell : Cell) (n : Int)
    (stored : affinity.apply cell = .integer n) : affinity.keepsIntegers = true := by
  cases affinity with
  | text => cases cell <;> simp [apply] at stored
  | real =>
    cases cell with
    | text s =>
      rcases Cell.settleText_cases s with kept | ⟨m, settled⟩ | ⟨x, settled, _⟩ <;>
        simp [apply, Cell.asReal, *] at stored
    | _ => simp [apply, Cell.asReal] at stored
  | _ => rfl

/-- What was stored is stored again as it is. -/
@[simp] theorem apply_apply (affinity : Affinity) (cell : Cell) :
    affinity.apply (affinity.apply cell) = affinity.apply cell := by
  cases cell with
  | text s =>
    rcases Cell.settleText_cases s with kept | ⟨n, settled⟩ | ⟨x, settled, kept⟩ <;>
      cases affinity <;> simp [apply, Cell.asReal, *]
  | real x =>
    rcases Cell.settleReal_cases x with ⟨n, settled⟩ | kept <;>
      cases affinity <;> simp [apply, *]
  | _ => cases affinity <;> simp [apply, Cell.asReal]

end Affinity

namespace Cell

/-- The characters of a cell read as text; bytes stand for the characters of their value. -/
def looseChars : Cell → List Char
  | .text s => s.toList
  | .blob bytes => bytes.map fun b => Char.ofNat b.toNat
  | .integer n => (integerText n).toList
  | .real x => Number.columnText x
  | .null => []

/-- Truth of a cell: a number other than zero. Text and bytes count as the number they begin
with. -/
def isTrue : Cell → Bool
  | .null => false
  | .integer n => n != 0
  | .real x => !x.isZero
  | cell => !(Number.scanNumeric cell.looseChars).value.isZero

/-- A cell whose text consists of spaces only. Other blanks do not count here, and an empty cell
is not text at all. -/
def isSpaces : Cell → Bool
  | .null => false
  | cell => cell.looseChars.all (· = ' ')

end Cell
end PushLedger
