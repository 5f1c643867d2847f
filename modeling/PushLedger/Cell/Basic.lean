import PushLedger.Number.Binary64
import PushLedger.Word

/-!
# Cells

A cell is what one column of one row holds: nothing, an integer, a real, text or bytes. Columns do
not force a class on their cells, so every reader says which class it needs.

Cells are totally ordered: nothing comes first, numbers follow by value whatever their class, then
text by code points, then bytes. An equality of cells is an equality in this order.
-/

namespace PushLedger

/-- The five classes of stored values. -/
inductive StorageClass
  | null | integer | real | text | blob
deriving DecidableEq, Repr

/-- The content of one column of one row. -/
inductive Cell
  | null
  | integer (value : Int)
  | real (value : Binary64)
  | text (value : String)
  | blob (bytes : List UInt8)
deriving DecidableEq, Repr

namespace Cell

instance : Inhabited Cell := ⟨.null⟩

/-- The class of a cell. -/
def storageClass : Cell → StorageClass
  | .null => .null
  | .integer _ => .integer
  | .real _ => .real
  | .text _ => .text
  | .blob _ => .blob

/-- Text, or nothing for an absent text. -/
def ofText? : Option String → Cell
  | none => .null
  | some s => .text s

/-- The order of two byte strings. -/
def orderBytes : List UInt8 → List UInt8 → Ordering
  | [], [] => .eq
  | [], _ :: _ => .lt
  | _ :: _, [] => .gt
  | a :: as, b :: bs => if a < b then .lt else if b < a then .gt else orderBytes as bs

/-- The order of two texts, by code points; it is also the order of their UTF-8 bytes. -/
def orderText (a b : String) : Ordering := if a < b then .lt else if a = b then .eq else .gt

/-- The total order of cells. -/
def order : Cell → Cell → Ordering
  | .null, .null => .eq
  | .null, _ => .lt
  | _, .null => .gt
  | .integer a, .integer b => compare a b
  | .integer a, .real b => (b.orderInt a).swap
  | .real a, .integer b => a.orderInt b
  | .real a, .real b => a.order b
  | .integer _, _ => .lt
  | .real _, _ => .lt
  | _, .integer _ => .gt
  | _, .real _ => .gt
  | .text a, .text b => orderText a b
  | .text _, .blob _ => .lt
  | .blob _, .text _ => .gt
  | .blob a, .blob b => orderBytes a b

/-- Two cells that the order does not tell apart; an integer and a real of one value are such. -/
def same (a b : Cell) : Bool := a.order b == .eq

/-- Equality with a text: only a text cell has it. -/
def isText (cell : Cell) (s : String) : Bool :=
  match cell with
  | .text t => t == s
  | _ => false

/-- Equality with an integer, by value; an empty cell equals nothing. -/
def isInteger (cell : Cell) (n : Int) : Bool := cell != .null && cell.same (.integer n)

/-- At most an integer in the order of cells; an empty cell is not compared. -/
def atMost (cell : Cell) (n : Int) : Bool := cell != .null && cell.order (.integer n) != .gt

@[simp] theorem isText_text (t s : String) : (Cell.text t).isText s = (t == s) := rfl

@[simp] theorem isInteger_integer (a n : Int) : (Cell.integer a).isInteger n = decide (a = n) := by
  simp only [isInteger, same, order]
  by_cases equal : a = n
  · subst equal; simp [compare, compareOfLessAndEq]
  · simp only [equal, decide_false]
    by_cases less : a < n <;> simp [compare, compareOfLessAndEq, less, equal]

@[simp] theorem atMost_integer (a n : Int) : (Cell.integer a).atMost n = decide (a ≤ n) := by
  simp only [atMost, order]
  by_cases less : a < n
  · have bounded : a ≤ n := by omega
    simp [compare, compareOfLessAndEq, less, bounded]
  · by_cases equal : a = n
    · subst equal; simp [compare, compareOfLessAndEq]
    · have apart : ¬ a ≤ n := by omega
      simp [compare, compareOfLessAndEq, less, equal, apart]

end Cell
end PushLedger
