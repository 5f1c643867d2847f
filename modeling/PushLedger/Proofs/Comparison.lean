import PushLedger.Cell.Basic

/-!
# Comparing cells with integers

The statements of the ledger compare cells with integers only: a flag with zero and one, a stamp
with a cutoff, an id with one. A cell may hold a real, and what is true of integers in these
comparisons is true of reals as well: a cell equals one integer at most, two cells that equal the
same integer equal each other, and what is at most an integer is at most every greater one. An id may
have been stored as a real, and what equals that real equals the integer.
-/

namespace PushLedger

namespace Binary64

/-- The denominator of a finite real is positive. -/
theorem denominator_pos (x : Binary64) (p : Nat × Nat) (found : x.ratio? = some p) : 0 < p.2 := by
  unfold ratio? at found
  split at found
  · rename_i mantissa exponent finite
    have scaled : Number.scaledUp mantissa exponent = p := Option.some.inj found
    rw [← scaled, Number.scaledUp]
    split
    · exact Nat.one_pos
    · exact Nat.pow_pos (by decide)
  · exact nomatch found

/-- A real equals an integer exactly if it is finite and its quotient is that integer. -/
theorem orderInt_eq_iff (x : Binary64) (n : Int) :
    x.orderInt n = .eq ↔ ∃ p, x.ratio? = some p ∧ signed x.negative p.1 = n * (p.2 : Int) := by
  unfold orderInt
  cases found : x.ratio? with
  | some p => simp
  | none => cases x.negative <;> simp

/-- A real equals one integer at most. -/
theorem orderInt_unique (x : Binary64) (m n : Int) (first : x.orderInt m = .eq)
    (second : x.orderInt n = .eq) : m = n := by
  obtain ⟨p, found, sameM⟩ := (x.orderInt_eq_iff m).mp first
  obtain ⟨q, again, sameN⟩ := (x.orderInt_eq_iff n).mp second
  obtain rfl : p = q := Option.some.inj (found.symm.trans again)
  have positive : (0 : Int) < (p.2 : Int) := Int.natCast_pos.mpr (x.denominator_pos p found)
  exact Int.eq_of_mul_eq_mul_right (Int.ne_of_gt positive) (sameM.symm.trans sameN)

/-- A real that is at most an integer is at most every greater one. -/
theorem orderInt_mono (x : Binary64) {m n : Int} (ordered : m ≤ n) (atMost : x.orderInt m ≠ .gt) :
    x.orderInt n ≠ .gt := by
  unfold orderInt at atMost ⊢
  cases found : x.ratio? with
  | some p =>
    simp only [found, ne_eq, Int.compare_eq_gt, Int.not_lt] at atMost ⊢
    have scaled : m * (p.2 : Int) ≤ n * (p.2 : Int) :=
      Int.mul_le_mul_of_nonneg_right ordered (Int.natCast_nonneg p.2)
    omega
  | none =>
    simp only [found] at atMost
    exact atMost

end Binary64

namespace Cell

/-- Two cells that equal one integer equal each other. -/
theorem same_of_integer (a b : Cell) (n : Int) (first : a.same (.integer n) = true)
    (second : b.same (.integer n) = true) : a.same b = true := by
  cases a <;> cases b <;> simp only [same, order, beq_iff_eq, reduceCtorEq] at first second ⊢
  case integer.integer a b =>
    rw [Int.compare_eq_eq] at first second ⊢
    omega
  case integer.real a y =>
    obtain rfl := Int.compare_eq_eq.mp first
    rw [second]
    rfl
  case real.integer x b =>
    obtain rfl := Int.compare_eq_eq.mp second
    exact first
  case real.real x y =>
    obtain ⟨p, foundX, sameX⟩ := (x.orderInt_eq_iff n).mp first
    obtain ⟨q, foundY, sameY⟩ := (y.orderInt_eq_iff n).mp second
    rw [Binary64.order, foundX, foundY]
    simp only [sameX, sameY, Int.compare_eq_eq]
    exact Int.mul_right_comm n p.2 q.2

/-- A cell that equals a real of integer value equals the integer. -/
theorem same_integer_of_real (cell : Cell) (x : Binary64) (n : Int) (value : x.orderInt n = .eq)
    (equal : cell.same (.real x) = true) : cell.same (.integer n) = true := by
  cases cell <;> simp only [same, order, beq_iff_eq, reduceCtorEq] at equal ⊢
  case integer m =>
    have reached : x.orderInt m = .eq := Ordering.swap_eq_eq.mp equal
    exact Int.compare_eq_eq.mpr (x.orderInt_unique m n reached value)
  case real y =>
    obtain ⟨p, found, sameX⟩ := (x.orderInt_eq_iff n).mp value
    have positive : (0 : Int) < (p.2 : Int) := Int.natCast_pos.mpr (x.denominator_pos p found)
    unfold Binary64.order at equal
    cases foundY : y.ratio? with
    | none =>
      rw [foundY, found] at equal
      cases sign : y.negative <;> simp [sign] at equal
    | some q =>
      rw [foundY, found] at equal
      refine (y.orderInt_eq_iff n).mpr ⟨q, foundY, ?_⟩
      refine Int.eq_of_mul_eq_mul_right (Int.ne_of_gt positive) ?_
      rw [Int.compare_eq_eq.mp equal, sameX]
      exact Int.mul_right_comm n p.2 q.2

/-- A cell equals one integer at most. -/
theorem isInteger_unique (cell : Cell) (m n : Int) (first : cell.isInteger m = true)
    (second : cell.isInteger n = true) : m = n := by
  cases cell with
  | integer a =>
    rw [isInteger_integer, decide_eq_true_eq] at first second
    omega
  | real x =>
    simp only [isInteger, same, order, Bool.and_eq_true, beq_iff_eq] at first second
    exact x.orderInt_unique m n first.2 second.2
  | _ => simp [isInteger, same, order] at first

/-- A cell that is at most an integer is at most every greater one. -/
theorem atMost_mono (cell : Cell) {m n : Int} (ordered : m ≤ n) (atMost : cell.atMost m = true) :
    cell.atMost n = true := by
  cases cell with
  | integer a =>
    rw [atMost_integer, decide_eq_true_eq] at atMost ⊢
    omega
  | real x =>
    simp only [Cell.atMost, order, Bool.and_eq_true, bne_iff_ne] at atMost ⊢
    exact ⟨atMost.1, x.orderInt_mono ordered atMost.2⟩
  | _ => simp [Cell.atMost, order] at atMost

end Cell

end PushLedger
