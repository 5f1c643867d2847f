/-!
# Signed 64-bit words as integers

Clock readings, row ids and stored integers live between two bounds. They are kept as plain
integers, so that arithmetic on them is ordinary arithmetic, and every operation that could leave
the range ends in `saturate`, which moves a value to the nearer bound.
-/

namespace PushLedger.Word

/-- The least signed 64-bit integer. -/
def least : Int := -9223372036854775808

/-- The greatest signed 64-bit integer. -/
def greatest : Int := 9223372036854775807

/-- The bounds of a signed 64-bit integer, as a proposition on plain integers. -/
def Holds (n : Int) : Prop := least ≤ n ∧ n ≤ greatest

instance (n : Int) : Decidable (Holds n) := by unfold Holds; infer_instance

/-- The nearest value within the bounds. -/
def saturate (n : Int) : Int := max least (min greatest n)

/-- Saturation always lands within the bounds, whatever it is given. -/
theorem holds_saturate (n : Int) : Holds (saturate n) := by
  unfold Holds saturate least greatest; omega

/-- A value within the bounds is left alone. -/
theorem saturate_of_holds {n : Int} (bounded : Holds n) : saturate n = n := by
  unfold Holds at bounded; unfold saturate; omega

/-- Saturation keeps the order, so a comparison survives it on both sides. -/
theorem saturate_mono {m n : Int} (ordered : m ≤ n) : saturate m ≤ saturate n := by
  unfold saturate; omega

/-- The greatest unsigned 64-bit integer. -/
def greatestUnsigned : Nat := 18446744073709551615

end PushLedger.Word
