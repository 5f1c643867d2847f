import PushLedger.Subscription.TopicSet

/-!
# The order of bytes

Texts are ordered by their code points, and the storage orders them by the bytes of their encoding.
Both orders are one. A character is encoded as a first byte, which says how many bytes follow it, and
the last digits of its code point to the base 64; so of two characters the greater one is encoded as
the greater bytes, whatever comes after them.
-/

namespace PushLedger.Text

/-- The bytes of a text in UTF-8. -/
def utf8 (s : String) : List UInt8 := s.toUTF8.data.toList

/-- How many bytes follow the first one in the encoding of a code point. -/
def tailCount (point : Nat) : Nat :=
  if point ≤ 127 then 0 else if point ≤ 2047 then 1 else if point ≤ 65535 then 2 else 3

/-- The bytes that follow the first one: so many of the last digits to the base 64. -/
def tailBytes : Nat → Nat → List UInt8
  | 0, _ => []
  | count + 1, point => tailBytes count (point / 64) ++ [UInt8.ofNat (point % 64 + 128)]

/-- The digits that so many of the last ones leave. -/
def leadDigits : Nat → Nat → Nat
  | 0, point => point
  | count + 1, point => leadDigits count (point / 64)

/-- What the digits in the first byte stay below. -/
def firstBound : Nat → Nat
  | 0 => 128
  | 1 => 32
  | 2 => 16
  | _ => 8

/-- What the first byte adds to its digits to say how many bytes follow. -/
def firstOffset : Nat → Nat
  | 0 => 0
  | 1 => 192
  | 2 => 224
  | _ => 240

/-- The first byte, with the digits that the tail leaves. -/
def firstByte (count digits : Nat) : UInt8 :=
  UInt8.ofNat (digits % firstBound count + firstOffset count)

/-- The bytes of a text are those of its characters. -/
theorem utf8_eq (s : String) : utf8 s = s.toList.flatMap String.utf8EncodeChar := by
  rw [utf8, String.toUTF8_eq_toByteArray, ← String.utf8Encode_toList, List.utf8Encode,
    List.data_toByteArray]

/-- A character is encoded as its first byte and the bytes that follow it. -/
theorem utf8EncodeChar_eq (c : Char) : String.utf8EncodeChar c =
    firstByte (tailCount c.val.toNat) (leadDigits (tailCount c.val.toNat) c.val.toNat) ::
      tailBytes (tailCount c.val.toNat) c.val.toNat := by
  unfold String.utf8EncodeChar tailCount
  dsimp only
  repeat' split
  case isTrue short =>
    have whole : c.val.toNat % 128 = c.val.toNat := Nat.mod_eq_of_lt (Nat.lt_succ_of_le short)
    simp only [firstByte, firstBound, firstOffset, leadDigits, tailBytes, whole, Nat.add_zero]
  all_goals simp [firstByte, firstBound, firstOffset, leadDigits, tailBytes, Nat.div_div_eq_div_mul]

/-- No more than three bytes follow the first one. -/
theorem tailCount_le (point : Nat) : tailCount point ≤ 3 := by
  unfold tailCount
  repeat' split
  all_goals omega

/-- A greater code point is not encoded in fewer bytes. -/
theorem tailCount_mono (m n : Nat) (less : m < n) : tailCount m ≤ tailCount n := by
  unfold tailCount
  repeat' split
  all_goals omega

/-- The digits in the first byte of a character stay below the bound of its length. -/
theorem digits_lt_firstBound (c : Char) :
    leadDigits (tailCount c.val.toNat) c.val.toNat < firstBound (tailCount c.val.toNat) := by
  have valid : c.val.toNat < 1114112 := by
    rcases c.valid with low | high
    · omega
    · exact high.2
  unfold tailCount
  repeat' split
  all_goals
    simp only [leadDigits, firstBound]
    omega

/-- The first byte is a byte. -/
theorem firstByte_bounded : ∀ count ≤ 3, firstBound count + firstOffset count ≤ 256 := by
  decide

/-- The first byte of a longer encoding lies above those of all shorter ones. -/
theorem firstByte_apart : ∀ long ≤ 3, ∀ short < long,
    firstBound short + firstOffset short ≤ firstOffset long := by
  decide

/-- The first byte as a number. -/
theorem toNat_firstByte (count digits : Nat) (short : count ≤ 3)
    (bounded : digits < firstBound count) :
    (firstByte count digits).toNat = digits + firstOffset count := by
  have fits := firstByte_bounded count short
  rw [firstByte, UInt8.toNat_ofNat', Nat.mod_eq_of_lt bounded, Nat.mod_eq_of_lt (by omega)]

/-- Of two code points with as many bytes the greater one has the greater bytes: they differ first in
a digit of the tail, or already in the digits of the first byte. -/
theorem bytes_lt (length count m n : Nat) (short : length ≤ 3) (less : m < n)
    (bounded : leadDigits count n < firstBound length) (s t : List UInt8) :
    firstByte length (leadDigits count m) :: (tailBytes count m ++ s) <
      firstByte length (leadDigits count n) :: (tailBytes count n ++ t) := by
  induction count generalizing m n s t with
  | zero =>
    simp only [leadDigits] at bounded ⊢
    refine List.cons_lt_cons_iff.mpr (.inl ?_)
    rw [UInt8.lt_iff_toNat_lt, toNat_firstByte length m short (by omega),
      toNat_firstByte length n short bounded]
    omega
  | succ count inductionHypothesis =>
    simp only [leadDigits] at bounded
    simp only [leadDigits, tailBytes, List.append_assoc]
    rcases Nat.lt_or_ge (m / 64) (n / 64) with high | low
    · exact inductionHypothesis (m / 64) (n / 64) high bounded _ _
    · -- all digits before the last one agree, so the last one decides
      have same : m / 64 = n / 64 := by omega
      have digit : UInt8.ofNat (m % 64 + 128) < UInt8.ofNat (n % 64 + 128) := by
        rw [UInt8.lt_iff_toNat_lt, UInt8.toNat_ofNat', UInt8.toNat_ofNat']
        omega
      rw [same]
      refine List.cons_lt_cons_iff.mpr (.inr ⟨rfl, List.append_left_lt ?_⟩)
      exact List.cons_lt_cons_iff.mpr (.inl digit)

/-- Of two characters the greater one is encoded as the greater bytes, whatever comes after them. -/
theorem encode_append_lt (c d : Char) (less : c < d) (s t : List UInt8) :
    String.utf8EncodeChar c ++ s < String.utf8EncodeChar d ++ t := by
  have below : c.val.toNat < d.val.toNat := less
  have boundC := digits_lt_firstBound c
  have boundD := digits_lt_firstBound d
  rw [utf8EncodeChar_eq, utf8EncodeChar_eq, List.cons_append, List.cons_append]
  rcases Nat.eq_or_lt_of_le (tailCount_mono _ _ below) with same | longer
  · rw [same]
    exact bytes_lt _ _ _ _ (tailCount_le _) below boundD s t
  · have apart := firstByte_apart _ (tailCount_le d.val.toNat) _ longer
    refine List.cons_lt_cons_iff.mpr (.inl ?_)
    rw [UInt8.lt_iff_toNat_lt, toNat_firstByte _ _ (tailCount_le _) boundC,
      toNat_firstByte _ _ (tailCount_le _) boundD]
    calc leadDigits (tailCount c.val.toNat) c.val.toNat + firstOffset (tailCount c.val.toNat)
        < firstBound (tailCount c.val.toNat) + firstOffset (tailCount c.val.toNat) :=
          Nat.add_lt_add_right boundC _
      _ ≤ firstOffset (tailCount d.val.toNat) := apart
      _ ≤ leadDigits (tailCount d.val.toNat) d.val.toNat + firstOffset (tailCount d.val.toNat) :=
          Nat.le_add_left _ _

/-- Characters in a greater order are encoded as greater bytes. -/
theorem flatMap_encode_lt (s t : List Char) (less : s < t) :
    s.flatMap String.utf8EncodeChar < t.flatMap String.utf8EncodeChar := by
  induction s generalizing t with
  | nil =>
    cases t with
    | nil => exact absurd less (List.not_lt_nil _)
    | cons d t =>
      rw [List.flatMap_cons, utf8EncodeChar_eq]
      exact List.nil_lt_cons _ _
  | cons c s inductionHypothesis =>
    cases t with
    | nil => exact absurd less (List.not_lt_nil _)
    | cons d t =>
      rw [List.flatMap_cons, List.flatMap_cons]
      rcases List.cons_lt_cons_iff.mp less with first | ⟨rfl, later⟩
      · exact encode_append_lt c d first _ _
      · exact List.append_left_lt (inductionHypothesis t later)

/-- Texts are in the order of their bytes. -/
theorem utf8_lt_iff (s t : String) : utf8 s < utf8 t ↔ s < t := by
  have forward (s t : String) (less : s < t) : utf8 s < utf8 t := by
    rw [utf8_eq, utf8_eq]
    exact flatMap_encode_lt _ _ (String.lt_iff.mp less)
  refine ⟨fun bytes => ?_, forward s t⟩
  by_cases less : s < t
  · exact less
  · by_cases more : t < s
    · exact absurd (forward t s more) (List.lt_asymm bytes)
    · obtain rfl := String.le_antisymm (String.not_lt.mp more) (String.not_lt.mp less)
      exact absurd bytes (List.lt_irrefl _)

end PushLedger.Text
