import PushLedger.Word

/-!
# Spans of time

A span is a whole number of nanoseconds. The ledger counts in milliseconds, and a span is turned
into milliseconds upwards: a span that is not empty never becomes zero. The result is capped at the
greatest signed word.
-/

namespace PushLedger

/-- A length of time in nanoseconds. -/
structure Span where
  nanos : Nat
deriving DecidableEq, Repr

namespace Span

/-- Nanoseconds in a second. -/
def nanosPerSecond : Nat := 1000000000

/-- Nanoseconds in a millisecond. -/
def nanosPerMilli : Nat := 1000000

/-- The span of so many seconds. -/
def ofSeconds (seconds : Nat) : Span := ⟨seconds * nanosPerSecond⟩

/-- Seconds and nanoseconds together; a nanosecond part of a second or more carries over. -/
def ofParts (seconds nanos : Nat) : Span := ⟨seconds * nanosPerSecond + nanos⟩

instance : LE Span := ⟨fun a b => a.nanos ≤ b.nanos⟩
instance : LT Span := ⟨fun a b => a.nanos < b.nanos⟩
instance (a b : Span) : Decidable (a ≤ b) := inferInstanceAs (Decidable (a.nanos ≤ b.nanos))
instance (a b : Span) : Decidable (a < b) := inferInstanceAs (Decidable (a.nanos < b.nanos))

/-- The least whole number of milliseconds that covers the span. -/
def ceilMillis (d : Span) : Nat := (d.nanos + (nanosPerMilli - 1)) / nanosPerMilli

/-- The number of full milliseconds in the span; reports print this one. -/
def floorMillis (d : Span) : Nat := d.nanos / nanosPerMilli

/-- The span in milliseconds, rounded up and capped at the greatest word. -/
def millis (d : Span) : Int := min (d.ceilMillis : Int) Word.greatest

end Span
end PushLedger
