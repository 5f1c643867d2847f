import PushLedger.Time.Span

/-!
# Instants

An instant is a clock reading in milliseconds since 1970-01-01 00:00 UTC, within the signed words.
Moving forwards and backwards saturates, so no reading is ever out of range and no sum wraps.
-/

namespace PushLedger

/-- A clock reading; the bounds are part of the value. -/
structure Instant where
  millis : Int
  bounded : Word.Holds millis
deriving DecidableEq

namespace Instant

/-- The reading nearest to a number of milliseconds. -/
def ofMillis (n : Int) : Instant := ⟨Word.saturate n, Word.holds_saturate n⟩

/-- The start of the epoch, where a clock starts that nobody has set. -/
def epoch : Instant := ofMillis 0

instance : Inhabited Instant := ⟨epoch⟩

/-- The reading after a span has passed. -/
def advance (t : Instant) (d : Span) : Instant := ofMillis (t.millis + d.millis)

/-- The stamp that lies a span before the reading, or the least one where that would lie before all
stamps. -/
def cutoff (t : Instant) (d : Span) : Int := Word.saturate (t.millis - d.millis)

/-- The age of a stamp at this reading; negative for a stamp from the future. -/
def ageOf (t : Instant) (stamp : Int) : Int := Word.saturate (t.millis - stamp)

@[simp] theorem millis_ofMillis (n : Int) : (ofMillis n).millis = Word.saturate n := rfl

end Instant
end PushLedger
