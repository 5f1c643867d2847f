import PushLedger.Ledger.Reading

/-!
# The sweep

A sweep is one change in three steps. It deletes the rows that were warned before and have reached
the age of expiry. It collects where to send a warning: the distinct addresses of the rows that
were not warned before and have reached the age of warning. It flags these rows as warned.

Ages are compared by cutoffs, the stamps that lie one span before the clock. A warning span that is
not shorter than the expiry span is reported and otherwise carried out: a row past both is warned
by one sweep and deleted by a later one, never both at once.
-/

namespace PushLedger

/-- What a sweep did. -/
structure SweepOutcome where
  expired : Nat
  warned : Nat
  targets : List PushTarget
deriving DecidableEq, Repr

/-- The cells to which a warning is addressed. -/
structure Address where
  endpoint : Cell
  keyAuth : Cell
  keyP256dh : Cell
  userId : Cell
deriving DecidableEq, Repr

namespace Address

/-- The address of a row. -/
def ofRow (row : Row) : Address := ⟨row.endpoint, row.keyAuth, row.keyP256dh, row.userId⟩

/-- Two addresses that the order of cells does not tell apart. -/
def same (a b : Address) : Bool :=
  a.endpoint.same b.endpoint && a.keyAuth.same b.keyAuth && a.keyP256dh.same b.keyP256dh &&
    a.userId.same b.userId

/-- The first of each group of equal addresses, as long as it was not seen before. -/
def distinct (seen : List Address) : List Address → List Address
  | [] => []
  | a :: rest =>
      if seen.any a.same then distinct seen rest else a :: distinct (a :: seen) rest

/-- The target that an address names; its cells must be text. -/
def read (a : Address) : Except StorageFault PushTarget := do
  let endpoint ← a.endpoint.readText 0 .endpoint
  let keyAuth ← a.keyAuth.readText 1 .keyAuth
  let keyP256dh ← a.keyP256dh.readText 2 .keyP256dh
  let userId ← a.userId.readOptionalText 3 .userId
  return ⟨endpoint, keyAuth, keyP256dh, userId⟩

end Address

namespace Row

/-- The row was warned and is stamped at the cutoff of expiry or before. -/
def isExpired (expireBefore : Int) (row : Row) : Bool :=
  row.warningSent.isInteger 1 && row.updatedAt.atMost expireBefore

/-- The row was not warned and is stamped at the cutoff of warning or before. -/
def isDue (warnBefore : Int) (row : Row) : Bool :=
  row.warningSent.isInteger 0 && row.updatedAt.atMost warnBefore

end Row

namespace Table

/-- The distinct addresses of the rows that are due, by endpoint and otherwise in the order of the
rows. -/
def dueAddresses (t : Table) (warnBefore : Int) : List Address :=
  (Address.distinct [] ((t.rows.filter (Row.isDue warnBefore)).map Address.ofRow)).mergeSort
    fun a b => a.endpoint.order b.endpoint != .gt

/-- The three steps of a sweep. -/
def sweep (t : Table) (expireBefore warnBefore : Int) :
    Except StorageFault (Table × SweepOutcome) := do
  let (t, expired) ← t.delete (Row.isExpired expireBefore)
  let targets ← (t.dueAddresses warnBefore).mapM Address.read
  let (t, warned) ← t.flag (Row.isDue warnBefore)
  return (t, { expired, warned, targets })

end Table

namespace Database

/-- The sweep of the subscription table. -/
def sweepRows (db : Database) (expireBefore warnBefore : Int) :
    Except StorageFault (Database × SweepOutcome) := do
  let t ← db.flaggedTable .warningSent
  let (t, outcome) ← t.sweep expireBefore warnBefore
  return (db.withTable t, outcome)

/-- What is reported of spans in the wrong order. -/
def misconfiguration (warning expiry : Span) : List Event :=
  if expiry ≤ warning then [.sweepMisconfigured warning.floorMillis expiry.floorMillis] else []

/-- The sweep at a clock reading. -/
def sweep (db : Database) (warning expiry : Span) (now : Instant) : Outcome SweepOutcome :=
  (Outcome.transact db (db.sweepRows (now.cutoff expiry) (now.cutoff warning)) fun outcome =>
    [.swept outcome.expired outcome.warned outcome.targets.length]).after
    (misconfiguration warning expiry)

end Database

namespace PushTarget

/-- The order of optional texts, nothing first. -/
def orderOptional : Option String → Option String → Ordering
  | none, none => .eq
  | none, some _ => .lt
  | some _, none => .gt
  | some a, some b => Cell.orderText a b

/-- The order of targets by endpoint, keys and owner. -/
def order (a b : PushTarget) : Ordering :=
  ((Cell.orderText a.endpoint b.endpoint).then (Cell.orderText a.keyAuth b.keyAuth)).then
    ((Cell.orderText a.keyP256dh b.keyP256dh).then (orderOptional a.userId b.userId))

/-- Targets in an order that does not depend on the order of rows. -/
def arranged (targets : List PushTarget) : List PushTarget :=
  targets.mergeSort fun a b => a.order b != .gt

end PushTarget
end PushLedger
