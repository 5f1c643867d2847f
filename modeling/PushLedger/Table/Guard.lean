import PushLedger.Table.Row

/-!
# Guards

A guard is a rule that someone outside the ledger has put on the table. Before a row is inserted,
deleted or flagged, a guard that watches it either refuses the whole statement with a message or
lets the statement pass over the row in silence.
-/

namespace PushLedger

/-- The kinds of change that a guard can watch. -/
inductive Moment
  | insert | delete | flag
deriving DecidableEq, Repr

/-- A rule on the table. -/
structure Guard where
  moment : Moment
  /-- Watch only rows of this topic. -/
  topic : Option String
  /-- Refuse with this message; without one, skip the row. -/
  message : Option String
deriving DecidableEq, Repr

namespace Guard

/-- The name under which a guard is listed. -/
def name : String := "guard"

/-- The guard watches this change of this row. -/
def watches (g : Guard) (moment : Moment) (content : Content) : Bool :=
  g.moment = moment &&
    match g.topic with
    | none => true
    | some topic => content.topic.isText topic

/-- What a guard, if there is one, is listed as. -/
def listing (g : Option Guard) : List String := if g.isSome then [s!"trigger {name}"] else []

end Guard

/-- A guard, if there is one, stands against this change of the row. -/
def Guard.stops (g : Option Guard) (moment : Moment) (content : Content) : Bool :=
  g.any fun g => g.watches moment content

/-- The refusal that a guard gives to this change of the row. -/
def Guard.refusal? (g : Option Guard) (moment : Moment) (content : Content) : Option String :=
  g.bind fun g => if g.watches moment content then g.message else none

end PushLedger
