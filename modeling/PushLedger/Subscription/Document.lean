import PushLedger.Subscription.Basic
import PushLedger.Json.Record

/-!
# Subscriptions as JSON

Subscriptions and push targets are written as objects with their fields in order. They are read from
objects in any order of members, with further members that nobody looks at, or from arrays in the
order of the fields. The owner may be left out of an object; in an array it has its place.
-/

namespace PushLedger

open Json

namespace PushTarget

/-- A push target as far as it has been read. -/
structure Draft where
  endpoint : Option String := none
  keyAuth : Option String := none
  keyP256dh : Option String := none
  userId : Option (Option String) := none
deriving DecidableEq, Repr

/-- The fields of a push target. -/
def fields : List (RecordField Draft) :=
  [ { name := "endpoint"
      given := fun draft => draft.endpoint.isSome
      take := fun value draft => do
        return { draft with endpoint := some (← value.readString .text) }
      defaulted := false },
    { name := "key_auth"
      given := fun draft => draft.keyAuth.isSome
      take := fun value draft => do
        return { draft with keyAuth := some (← value.readString .text) }
      defaulted := false },
    { name := "key_p256dh"
      given := fun draft => draft.keyP256dh.isSome
      take := fun value draft => do
        return { draft with keyP256dh := some (← value.readString .text) }
      defaulted := false },
    { name := "user_id"
      given := fun draft => draft.userId.isSome
      take := fun value draft => do
        return { draft with userId := some (← value.readOptional) }
      defaulted := false } ]

/-- The push target of a draft. -/
def Draft.complete (draft : Draft) : Read PushTarget := do
  let endpoint ← orMissing "endpoint" draft.endpoint
  let keyAuth ← orMissing "key_auth" draft.keyAuth
  let keyP256dh ← orMissing "key_p256dh" draft.keyP256dh
  return { endpoint, keyAuth, keyP256dh, userId := draft.userId.getD none }

/-- How a push target is read. -/
def record : Record Draft PushTarget where
  name := "PushTarget"
  fields := fields
  strict := false
  blank := {}
  complete := Draft.complete

/-- Reads a push target from JSON text. -/
def ofJson (text : String) : Read PushTarget := decode record.read text

/-- A push target as a value. -/
def toJson (target : PushTarget) : Value :=
  .ofMembers
    [ ("endpoint", .ofText target.endpoint),
      ("key_auth", .ofText target.keyAuth),
      ("key_p256dh", .ofText target.keyP256dh),
      ("user_id", .ofText? target.userId) ]

end PushTarget

namespace Subscription

/-- A subscription as far as it has been read. -/
structure Draft where
  id : Option Int := none
  topic : Option String := none
  userId : Option (Option String) := none
  endpoint : Option String := none
  keyAuth : Option String := none
  keyP256dh : Option String := none
  updatedAt : Option Int := none
  warningSent : Option Bool := none
deriving DecidableEq, Repr

/-- The fields of a subscription. -/
def fields : List (RecordField Draft) :=
  [ { name := "id"
      given := fun draft => draft.id.isSome
      take := fun value draft => do return { draft with id := some (← value.readSigned) }
      defaulted := false },
    { name := "topic"
      given := fun draft => draft.topic.isSome
      take := fun value draft => do
        return { draft with topic := some (← value.readString .text) }
      defaulted := false },
    { name := "user_id"
      given := fun draft => draft.userId.isSome
      take := fun value draft => do
        return { draft with userId := some (← value.readOptional) }
      defaulted := false },
    { name := "endpoint"
      given := fun draft => draft.endpoint.isSome
      take := fun value draft => do
        return { draft with endpoint := some (← value.readString .text) }
      defaulted := false },
    { name := "key_auth"
      given := fun draft => draft.keyAuth.isSome
      take := fun value draft => do
        return { draft with keyAuth := some (← value.readString .text) }
      defaulted := false },
    { name := "key_p256dh"
      given := fun draft => draft.keyP256dh.isSome
      take := fun value draft => do
        return { draft with keyP256dh := some (← value.readString .text) }
      defaulted := false },
    { name := "updated_at"
      given := fun draft => draft.updatedAt.isSome
      take := fun value draft => do
        return { draft with updatedAt := some (← value.readSigned) }
      defaulted := false },
    { name := "warning_sent"
      given := fun draft => draft.warningSent.isSome
      take := fun value draft => do
        return { draft with warningSent := some (← value.readBoolean) }
      defaulted := false } ]

/-- The subscription of a draft. -/
def Draft.complete (draft : Draft) : Read Subscription := do
  let id ← orMissing "id" draft.id
  let topic ← orMissing "topic" draft.topic
  let endpoint ← orMissing "endpoint" draft.endpoint
  let keyAuth ← orMissing "key_auth" draft.keyAuth
  let keyP256dh ← orMissing "key_p256dh" draft.keyP256dh
  let updatedAt ← orMissing "updated_at" draft.updatedAt
  let warningSent ← orMissing "warning_sent" draft.warningSent
  return { id, topic, userId := draft.userId.getD none, endpoint, keyAuth, keyP256dh, updatedAt,
           warningSent }

/-- How a subscription is read. -/
def record : Record Draft Subscription where
  name := "Subscription"
  fields := fields
  strict := false
  blank := {}
  complete := Draft.complete

/-- Reads a subscription from JSON text. -/
def ofJson (text : String) : Read Subscription := decode record.read text

/-- The members of a subscription. -/
def members (s : Subscription) : List (String × Value) :=
  [ ("id", .ofInt s.id),
    ("topic", .ofText s.topic),
    ("user_id", .ofText? s.userId),
    ("endpoint", .ofText s.endpoint),
    ("key_auth", .ofText s.keyAuth),
    ("key_p256dh", .ofText s.keyP256dh),
    ("updated_at", .ofInt s.updatedAt),
    ("warning_sent", .boolean s.warningSent) ]

/-- A subscription as a value. -/
def toJson (s : Subscription) : Value := .ofMembers s.members

end Subscription

namespace LifecycleState

/-- The state that a string names. -/
def ofPieces (pieces : List Piece) : Read LifecycleState :=
  match Piece.text? pieces with
  | none => .error .malformed
  | some name =>
      match ofName? name with
      | some state => .ok state
      | none => refuse (.unknownVariant name [active.name, warned.name])

/-- Reads a state from a value: its name, or an object with the name and null. -/
def ofValue (value : Value) : Read LifecycleState :=
  match value with
  | .string pieces => ofPieces pieces
  | .object (.more pieces value rest) => do
      let state ← ofPieces pieces
      value.readUnit
      match rest with
      | .done => return state
      | _ => throw .malformed
  | _ => .error .malformed

/-- Reads a state from JSON text. -/
def ofJson (text : String) : Read LifecycleState := decode ofValue text

/-- A state as a value. -/
def toJson (state : LifecycleState) : Value := .ofText state.name

end LifecycleState
end PushLedger
