import PushLedger.Subscription.TopicSet
import PushLedger.Text.Blank
import PushLedger.Time.Instant

/-!
# Subscriptions

A push endpoint is subscribed to topics; each topic of an endpoint is one subscription with an
optional owner, two keys, a stamp and a warning flag. A request to subscribe is checked before it
reaches the store: neither the endpoint nor a key nor a topic may be blank. A blank owner is no
owner.
-/

namespace PushLedger

/-- Where a stored subscription stands in its life. An expired one has no state, for it is gone. -/
inductive LifecycleState
  | active | warned
deriving DecidableEq, Repr

namespace LifecycleState

/-- The name of a state. -/
def name : LifecycleState → String
  | .active => "active"
  | .warned => "warned"

/-- The state of a name. -/
def ofName? : String → Option LifecycleState
  | "active" => some .active
  | "warned" => some .warned
  | _ => none

end LifecycleState

/-- What a notifier needs to reach one endpoint. -/
structure PushTarget where
  endpoint : String
  keyAuth : String
  keyP256dh : String
  userId : Option String
deriving DecidableEq, Repr

/-- One topic of one endpoint, as it is stored. -/
structure Subscription where
  id : Int
  topic : String
  userId : Option String
  endpoint : String
  keyAuth : String
  keyP256dh : String
  /-- Milliseconds since the epoch, of the creation or the last replacement. -/
  updatedAt : Int
  warningSent : Bool
deriving DecidableEq, Repr

namespace Subscription

/-- The state that the warning flag says. -/
def state (s : Subscription) : LifecycleState := if s.warningSent then .warned else .active

/-- The age at a clock reading. -/
def ageAt (s : Subscription) (now : Instant) : Int := now.ageOf s.updatedAt

/-- The endpoint and the keys of a subscription. -/
def pushTarget (s : Subscription) : PushTarget :=
  ⟨s.endpoint, s.keyAuth, s.keyP256dh, s.userId⟩

end Subscription

/-- What is wrong with a request to subscribe. -/
inductive ValidationFault
  | emptyEndpoint
  | emptyTopic
  /-- A key is blank; the field says which. -/
  | emptyKey (field : String)
deriving DecidableEq, Repr

/-- The wording of a fault. -/
def ValidationFault.message : ValidationFault → String
  | .emptyEndpoint => "subscription endpoint cannot be empty"
  | .emptyTopic => "subscription topic cannot be empty"
  | .emptyKey field => s!"subscription {field} cannot be empty"

/-- An owner that is not blank; a blank one is no owner. -/
def normalizeOwner (userId : Option String) : Option String :=
  userId.filter fun owner => !Text.isBlank owner

/-- A request to replace all topics of one endpoint. -/
structure NewSubscription where
  endpoint : String
  topics : TopicSet
  userId : Option String
  keyAuth : String
  keyP256dh : String
deriving DecidableEq

namespace NewSubscription

/-- The words of a request before it is checked. -/
structure Draft where
  endpoint : String
  topics : List String
  userId : Option String
  keyAuth : String
  keyP256dh : String
deriving DecidableEq, Repr

/-- The request of a draft as it stands, without any check. -/
def Draft.unchecked (d : Draft) : NewSubscription :=
  ⟨d.endpoint, .ofList d.topics, d.userId, d.keyAuth, d.keyP256dh⟩

/-- The first thing wrong with a draft: the endpoint, then the keys, then the topics. -/
def Draft.fault? (d : Draft) : Option ValidationFault :=
  if Text.isBlank d.endpoint then some .emptyEndpoint
  else if Text.isBlank d.keyAuth then some (.emptyKey "key_auth")
  else if Text.isBlank d.keyP256dh then some (.emptyKey "key_p256dh")
  else if d.topics.any Text.isBlank then some .emptyTopic
  else none

/-- Checks a draft and turns a blank owner into none. -/
def Draft.check (d : Draft) : Except ValidationFault NewSubscription :=
  match d.fault? with
  | some fault => .error fault
  | none => .ok { d.unchecked with userId := normalizeOwner d.userId }

end NewSubscription
end PushLedger
