import Mathlib.Algebra.GroupWithZero.Nat
import Mathlib.Data.List.Nodup
import Mathlib.Data.Multiset.Basic
import PushLedger.Ledger.Run
import PushLedger.Proofs.Replacement

/-!
# The roster

Seen from outside, a store keeps one entry for each endpoint: its topics, its owner and keys, the
stamp of the request that made it, and whether it was warned. The roster is the map of these
entries, and each operation of a store is said once more in terms of it. A row is one topic of one
entry; the roster knows nothing of ids.

An entry has at least one topic, so a request without topics leaves no entry behind.
-/

namespace PushLedger

/-- What a row says, apart from its id. -/
structure Listing where
  topic : String
  userId : Option String
  endpoint : String
  keyAuth : String
  keyP256dh : String
  updatedAt : Int
  warned : Bool
deriving DecidableEq

namespace Listing

/-- The cells that spell out a listing. -/
def content (l : Listing) : Content where
  topic := .text l.topic
  userId := .ofText? l.userId
  endpoint := .text l.endpoint
  keyAuth := .text l.keyAuth
  keyP256dh := .text l.keyP256dh
  updatedAt := .integer l.updatedAt
  warningSent := .integer (if l.warned then 1 else 0)

/-- The listing was warned and is stamped at the cutoff or before. -/
def isExpired (cutoff : Int) (l : Listing) : Bool := l.warned && l.updatedAt ≤ cutoff

/-- The listing was not warned and is stamped at the cutoff or before. -/
def isDue (cutoff : Int) (l : Listing) : Bool := !l.warned && l.updatedAt ≤ cutoff

/-- The listing after a sweep: warned, if it was due. -/
def swept (cutoff : Int) (l : Listing) : Listing :=
  if l.isDue cutoff then { l with warned := true } else l

end Listing

/-- A subscription without its id. -/
def Subscription.listing (s : Subscription) : Listing :=
  ⟨s.topic, s.userId, s.endpoint, s.keyAuth, s.keyP256dh, s.updatedAt, s.warningSent⟩

/-- What a store keeps for one endpoint. -/
structure Entry where
  topics : TopicSet
  occupied : topics.names ≠ []
  userId : Option String
  keyAuth : String
  keyP256dh : String
  updatedAt : Instant
  warned : Bool

namespace Entry

/-- The entry was warned and is stamped at the cutoff or before. -/
def isExpired (cutoff : Int) (entry : Entry) : Bool :=
  entry.warned && entry.updatedAt.millis ≤ cutoff

/-- The entry was not warned and is stamped at the cutoff or before. -/
def isDue (cutoff : Int) (entry : Entry) : Bool :=
  !entry.warned && entry.updatedAt.millis ≤ cutoff

/-- The entry after a sweep: warned, if it was due. -/
def swept (cutoff : Int) (entry : Entry) : Entry :=
  if entry.isDue cutoff then { entry with warned := true } else entry

/-- The target that reaches the endpoint of an entry. -/
def target (endpoint : String) (entry : Entry) : PushTarget :=
  ⟨endpoint, entry.keyAuth, entry.keyP256dh, entry.userId⟩

/-- The listing of one topic of an entry. -/
def listing (endpoint : String) (entry : Entry) (topic : String) : Listing :=
  ⟨topic, entry.userId, endpoint, entry.keyAuth, entry.keyP256dh, entry.updatedAt.millis,
    entry.warned⟩

/-- The listings of an entry, one for each topic. -/
def listings (endpoint : String) (entry : Entry) : List Listing :=
  entry.topics.names.map (entry.listing endpoint)

/-- A sweep changes an entry and its listings alike. -/
theorem listings_swept (endpoint : String) (entry : Entry) (cutoff : Int) :
    (entry.swept cutoff).listings endpoint =
      (entry.listings endpoint).map (Listing.swept cutoff) := by
  have together (topic : String) :
      (entry.listing endpoint topic).isDue cutoff = entry.isDue cutoff := rfl
  simp only [listings, List.map_map]
  by_cases due : entry.isDue cutoff
  · rw [swept, if_pos due]
    refine List.map_congr_left fun topic _ => ?_
    rw [Function.comp_apply, Listing.swept, together, if_pos due]
    rfl
  · rw [swept, if_neg due]
    refine List.map_congr_left fun topic _ => ?_
    rw [Function.comp_apply, Listing.swept, together, if_neg due]

end Entry

/-- The entries of a store by their endpoints. -/
abbrev Roster := Std.ExtTreeMap String Entry

/-- What a store answers, without ids and their order. -/
inductive Reply
  | done
  | found (listings : Multiset Listing)
  | removed (count : Nat)
  | swept (outcome : SweepOutcome)
deriving DecidableEq

/-- The part of an answer that does not depend on ids. -/
def Answer.reply : Answer → Reply
  | .done => .done
  | .found subscriptions => .found (subscriptions.map Subscription.listing)
  | .removed count => .removed count
  | .swept outcome => .swept outcome

namespace Roster

/-- The listings of all entries. -/
def listings (m : Roster) : List Listing := m.toList.flatMap fun (endpoint, entry) =>
  entry.listings endpoint

/-- The number of listings. -/
def volume (m : Roster) : Nat := (m.toList.map fun (_, entry) => entry.topics.size).sum

/-- The listings of a topic: one for each entry that has it among its topics. -/
def lookup (m : Roster) (topic : String) : List Listing :=
  m.toList.filterMap fun (endpoint, entry) =>
    if topic ∈ entry.topics.names then some (entry.listing endpoint topic) else none

/-- The entry that a request makes, if it names a topic: active, and stamped with the clock. -/
def entryOf (request : NewSubscription) (now : Instant) : Option Entry :=
  if occupied : request.topics.names = [] then none
  else some
    { topics := request.topics
      occupied
      userId := request.userId
      keyAuth := request.keyAuth
      keyP256dh := request.keyP256dh
      updatedAt := now
      warned := false }

/-- The roster in which a request has replaced the entry of its endpoint. -/
def replace (m : Roster) (request : NewSubscription) (now : Instant) : Roster :=
  match entryOf request now with
  | none => m.erase request.endpoint
  | some entry => m.insert request.endpoint entry

/-- The roster after a sweep: expired entries are gone, and due ones are warned. -/
def swept (m : Roster) (expireBefore warnBefore : Int) : Roster :=
  (m.filter fun _ entry => !entry.isExpired expireBefore).map fun _ entry =>
    entry.swept warnBefore

/-- The entries that a sweep warns. -/
def due (m : Roster) (expireBefore warnBefore : Int) : Roster :=
  (m.filter fun _ entry => !entry.isExpired expireBefore).filter fun _ entry =>
    entry.isDue warnBefore

/-- What a sweep reports: the listings that go, those that are warned, and one target for each entry
that is warned, by endpoint. -/
def sweepReport (m : Roster) (expireBefore warnBefore : Int) : SweepOutcome where
  expired := volume (m.filter fun _ entry => entry.isExpired expireBefore)
  warned := volume (m.due expireBefore warnBefore)
  targets := (m.due expireBefore warnBefore).toList.map fun (endpoint, entry) =>
    entry.target endpoint

/-- An operation on the roster. A request that its check refuses changes nothing, and a blank owner
owns nothing. -/
def run (m : Roster) (now : Instant) : Operation → Except LedgerFault Reply × Roster
  | .upsert draft =>
      match draft.check with
      | .error fault => (.error (.validation fault), m)
      | .ok request => (.ok .done, m.replace request now)
  | .lookup topic => (.ok (.found (m.lookup topic)), m)
  | .removeEndpoint endpoint =>
      (.ok (.removed ((m[endpoint]?.map fun entry => entry.topics.size).getD 0)),
        m.erase endpoint)
  | .removeOwner owner =>
      match normalizeOwner (some owner) with
      | none => (.ok (.removed 0), m)
      | some owner =>
          (.ok (.removed (volume (m.filter fun _ entry => entry.userId == some owner))),
            m.filter fun _ entry => !(entry.userId == some owner))
  | .sweep warning expiry =>
      (.ok (.swept (m.sweepReport (now.cutoff expiry) (now.cutoff warning))),
        m.swept (now.cutoff expiry) (now.cutoff warning))
  | .reopen => (.ok .done, m)

/-- The replies of a run of operations and the roster that it leaves. -/
def runAll (m : Roster) : List (Instant × Operation) → List (Except LedgerFault Reply) × Roster
  | [] => ([], m)
  | (now, operation) :: rest =>
      let (reply, changed) := m.run now operation
      let (replies, final) := runAll changed rest
      (reply :: replies, final)

section Listings

variable (m : Roster)

/-- Entries are kept by endpoint, so no pair is met twice. -/
theorem toList_nodup : m.toList.Nodup := by
  refine m.distinct_keys_toList.imp ?_
  intro a b apart same
  exact apart (same ▸ Std.ReflOrd.compare_self)

/-- A listing belongs to the entry of its endpoint and to one of its topics. -/
theorem mem_listings_iff (l : Listing) :
    l ∈ listings m ↔ ∃ entry, m[l.endpoint]? = some entry ∧
      ∃ topic ∈ entry.topics.names, l = entry.listing l.endpoint topic := by
  simp only [listings, List.mem_flatMap, Prod.exists,
    Std.ExtTreeMap.mem_toList_iff_getElem?_eq_some, Entry.listings, List.mem_map]
  constructor
  · rintro ⟨endpoint, entry, kept, topic, listed, rfl⟩
    exact ⟨entry, kept, topic, listed, rfl⟩
  · rintro ⟨entry, kept, topic, listed, same⟩
    exact ⟨l.endpoint, entry, kept, topic, listed, same.symm⟩

/-- No two listings agree in topic and endpoint. -/
theorem listings_unique :
    (listings m).Pairwise fun a b => ¬ (a.topic = b.topic ∧ a.endpoint = b.endpoint) := by
  refine List.pairwise_flatMap.mpr ⟨?_, ?_⟩
  · rintro ⟨endpoint, entry⟩ _
    refine List.pairwise_map.mpr (entry.topics.names_nodup.imp ?_)
    intro a b apart same
    exact apart same.1
  · refine m.distinct_keys_toList.imp ?_
    rintro ⟨first, entry⟩ ⟨second, other⟩ apart a memberA b memberB ⟨_, same⟩
    obtain ⟨_, _, rfl⟩ := List.mem_map.mp memberA
    obtain ⟨_, _, rfl⟩ := List.mem_map.mp memberB
    exact apart (Std.compare_eq_iff_eq.mpr same)

/-- The volume is the number of listings. -/
theorem volume_eq : volume m = (listings m).length := by
  simp [volume, listings, List.length_flatMap, Entry.listings, TopicSet.size]

/-- What selects an entry and each of its listings alike selects the listings of the entries that it
selects. -/
theorem listings_filter (ofEntry : String → Entry → Bool) (ofListing : Listing → Bool)
    (alike : ∀ endpoint entry topic,
      ofListing (Entry.listing endpoint entry topic) = ofEntry endpoint entry) :
    listings (m.filter ofEntry) = (listings m).filter ofListing := by
  simp only [listings, Std.ExtTreeMap.toList_filter]
  induction m.toList with
  | nil => rfl
  | cons pair rest inductionHypothesis =>
    obtain ⟨endpoint, entry⟩ := pair
    have own : (entry.listings endpoint).filter ofListing =
        if ofEntry endpoint entry then entry.listings endpoint else [] := by
      by_cases selected : ofEntry endpoint entry <;> simp [Entry.listings, alike, selected]
    by_cases selected : ofEntry endpoint entry <;>
      simp [List.flatMap_cons, own, selected, inductionHypothesis]

/-- What changes an entry and its listings alike changes all listings. -/
theorem listings_map (ofEntry : String → Entry → Entry) (ofListing : Listing → Listing)
    (alike : ∀ endpoint entry, (ofEntry endpoint entry).listings endpoint =
      (entry.listings endpoint).map ofListing) :
    listings (m.map ofEntry) = (listings m).map ofListing := by
  simp only [listings, Std.ExtTreeMap.toList_map, List.flatMap_map, alike, List.map_flatMap]

/-- A lookup selects the listings of its topic, because an entry has a topic only once. -/
theorem lookup_eq (topic : String) :
    lookup m topic = (listings m).filter fun l => l.topic == topic := by
  simp only [lookup, listings]
  induction m.toList with
  | nil => rfl
  | cons pair rest inductionHypothesis =>
    obtain ⟨endpoint, entry⟩ := pair
    have own : (entry.listings endpoint).filter (fun l => l.topic == topic) =
        if topic ∈ entry.topics.names then [entry.listing endpoint topic] else [] := by
      have selected : (fun l : Listing => l.topic == topic) ∘ entry.listing endpoint =
          fun other => other == topic := rfl
      rw [Entry.listings, List.filter_map, selected, List.filter_beq]
      by_cases listed : topic ∈ entry.topics.names
      · simp [listed, List.count_eq_one_of_mem entry.topics.names_nodup listed]
      · simp [listed, List.count_eq_zero_of_not_mem listed]
    by_cases listed : topic ∈ entry.topics.names <;>
      simp [listed, own, inductionHypothesis]

/-- Without the entry of an endpoint the others are left. -/
theorem erase_eq_filter (endpoint : String) :
    m.erase endpoint = m.filter fun other _ => !(other == endpoint) := by
  refine Std.ExtTreeMap.ext_getElem? ?_
  intro other
  rw [Std.ExtTreeMap.getElem?_erase, Std.ExtTreeMap.getElem?_filter']
  by_cases same : endpoint = other
  · subst same
    simp
  · cases m[other]? <;> simp [same, Ne.symm same, Option.filter_some]

/-- The listings of an endpoint are as many as its entry has topics. -/
theorem volume_of_endpoint (endpoint : String) :
    volume (m.filter fun other _ => other == endpoint) =
      (m[endpoint]?.map fun entry => entry.topics.size).getD 0 := by
  have single : (m.filter fun other _ => other == endpoint).toList.Perm
      (m[endpoint]?.map fun entry => (endpoint, entry)).toList := by
    refine (List.perm_ext_iff_of_nodup (toList_nodup _) ?_).mpr ?_
    · cases m[endpoint]? <;> simp
    · rintro ⟨other, found⟩
      rw [Std.ExtTreeMap.mem_toList_iff_getElem?_eq_some, Std.ExtTreeMap.getElem?_filter']
      by_cases same : other = endpoint
      · subst same
        cases m[other]? <;> simp [Option.filter_some, eq_comm]
      · cases m[other]? <;> cases m[endpoint]? <;> simp [same]
  cases kept : m[endpoint]? with
  | none =>
    rw [kept] at single
    simp [volume, single.eq_nil]
  | some entry =>
    rw [kept] at single
    simp [volume, List.perm_singleton.mp single]

/-- A new entry adds its listings to those of the other endpoints. -/
theorem listings_insert (endpoint : String) (entry : Entry) :
    (listings (m.insert endpoint entry)).Perm
      (listings (m.erase endpoint) ++ entry.listings endpoint) := by
  have placed : (m.insert endpoint entry).toList.Perm
      ((endpoint, entry) :: (m.erase endpoint).toList) := by
    refine (List.perm_ext_iff_of_nodup (toList_nodup _) ?_).mpr ?_
    · refine List.nodup_cons.mpr ⟨?_, toList_nodup _⟩
      simp
    · rintro ⟨other, found⟩
      simp only [List.mem_cons, Std.ExtTreeMap.mem_toList_iff_getElem?_eq_some,
        Std.ExtTreeMap.getElem?_insert, Std.ExtTreeMap.getElem?_erase, Std.compare_eq_iff_eq]
      by_cases same : endpoint = other
      · subst same
        simp [eq_comm]
      · simp [same, eq_comm]
  exact (placed.flatMap_right _).trans List.perm_append_comm

end Listings

end Roster
end PushLedger
