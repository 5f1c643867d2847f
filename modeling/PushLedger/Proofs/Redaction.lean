import PushLedger.Proofs.Legibility
import PushLedger.Proofs.Records

/-!
# What records do not tell

Two stores are asked for the same things at the same readings, but the second one is given other
keys and knows each endpoint under another name, with the same origin. Their records are the same,
letter for letter.

Step by step the tables of the two stores stay in a disguise of each other: row for row they differ
in keys and endpoints only. All numbers in the records but one count rows that are selected by what
the disguise leaves alone, or by an endpoint under its other name. The number of targets is the
exception, because it counts different addresses, and an address has keys. It depends on endpoints
only, for the rows of an endpoint agree.
-/

namespace PushLedger

/-- Another name for each endpoint, which the log does not tell from the first: no two endpoints get
the same one, none becomes blank or stops being so, and each keeps its origin. -/
structure Disguise (f : String → String) : Prop where
  injective : Function.Injective f
  blank : ∀ endpoint, Text.isBlank (f endpoint) = Text.isBlank endpoint
  redacted : ∀ endpoint, Origin.redact (f endpoint) = Origin.redact endpoint

/-- Two endpoints that the log does not tell apart may change names. -/
theorem Disguise.swap (first second : String) (blank : Text.isBlank first = Text.isBlank second)
    (redacted : Origin.redact first = Origin.redact second) :
    Disguise (Equiv.swap first second) := by
  refine ⟨(Equiv.swap first second).injective, ?_, ?_⟩
  · intro endpoint
    rw [Equiv.swap_apply_def]
    split_ifs with isFirst isSecond
    · rw [isFirst, blank]
    · rw [isSecond, blank]
    · rfl
  · intro endpoint
    rw [Equiv.swap_apply_def]
    split_ifs with isFirst isSecond
    · rw [isFirst, redacted]
    · rw [isSecond, redacted]
    · rfl

/-- Lists that are related element by element are related so by their members. -/
theorem forall₂_members {α β : Type} {R : α → β → Prop} {xs : List α} {ys : List β}
    (related : List.Forall₂ R xs ys) :
    List.Forall₂ (fun x y => x ∈ xs ∧ y ∈ ys ∧ R x y) xs ys := by
  obtain ⟨sameLength, zipped⟩ := List.forall₂_iff_zip.mp related
  refine List.forall₂_iff_zip.mpr ⟨sameLength, ?_⟩
  intro x y member
  exact ⟨(List.of_mem_zip member).1, (List.of_mem_zip member).2, zipped member⟩

/-- Predicates that agree on related elements hold of equally many. -/
theorem forall₂_countP_eq {α β : Type} {R : α → β → Prop} {xs : List α} {ys : List β}
    {p : α → Bool} {q : β → Bool} (related : List.Forall₂ R xs ys)
    (together : ∀ x y, R x y → q y = p x) : ys.countP q = xs.countP p := by
  induction related with
  | nil => rfl
  | cons pair _ inductionHypothesis =>
    simp only [List.countP_cons, inductionHypothesis, together _ _ pair]

variable {f : String → String}

/-- The second listing differs from the first in its keys and in the name of its endpoint. -/
structure Listing.Disguised (f : String → String) (l m : Listing) : Prop where
  topic : m.topic = l.topic
  userId : m.userId = l.userId
  endpoint : m.endpoint = f l.endpoint
  updatedAt : m.updatedAt = l.updatedAt
  warned : m.warned = l.warned

/-- The second row has the id of the first and spells out its listing in disguise. -/
structure Row.Disguised (f : String → String) (row other : Row) : Prop where
  id : other.id = row.id
  spelled : ∃ l m, row.Spells l ∧ other.Spells m ∧ l.Disguised f m

/-- The rows of the second table are those of the first in disguise. -/
structure Table.Disguised (f : String → String) (t u : Table) : Prop where
  counter : u.counter = t.counter
  rows : List.Forall₂ (Row.Disguised f) t.rows u.rows

namespace Row.Disguised

variable {row other : Row} (disguised : row.Disguised f other)

include disguised

/-- The disguise does not affect whether a row has expired. -/
theorem isExpired_eq (cutoff : Int) : other.isExpired cutoff = row.isExpired cutoff := by
  obtain ⟨l, m, spells, spellsOther, alike⟩ := disguised.spelled
  rw [spells.isExpired_eq, spellsOther.isExpired_eq, Listing.isExpired, Listing.isExpired,
    alike.warned, alike.updatedAt]

/-- The disguise does not affect whether a row is due. -/
theorem isDue_eq (cutoff : Int) : other.isDue cutoff = row.isDue cutoff := by
  obtain ⟨l, m, spells, spellsOther, alike⟩ := disguised.spelled
  rw [spells.isDue_eq, spellsOther.isDue_eq, Listing.isDue, Listing.isDue, alike.warned,
    alike.updatedAt]

/-- The disguise does not affect topics. -/
theorem isText_topic (topic : String) : other.topic.isText topic = row.topic.isText topic := by
  obtain ⟨l, m, spells, spellsOther, alike⟩ := disguised.spelled
  rw [spells.isText_topic, spellsOther.isText_topic, alike.topic]

/-- The disguise does not affect owners. -/
theorem isText_userId (owner : String) : other.userId.isText owner = row.userId.isText owner := by
  obtain ⟨l, m, spells, spellsOther, alike⟩ := disguised.spelled
  rw [spells.isText_userId, spellsOther.isText_userId, alike.userId]

/-- The disguised row is found under the other name of its endpoint. -/
theorem isText_endpoint (disguise : Disguise f) (endpoint : String) :
    other.endpoint.isText (f endpoint) = row.endpoint.isText endpoint := by
  obtain ⟨l, m, spells, spellsOther, alike⟩ := disguised.spelled
  rw [spells.isText_endpoint, spellsOther.isText_endpoint, alike.endpoint, Bool.eq_iff_iff,
    beq_iff_eq, beq_iff_eq, disguise.injective.eq_iff]

/-- A sweep leaves the rows in disguise. -/
theorem swept (cutoff : Int) : (row.swept cutoff).Disguised f (other.swept cutoff) := by
  obtain ⟨l, m, spells, spellsOther, alike⟩ := disguised.spelled
  have together : m.isDue cutoff = l.isDue cutoff := by
    rw [Listing.isDue, Listing.isDue, alike.warned, alike.updatedAt]
  refine ⟨?_, l.swept cutoff, m.swept cutoff, spells.swept cutoff, spellsOther.swept cutoff, ?_⟩
  · rw [row.id_swept, other.id_swept, disguised.id]
  · unfold Listing.swept
    rw [together]
    split
    · exact ⟨alike.topic, alike.userId, alike.endpoint, alike.updatedAt, rfl⟩
    · exact alike

/-- Endpoints are equal exactly if they are equal in disguise. -/
theorem endpoint_eq_iff (disguise : Disguise f) {second otherSecond : Row}
    (alsoDisguised : second.Disguised f otherSecond) :
    other.endpoint = otherSecond.endpoint ↔ row.endpoint = second.endpoint := by
  obtain ⟨l, m, spells, spellsOther, alike⟩ := disguised.spelled
  obtain ⟨n, o, spellsSecond, spellsOtherSecond, alikeSecond⟩ := alsoDisguised.spelled
  rw [spells, spellsOther, spellsSecond, spellsOtherSecond]
  simp only [Listing.content, Cell.text.injEq, alike.endpoint, alikeSecond.endpoint,
    disguise.injective.eq_iff]

end Row.Disguised

namespace Address

/-- Two lists of addresses have equally many different ones, if the addresses of the one are told
apart as the addresses of the other are. -/
theorem distinct_related {R : Address → Address → Prop}
    (faithful : ∀ a b, R a b → ∀ c d, R c d → b.same d = a.same c) {seen otherSeen : List Address}
    (seenRelated : List.Forall₂ R seen otherSeen) {addresses others : List Address}
    (related : List.Forall₂ R addresses others) :
    List.Forall₂ R (distinct seen addresses) (distinct otherSeen others) := by
  induction related generalizing seen otherSeen with
  | nil => exact List.Forall₂.nil
  | @cons a b rest otherRest pair _ inductionHypothesis =>
    have repeats : otherSeen.any b.same = seen.any a.same := by
      induction seenRelated with
      | nil => rfl
      | cons old _ hypothesis =>
        simp only [List.any_cons, hypothesis, faithful _ _ pair _ _ old]
    unfold distinct
    rw [repeats]
    split
    · exact inductionHypothesis seenRelated
    · exact .cons pair (inductionHypothesis (.cons pair seenRelated))

end Address

namespace Table

/-- The addresses are those of a row of the first table and of the same row of the second. -/
def AddressPair (f : String → String) (t u : Table) (a b : Address) : Prop :=
  ∃ row ∈ t.rows, ∃ other ∈ u.rows, row.Disguised f other ∧ a = Address.ofRow row ∧
    b = Address.ofRow other

/-- Legible rows that agree by endpoints have the same address exactly if they have the same
endpoint. -/
theorem Homogeneous.same_address_iff {t : Table} (homogeneous : t.Homogeneous) (row second : Row)
    (present : row ∈ t.rows) (secondPresent : second ∈ t.rows) (legible : second.Legible) :
    (Address.ofRow row).same (Address.ofRow second) = true ↔ row.endpoint = second.endpoint := by
  obtain ⟨l, spells⟩ := legible
  rw [spells.address_eq, Address.same_address_iff, ← spells.address_eq]
  constructor
  · intro same
    exact congrArg Address.endpoint same
  · intro same
    exact (homogeneous row present second secondPresent same).address_eq same

namespace Disguised

variable {t u : Table} (disguised : t.Disguised f u)

include disguised

/-- A deletion leaves the tables in disguise, if it selects the same rows. -/
theorem without {selected otherSelected : Row → Bool}
    (together : ∀ row other, row.Disguised f other → otherSelected other = selected row) :
    (t.without selected).Disguised f (u.without otherSelected) where
  counter := disguised.counter
  rows := by
    refine List.rel_filter ?_ disguised.rows
    intro row other pair
    simp only [together row other pair]

/-- A sweep leaves the tables in disguise. -/
theorem swept (expireBefore warnBefore : Int) :
    (t.swept expireBefore warnBefore).Disguised f (u.swept expireBefore warnBefore) where
  counter := disguised.counter
  rows := by
    have kept : (t.without (Row.isExpired expireBefore)).Disguised f
        (u.without (Row.isExpired expireBefore)) :=
      disguised.without fun _ _ pair => pair.isExpired_eq expireBefore
    refine List.rel_map ?_ kept.rows
    intro row other pair
    exact pair.swept warnBefore

/-- The ids are the same, in the same order. -/
theorem ids_eq : t.rows.map Row.id = u.rows.map Row.id := by
  rw [← List.forall₂_eq_eq_eq, List.forall₂_map_left_iff, List.forall₂_map_right_iff]
  exact disguised.rows.imp fun _ _ pair => pair.id.symm

/-- The last ids are the same. -/
theorem lastId_eq (current : t.Current) (otherCurrent : u.Current) : u.lastId = t.lastId := by
  have greatest (rows : List Row) (start : Int) :
      rows.foldl (fun last row => max last row.id) start = (rows.map Row.id).foldl max start := by
    rw [List.foldl_map]
  simp only [lastId, current.counted, otherCurrent.counted, if_true, disguised.counter, greatest,
    disguised.ids_eq]

/-- A row that is added to both tables, in disguise to the second, leaves them in disguise. -/
theorem add (current : t.Current) (otherCurrent : u.Current) {l m : Listing}
    (alike : l.Disguised f m) : (t.add l.content).Disguised f (u.add m.content) := by
  have last := disguised.lastId_eq current otherCurrent
  constructor
  · simp only [Table.add, last]
  · refine List.rel_append disguised.rows (.cons ⟨?_, l, m, rfl, rfl, alike⟩ .nil)
    simp only [last]

omit disguised in
/-- Rows that are added to both tables, in disguise to the second, leave them in disguise. -/
theorem addAll (disguised : t.Disguised f u) (current : t.Current) (otherCurrent : u.Current)
    {listed otherListed : List Listing}
    (alike : List.Forall₂ (Listing.Disguised f) listed otherListed) :
    (t.addAll (listed.map Listing.content)).Disguised f
      (u.addAll (otherListed.map Listing.content)) := by
  induction alike generalizing t u with
  | nil => exact disguised
  | @cons l m _ _ pair _ inductionHypothesis =>
    exact inductionHypothesis (disguised.add current otherCurrent pair)
      (current_addAll t [l.content] current) (current_addAll u [m.content] otherCurrent)

/-- Every row of the first table is legible. -/
theorem legible (row : Row) (present : row ∈ t.rows) : row.Legible := by
  obtain ⟨sameLength, zipped⟩ := List.forall₂_iff_get.mp disguised.rows
  obtain ⟨place, bound, rfl⟩ := List.getElem_of_mem present
  obtain ⟨l, _, spells, _⟩ := (zipped place bound (sameLength ▸ bound)).spelled
  exact ⟨l, spells⟩

/-- Every row of the second table is legible. -/
theorem legible_other (row : Row) (present : row ∈ u.rows) : row.Legible := by
  obtain ⟨sameLength, zipped⟩ := List.forall₂_iff_get.mp disguised.rows
  obtain ⟨place, bound, rfl⟩ := List.getElem_of_mem present
  obtain ⟨_, m, _, spells, _⟩ := (zipped place (sameLength.symm ▸ bound) bound).spelled
  exact ⟨m, spells⟩

/-- A sweep names as many targets in disguise: an address has keys, but where the rows of an
endpoint agree, there are as many addresses as endpoints. -/
theorem length_targets (disguise : Disguise f) (homogeneous : t.Homogeneous)
    (otherHomogeneous : u.Homogeneous) (expireBefore warnBefore : Int)
    {targets others : List PushTarget}
    (spelled : (t.without (Row.isExpired expireBefore)).dueAddresses warnBefore =
      targets.map PushTarget.address)
    (otherSpelled : (u.without (Row.isExpired expireBefore)).dueAddresses warnBefore =
      others.map PushTarget.address) : others.length = targets.length := by
  have faithful : ∀ a b, AddressPair f t u a b → ∀ c d, AddressPair f t u c d →
      b.same d = a.same c := by
    rintro _ _ ⟨row, present, other, otherPresent, pair, rfl, rfl⟩ _ _
      ⟨second, secondPresent, otherSecond, otherSecondPresent, secondPair, rfl, rfl⟩
    rw [Bool.eq_iff_iff, homogeneous.same_address_iff row second present secondPresent
        (disguised.legible second secondPresent),
      otherHomogeneous.same_address_iff other otherSecond otherPresent otherSecondPresent
        (disguised.legible_other otherSecond otherSecondPresent)]
    exact pair.endpoint_eq_iff disguise secondPair
  have due : List.Forall₂ (AddressPair f t u)
      ((t.dueRows expireBefore warnBefore).map Address.ofRow)
      ((u.dueRows expireBefore warnBefore).map Address.ofRow) := by
    have kept := List.rel_filter (p := fun row => !row.isExpired expireBefore)
      (q := fun row => !row.isExpired expireBefore)
      (by rintro row other ⟨_, _, pair⟩; simp only [pair.isExpired_eq expireBefore])
      (forall₂_members disguised.rows)
    have reached := List.rel_filter (p := Row.isDue warnBefore) (q := Row.isDue warnBefore)
      (by rintro row other ⟨_, _, pair⟩; simp only [pair.isDue_eq warnBefore]) kept
    refine List.rel_map ?_ reached
    rintro row other ⟨present, otherPresent, pair⟩
    exact ⟨row, present, other, otherPresent, pair, rfl, rfl⟩
  have distinct := (Address.distinct_related faithful .nil due).length_eq
  have counted (t : Table) (targets : List PushTarget)
      (spelled : (t.without (Row.isExpired expireBefore)).dueAddresses warnBefore =
        targets.map PushTarget.address) : targets.length =
      (Address.distinct [] ((t.dueRows expireBefore warnBefore).map Address.ofRow)).length := by
    have lengths := congrArg List.length spelled
    rw [dueAddresses, List.length_mergeSort, List.length_map] at lengths
    exact lengths.symm
  rw [counted t targets spelled, counted u others otherSpelled, distinct]

end Disguised

end Table

namespace NewSubscription

/-- The second draft asks for the same under the other name of the endpoint, with any keys that are
blank exactly if those of the first are. -/
structure Draft.Disguised (f : String → String) (draft other : Draft) : Prop where
  endpoint : other.endpoint = f draft.endpoint
  topics : other.topics = draft.topics
  userId : other.userId = draft.userId
  keyAuth : Text.isBlank other.keyAuth = Text.isBlank draft.keyAuth
  keyP256dh : Text.isBlank other.keyP256dh = Text.isBlank draft.keyP256dh

/-- The second request asks for the same under the other name of the endpoint, with any keys. -/
structure Disguised (f : String → String) (request other : NewSubscription) : Prop where
  endpoint : other.endpoint = f request.endpoint
  topics : other.topics = request.topics
  userId : other.userId = request.userId

/-- Drafts in disguise are refused for the same fault, or become requests in disguise. -/
theorem Draft.Disguised.check {draft other : Draft} (disguised : draft.Disguised f other)
    (disguise : Disguise f) :
    (∃ fault, draft.check = .error fault ∧ other.check = .error fault) ∨
    (∃ request otherRequest, draft.check = .ok request ∧ other.check = .ok otherRequest ∧
      request.Disguised f otherRequest) := by
  have sameFault : other.fault? = draft.fault? := by
    simp only [fault?, disguised.endpoint, disguise.blank, disguised.keyAuth, disguised.keyP256dh,
      disguised.topics]
  cases found : draft.fault? with
  | some fault =>
    left
    exact ⟨fault, by simp only [Draft.check, found], by simp only [Draft.check, sameFault, found]⟩
  | none =>
    right
    refine ⟨{ draft.unchecked with userId := normalizeOwner draft.userId },
      { other.unchecked with userId := normalizeOwner other.userId },
      by simp only [Draft.check, found], by simp only [Draft.check, sameFault, found], ?_⟩
    exact ⟨disguised.endpoint, congrArg TopicSet.ofList disguised.topics,
      congrArg normalizeOwner disguised.userId⟩

end NewSubscription

/-- The listing of a fresh row. -/
def NewSubscription.listing (request : NewSubscription) (now : Instant) (topic : String) :
    Listing :=
  ⟨topic, request.userId, request.endpoint, request.keyAuth, request.keyP256dh, now.millis, false⟩

namespace Table.Disguised

variable {t u : Table} (disguised : t.Disguised f u) (disguise : Disguise f)

include disguised disguise

/-- The rows of an endpoint go from both tables. -/
theorem cleared (endpoint : String) :
    (t.cleared endpoint).Disguised f (u.cleared (f endpoint)) :=
  disguised.without fun _ _ pair => pair.isText_endpoint disguise endpoint

/-- An endpoint has as many rows under its other name. -/
theorem countP_endpoint (endpoint : String) :
    (u.rows.countP fun row => row.endpoint.isText (f endpoint)) =
      t.rows.countP fun row => row.endpoint.isText endpoint :=
  forall₂_countP_eq disguised.rows fun _ _ pair => pair.isText_endpoint disguise endpoint

/-- Requests in disguise leave the tables in disguise. -/
theorem replaced (current : t.Current) (otherCurrent : u.Current) {request other : NewSubscription}
    (asked : request.Disguised f other) (now : Instant) :
    (Database.replaced t request now).Disguised f (Database.replaced u other now) := by
  have fresh (request : NewSubscription) : Database.freshContents request now =
      (request.topics.names.map (request.listing now)).map Listing.content := by
    rw [List.map_map]
    rfl
  have rest : (t.cleared request.endpoint).Disguised f (u.cleared other.endpoint) :=
    asked.endpoint ▸ disguised.cleared disguise request.endpoint
  rw [Database.replaced, Database.replaced, fresh, fresh, asked.topics]
  refine rest.addAll (current_without t _ current) (current_without u _ otherCurrent) ?_
  rw [List.forall₂_map_left_iff, List.forall₂_map_right_iff, List.forall₂_same]
  intro topic _
  exact ⟨rfl, asked.userId, asked.endpoint, rfl, rfl⟩

/-- There is room in both tables or in neither. -/
theorem hasRoom_iff (current : t.Current) (otherCurrent : u.Current)
    {request other : NewSubscription} (asked : request.Disguised f other) :
    (u.cleared other.endpoint).HasRoom other.topics.size ↔
      (t.cleared request.endpoint).HasRoom request.topics.size := by
  have last := (disguised.cleared disguise request.endpoint).lastId_eq
    (current_without t _ current) (current_without u _ otherCurrent)
  rw [HasRoom, HasRoom, asked.topics, asked.endpoint, last]

end Table.Disguised

/-- The second operation is the first in disguise. -/
inductive Operation.Disguised (f : String → String) : Operation → Operation → Prop where
  | upsert (draft other : NewSubscription.Draft) (asked : draft.Disguised f other) :
      Disguised f (.upsert draft) (.upsert other)
  | lookup (topic : String) : Disguised f (.lookup topic) (.lookup topic)
  | removeEndpoint (endpoint : String) :
      Disguised f (.removeEndpoint endpoint) (.removeEndpoint (f endpoint))
  | removeOwner (owner : String) : Disguised f (.removeOwner owner) (.removeOwner owner)
  | sweep (warning expiry : Span) : Disguised f (.sweep warning expiry) (.sweep warning expiry)
  | reopen : Disguised f .reopen .reopen

/-- A lookup that succeeds finds as much as there are rows of its topic. -/
theorem Table.length_of_lookup (t : Table) (topic : String) (found : List Subscription)
    (done : t.lookup topic = .ok found) :
    found.length = t.rows.countP fun row => row.topic.isText topic := by
  obtain ⟨_, read⟩ := (t.lookup_ok_iff topic found).mp done
  rw [List.countP_eq_length_filter]
  exact ((mapM_eq_ok_iff _ _ _).mp read).length_eq.symm

section Operations

variable {db other : Database} {t u : Table} (serves : db.Serves t) (otherServes : other.Serves u)
  (disguised : t.Disguised f u) (disguise : Disguise f)

include serves otherServes disguised

/-- Lookups of a topic report the same. -/
theorem lookup_disguised (topic : String) :
    (other.lookup topic).events = (db.lookup topic).events := by
  have find (db : Database) (t : Table) (serves : db.Serves t)
      (legible : ∀ row ∈ t.rows, row.Legible) : (db.lookup topic).events =
      [.lookedUp (t.rows.countP fun row => row.topic.isText topic)] := by
    obtain ⟨found, done⟩ := Table.lookup_legible legible serves.current topic
    rw [db.lookup_events, db.lookup_result t serves.kept, done,
      ← t.length_of_lookup topic found done]
    rfl
  rw [find db t serves disguised.legible, find other u otherServes disguised.legible_other,
    forall₂_countP_eq disguised.rows fun _ _ pair => pair.isText_topic topic]

/-- Removals of an owner report the same and leave the tables in disguise. -/
theorem removeOwner_disguised (owner : String) :
    (other.removeOwner owner).events = (db.removeOwner owner).events ∧
      ∃ changed otherChanged, (db.removeOwner owner).database.subscriptions = some changed ∧
        (other.removeOwner owner).database.subscriptions = some otherChanged ∧
        changed.Disguised f otherChanged := by
  have counted := forall₂_countP_eq disguised.rows fun _ _ pair => pair.isText_userId owner
  rw [db.removeOwner_events, other.removeOwner_events]
  rcases Database.removeOwner_current serves.kept serves.current owner with
    ⟨none, done, same⟩ | ⟨named, done, stored⟩ <;>
    rcases Database.removeOwner_current otherServes.kept otherServes.current owner with
      ⟨otherNone, otherDone, otherSame⟩ | ⟨otherNamed, otherDone, otherStored⟩
  · rw [done, otherDone, same, otherSame]
    exact ⟨rfl, t, u, serves.kept, otherServes.kept, disguised⟩
  · exact nomatch none.symm.trans otherNamed
  · exact nomatch named.symm.trans otherNone
  · rw [done, otherDone, stored, otherStored, counted]
    exact ⟨rfl, _, _, rfl, rfl, disguised.without fun _ _ pair => pair.isText_userId owner⟩

include disguise

/-- Requests in disguise report the same and leave the tables in disguise. -/
theorem upsert_disguised {draft otherDraft : NewSubscription.Draft}
    (asked : draft.Disguised f otherDraft) (now : Instant) :
    (other.upsert otherDraft now).events = (db.upsert draft now).events ∧
      ∃ changed otherChanged, (db.upsert draft now).database.subscriptions = some changed ∧
        (other.upsert otherDraft now).database.subscriptions = some otherChanged ∧
        changed.Disguised f otherChanged := by
  rcases asked.check disguise with
    ⟨fault, refused, otherRefused⟩ | ⟨request, otherRequest, checked, otherChecked, alike⟩
  · simp only [Database.upsert, refused, otherRefused, true_and]
    exact ⟨t, u, serves.kept, otherServes.kept, disguised⟩
  · obtain ⟨stored, events⟩ :=
      Database.upsert_checked serves.kept serves.current draft request now checked
    obtain ⟨otherStored, otherEvents⟩ := Database.upsert_checked otherServes.kept
      otherServes.current otherDraft otherRequest now otherChecked
    have counted := disguised.countP_endpoint disguise request.endpoint
    rw [← alike.endpoint] at counted
    simp only [disguised.hasRoom_iff disguise serves.current otherServes.current alike]
      at otherStored otherEvents
    rw [stored, otherStored, events, otherEvents, counted, alike.topics, alike.endpoint,
      disguise.redacted]
    refine ⟨rfl, ?_⟩
    split
    · exact ⟨_, _, rfl, rfl,
        disguised.replaced disguise serves.current otherServes.current alike now⟩
    · exact ⟨t, u, serves.kept, otherServes.kept, disguised⟩

/-- Removals of an endpoint under its two names report the same and leave the tables in disguise. -/
theorem removeEndpoint_disguised (endpoint : String) :
    (other.removeEndpoint (f endpoint)).events = (db.removeEndpoint endpoint).events ∧
      ∃ changed otherChanged, (db.removeEndpoint endpoint).database.subscriptions = some changed ∧
        (other.removeEndpoint (f endpoint)).database.subscriptions = some otherChanged ∧
        changed.Disguised f otherChanged := by
  obtain ⟨done, stored⟩ := Database.removeEndpoint_current serves.kept serves.current endpoint
  obtain ⟨otherDone, otherStored⟩ :=
    Database.removeEndpoint_current otherServes.kept otherServes.current (f endpoint)
  rw [db.removeEndpoint_events, other.removeEndpoint_events, done, otherDone, stored, otherStored,
    disguised.countP_endpoint disguise, disguise.redacted]
  exact ⟨rfl, _, _, rfl, rfl, disguised.cleared disguise endpoint⟩

/-- Sweeps report the same and leave the tables in disguise. -/
theorem sweep_disguised (homogeneous : t.Homogeneous) (otherHomogeneous : u.Homogeneous)
    (warning expiry : Span) (now : Instant) :
    (other.sweep warning expiry now).events = (db.sweep warning expiry now).events ∧
      ∃ changed otherChanged,
        (db.sweep warning expiry now).database.subscriptions = some changed ∧
        (other.sweep warning expiry now).database.subscriptions = some otherChanged ∧
        changed.Disguised f otherChanged := by
  obtain ⟨targets, spelled, done, stored⟩ :=
    Database.sweep_legible serves.kept serves.current disguised.legible warning expiry now
  obtain ⟨others, otherSpelled, otherDone, otherStored⟩ :=
    Database.sweep_legible otherServes.kept otherServes.current disguised.legible_other warning
      expiry now
  have expired : u.rows.countP (Row.isExpired (now.cutoff expiry)) =
      t.rows.countP (Row.isExpired (now.cutoff expiry)) :=
    forall₂_countP_eq disguised.rows fun _ _ pair => pair.isExpired_eq _
  have left := disguised.without fun _ _ pair => pair.isExpired_eq (now.cutoff expiry)
  have warned : (u.dueRows (now.cutoff expiry) (now.cutoff warning)).length =
      (t.dueRows (now.cutoff expiry) (now.cutoff warning)).length := by
    rw [Table.dueRows, Table.dueRows, ← List.countP_eq_length_filter,
      ← List.countP_eq_length_filter]
    exact forall₂_countP_eq left.rows fun _ _ pair => pair.isDue_eq _
  have named := disguised.length_targets disguise homogeneous otherHomogeneous _ _ spelled
    otherSpelled
  rw [db.sweep_events, other.sweep_events, done, otherDone, stored, otherStored]
  refine ⟨?_, _, _, rfl, rfl, disguised.swept _ _⟩
  simp only [Except.toOption, Option.elim, Table.sweepReport, expired, warned, named]

/-- Operations in disguise report the same and leave the tables in disguise. -/
theorem run_disguised (latest : db.currentVersion = .ok latestVersion)
    (otherLatest : other.currentVersion = .ok latestVersion) (homogeneous : t.Homogeneous)
    (otherHomogeneous : u.Homogeneous) {operation otherOperation : Operation} (asked : operation.Disguised f otherOperation)
    (now : Instant) :
    (otherOperation.run other now).events = (operation.run db now).events ∧
      ∃ changed otherChanged, (operation.run db now).database.subscriptions = some changed ∧
        (otherOperation.run other now).database.subscriptions = some otherChanged ∧
        changed.Disguised f otherChanged := by
  cases asked with
  | upsert draft otherDraft alike =>
    exact upsert_disguised serves otherServes disguised disguise alike now
  | lookup topic =>
    refine ⟨lookup_disguised serves otherServes disguised topic, t, u, ?_, ?_, disguised⟩
    · exact (congrArg Database.subscriptions (db.lookup_database topic)).trans serves.kept
    · exact (congrArg Database.subscriptions (other.lookup_database topic)).trans otherServes.kept
  | removeEndpoint endpoint =>
    exact removeEndpoint_disguised serves otherServes disguised disguise endpoint
  | removeOwner owner => exact removeOwner_disguised serves otherServes disguised owner
  | sweep warning expiry =>
    exact sweep_disguised serves otherServes disguised disguise homogeneous otherHomogeneous
      warning expiry now
  | reopen =>
    refine ⟨?_, t, u, ?_, ?_, disguised⟩
    · exact (other.reopenStore_events otherLatest).trans (db.reopenStore_events latest).symm
    · exact (congrArg Database.subscriptions serves.update_database).trans serves.kept
    · exact (congrArg Database.subscriptions otherServes.update_database).trans otherServes.kept

omit serves otherServes disguised in
/-- Runs in disguise report the same. -/
theorem runAll_disguised (serves : db.Serves t) (otherServes : other.Serves u)
    (latest : db.currentVersion = .ok latestVersion)
    (otherLatest : other.currentVersion = .ok latestVersion) (disguised : t.Disguised f u) (homogeneous : t.Homogeneous)
    (otherHomogeneous : u.Homogeneous) {steps otherSteps : List (Instant × Operation)}
    (asked : List.Forall₂ (fun step otherStep => otherStep.1 = step.1 ∧
      step.2.Disguised f otherStep.2) steps otherSteps) :
    (Operation.runAll other otherSteps).1.map Outcome.events =
      (Operation.runAll db steps).1.map Outcome.events := by
  induction asked generalizing db other t u with
  | nil => rfl
  | @cons step otherStep _ _ pair _ inductionHypothesis =>
    obtain ⟨now, operation⟩ := step
    obtain ⟨otherNow, otherOperation⟩ := otherStep
    obtain ⟨rfl, alike⟩ : otherNow = now ∧ operation.Disguised f otherOperation := pair
    obtain ⟨same, changed, otherChanged, stored, otherStored, stillDisguised⟩ :=
      run_disguised serves otherServes disguised disguise latest otherLatest homogeneous
        otherHomogeneous alike otherNow
    obtain ⟨left, stillServes, change⟩ := (Transition.mk db otherNow operation).changes t serves
    obtain ⟨otherLeft, otherStillServes, otherChange⟩ :=
      (Transition.mk other otherNow otherOperation).changes u otherServes
    obtain rfl : left = changed := Option.some.inj (stillServes.kept.symm.trans stored)
    obtain rfl : otherLeft = otherChanged :=
      Option.some.inj (otherStillServes.kept.symm.trans otherStored)
    have stillLatest :=
      ((Transition.mk db otherNow operation).currentVersion_after t serves).trans latest
    have otherStillLatest :=
      ((Transition.mk other otherNow otherOperation).currentVersion_after u otherServes).trans
        otherLatest
    have later := inductionHypothesis stillServes otherStillServes stillLatest otherStillLatest
      stillDisguised
      (change.homogeneous serves.current homogeneous)
      (otherChange.homogeneous otherServes.current otherHomogeneous)
    simp only [Operation.runAll, List.map_cons, same]
    exact congrArg _ later

end Operations

namespace Operation

/-- From its opening on, a store that is made of nothing logs nothing that tells one key from
another, or one endpoint from another of the same origin. -/
theorem lines_of_disguised (f : String → String) (disguise : Disguise f) (mode : OpenMode)
    (steps others : List (Instant × Operation))
    (asked : List.Forall₂ (fun step other => other.1 = step.1 ∧ step.2.Disguised f other.2)
      steps others) (elapsed : String) :
    (journal mode others).map (Event.line elapsed) =
      (journal mode steps).map (Event.line elapsed) := by
  have nothing : (Table.empty .epoch true).Disguised f (Table.empty .epoch true) := ⟨rfl, .nil⟩
  have homogeneous : (Table.empty .epoch true).Homogeneous := by
    intro row member
    exact absurd member List.not_mem_nil
  have same := runAll_disguised disguise Database.serves_fresh Database.serves_fresh
    Database.latest_fresh Database.latest_fresh nothing homogeneous homogeneous asked
  simp only [journal, List.flatMap_def]
  rw [Database.openStore_empty, same]

/-- A store subscribes an endpoint with some keys, warns it and removes it again. -/
def visit (endpoint keyAuth keyP256dh : String) : List (Instant × Operation) :=
  [(.epoch, .upsert ⟨endpoint, ["news", "mail"], some "ann", keyAuth, keyP256dh⟩),
    (.epoch, .sweep ⟨0⟩ ⟨0⟩), (.epoch, .removeEndpoint endpoint)]

/-- Two endpoints of one origin that change places are in disguise of each other, and their visits
with different keys look the same in the log. -/
theorem lines_of_visit :
    let f := Equiv.swap "https://push.example/a" "https://push.example/b"
    Disguise f ∧
    List.Forall₂ (fun step other => other.1 = step.1 ∧ step.2.Disguised f other.2)
      (visit "https://push.example/a" "auth" "p256dh") (visit "https://push.example/b" "x" "y") ∧
    (journal .file (visit "https://push.example/b" "x" "y")).map (Event.line "5") =
      (journal .file (visit "https://push.example/a" "auth" "p256dh")).map (Event.line "5") := by
  intro f
  have swapped : f "https://push.example/a" = "https://push.example/b" := Equiv.swap_apply_left _ _
  have disguise : Disguise f := Disguise.swap _ _ (by decide +kernel) (by decide +kernel)
  have asked : List.Forall₂ (fun step other => other.1 = step.1 ∧ step.2.Disguised f other.2)
      (visit "https://push.example/a" "auth" "p256dh")
      (visit "https://push.example/b" "x" "y") := by
    have filled : NewSubscription.Draft.Disguised f
        ⟨"https://push.example/a", ["news", "mail"], some "ann", "auth", "p256dh"⟩
        ⟨"https://push.example/b", ["news", "mail"], some "ann", "x", "y"⟩ :=
      ⟨swapped.symm, rfl, rfl, by decide +kernel, by decide +kernel⟩
    have removed : (Operation.removeEndpoint "https://push.example/a").Disguised f
        (.removeEndpoint "https://push.example/b") := swapped ▸ .removeEndpoint _
    exact .cons ⟨rfl, .upsert _ _ filled⟩ (.cons ⟨rfl, .sweep _ _⟩ (.cons ⟨rfl, removed⟩ .nil))
  exact ⟨disguise, asked, lines_of_disguised f disguise .file _ _ asked "5"⟩

end Operation
end PushLedger
