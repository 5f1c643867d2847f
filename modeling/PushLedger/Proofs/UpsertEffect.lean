import PushLedger.Proofs.Coverage
import PushLedger.Proofs.LifeCycle

/-!
# What a request does to a table

A request replaces the rows of its endpoint on every table without a guard whose counter has kept up
with its ids, whatever the cells of the other rows hold and whatever texts the request consists of. It
fails only if the ids do not suffice for its topics. The rows that it writes are numbered from the
counter on, in the order of the topics, and a lookup reads them back as they were requested.
-/

namespace PushLedger

namespace Table

/-- A request leaves the rows of other endpoints and numbers its own from the counter on. -/
theorem Counts.replaced_eq {t : Table} (counts : t.Counts) (current : t.Current)
    (request : NewSubscription) (now : Instant) :
    Database.replaced t request now = { t with
      rows := (t.rows.filter fun row => !row.endpoint.isText request.endpoint) ++
        Row.numbered t.counter (Database.freshContents request now)
      counter := t.counter + request.topics.size } := by
  have cleared := (counts.without fun row => row.endpoint.isText request.endpoint).addAll_eq
    (current_without t _ current).counted (Database.freshContents request now)
  have size : (Database.freshContents request now).length = request.topics.size :=
    List.length_map _
  rw [size] at cleared
  exact cleared

end Table

namespace NewSubscription

/-- What a lookup reads back for the topic at this place of a request. -/
def subscription (request : NewSubscription) (now : Instant) (counter : Int) (place : Nat)
    (topic : String) : Subscription where
  id := counter + 1 + place
  topic := topic
  userId := request.userId
  endpoint := request.endpoint
  keyAuth := request.keyAuth
  keyP256dh := request.keyP256dh
  updatedAt := now.millis
  warningSent := false

end NewSubscription

namespace Database

/-- The row that a request writes for the topic at one of its places. -/
def freshRow (request : NewSubscription) (now : Instant) (counter : Int) (place : Nat)
    (topic : String) : Row :=
  { freshContent request now topic with id := counter + 1 + place }

section Reading

variable (request : NewSubscription) (now : Instant) (counter : Int)

/-- The numbered rows of a request are those for its topics, at their places. -/
theorem mem_fresh_iff (row : Row) :
    row ∈ Row.numbered counter (freshContents request now) ↔
      ∃ place topic, request.topics.names[place]? = some topic ∧
        row = freshRow request now counter place topic := by
  rw [Row.mem_numbered_iff]
  constructor
  · rintro ⟨place, listed, counted⟩
    rw [freshContents, List.getElem?_map, Option.map_eq_some_iff] at listed
    obtain ⟨topic, named, written⟩ := listed
    refine ⟨place, topic, named, ?_⟩
    obtain ⟨content, id⟩ := row
    obtain rfl : freshContent request now topic = content := written
    obtain rfl : id = counter + 1 + place := counted
    rfl
  · rintro ⟨place, topic, named, rfl⟩
    refine ⟨place, ?_, rfl⟩
    rw [freshContents, List.getElem?_map, named]
    rfl

/-- A row that a request has written reads as it was requested. -/
theorem read_freshRow (place : Nat) (topic : String) :
    (freshRow request now counter place topic).read =
      .ok (request.subscription now counter place topic) := by
  obtain ⟨endpoint, topics, userId, keyAuth, keyP256dh⟩ := request
  cases userId <;> rfl

end Reading

section Lookups

variable {t : Table} {others : List Row} {request : NewSubscription} {now : Instant} {counter : Int}
  {topic : String}
  (left : t.rows = others ++ Row.numbered counter (freshContents request now))

include left

/-- If the rows that were there before can be read under a topic, so can all rows. -/
theorem reads_written
    (readable : ∀ row ∈ others, row.topic = .text topic → ∃ s, row.read = .ok s) :
    ∃ found, (t.rows.filter fun row => row.topic.isText topic).mapM Row.read = .ok found := by
  refine exists_mapM_eq_ok ?_
  intro row selected
  obtain ⟨member, ofTopic⟩ := List.mem_filter.mp selected
  rcases List.mem_append.mp (left ▸ member) with old | fresh
  · exact readable row old ((row.topic.isText_iff topic).mp ofTopic)
  · obtain ⟨place, other, _, rfl⟩ := (mem_fresh_iff request now counter row).mp fresh
    exact ⟨_, read_freshRow request now counter place other⟩

/-- If the rows that were there before are of other endpoints, what is read of the endpoint of the
request under a topic is the subscription for this topic, if it is among the requested. -/
theorem mem_written_iff (foreign : ∀ row ∈ others, row.endpoint ≠ .text request.endpoint)
    {found : List Subscription}
    (read : (t.rows.filter fun row => row.topic.isText topic).mapM Row.read = .ok found)
    (s : Subscription) : s ∈ found ∧ s.endpoint = request.endpoint ↔
      ∃ place : Nat, request.topics.names[place]? = some topic ∧
        s = request.subscription now counter place topic := by
  rw [mem_iff_of_mapM read]
  constructor
  · rintro ⟨⟨row, selected, reads⟩, own⟩
    obtain ⟨member, ofTopic⟩ := List.mem_filter.mp selected
    rcases List.mem_append.mp (left ▸ member) with old | fresh
    · have spells := (row.spells_of_read s reads).2
      have sameEndpoint : row.endpoint = .text s.endpoint := congrArg Content.endpoint spells
      exact absurd (own ▸ sameEndpoint) (foreign row old)
    · obtain ⟨place, other, named, rfl⟩ := (mem_fresh_iff request now counter row).mp fresh
      have sameTopic : Cell.text other = .text topic := (Cell.isText_iff _ _).mp ofTopic
      obtain rfl := Cell.text.inj sameTopic
      rw [read_freshRow] at reads
      exact ⟨place, named, (Except.ok.inj reads).symm⟩
  · rintro ⟨place, named, rfl⟩
    have fresh : freshRow request now counter place topic ∈ t.rows := by
      rw [left]
      exact List.mem_append_right _ ((mem_fresh_iff request now counter _).mpr
        ⟨place, topic, named, rfl⟩)
    have ofTopic : (Cell.text topic).isText topic = true := (Cell.isText_iff _ _).mpr rfl
    exact ⟨⟨_, List.mem_filter.mpr ⟨fresh, ofTopic⟩, read_freshRow request now counter place topic⟩,
      rfl⟩

end Lookups

/-- Where a table is stored as a request leaves it, a lookup of a topic succeeds if the rows of other
endpoints can be read. It finds the endpoint of the request under the requested topics, as it was
requested, and under no others. -/
theorem lookup_replaced {db : Database} {t : Table} {request : NewSubscription} {now : Instant}
    (stored : db.subscriptions = some (replaced t request now)) (current : t.Current)
    (counts : t.Counts) (topic : String)
    (readable : ∀ row ∈ t.rows, row.topic = .text topic → row.endpoint ≠ .text request.endpoint →
      ∃ s, row.read = .ok s) :
    ∃ found, (db.lookup topic).result = .ok found ∧
      (∀ s, s ∈ found ∧ s.endpoint = request.endpoint ↔
        ∃ place : Nat, request.topics.names[place]? = some topic ∧
          s = request.subscription now t.counter place topic) ∧
      ((∃ s ∈ found, s.endpoint = request.endpoint) ↔ topic ∈ request.topics) := by
  have written := congrArg Table.rows (counts.replaced_eq current request now)
  have after : (replaced t request now).Current :=
    Table.current_addAll _ _ (Table.current_without t _ current)
  have flagged : (replaced t request now).layout.flagged = true := by
    rw [after.epoch]
    rfl
  obtain ⟨found, read⟩ : ∃ found, ((replaced t request now).rows.filter fun row =>
      row.topic.isText topic).mapM Row.read = .ok found := by
    refine reads_written written ?_
    intro row old ofTopic
    obtain ⟨present, foreign⟩ := (t.mem_cleared_iff request.endpoint row).mp old
    exact readable row present ofTopic foreign
  have own := mem_written_iff written
    (fun row old => ((t.mem_cleared_iff request.endpoint row).mp old).2) read
  have looked := (Table.lookup_ok_iff _ topic found).mpr ⟨flagged, read⟩
  refine ⟨found, (lookup_result _ _ stored topic).trans looked, own, ?_⟩
  constructor
  · rintro ⟨s, member, ofEndpoint⟩
    obtain ⟨place, named, _⟩ := (own s).mp ⟨member, ofEndpoint⟩
    exact List.mem_of_getElem? named
  · intro requested
    obtain ⟨place, named⟩ := List.mem_iff_getElem?.mp requested
    exact ⟨_, (own _).mpr ⟨place, named, rfl⟩⟩

/-- A request on a table without a guard whose counter has kept up with its ids fails exactly if it
has topics and the ids do not suffice for them, and then changes nothing. If it succeeds, the rows of
its endpoint are gone, the others are left in their order, and one row is added for each topic, in the
order of the bytes of the topics and numbered from the counter on; everything else stays. A lookup
then finds the endpoint under the requested topics, as it was requested, and under no others. -/
theorem replace_effect (db : Database) (t : Table) (kept : db.subscriptions = some t)
    (current : t.Current) (counts : t.Counts) (request : NewSubscription) (now : Instant) :
    ((∃ fault, (db.replace request now).result = .error fault) ↔
      0 < request.topics.size ∧ Word.greatest < t.counter + request.topics.size) ∧
    (∀ fault, (db.replace request now).result = .error fault →
      fault = .storage .full ∧ (db.replace request now).database = db) ∧
    ∀ count, (db.replace request now).result = .ok count →
      count = request.topics.size ∧
      (db.replace request now).database = db.withTable
        { t with
          rows := (t.rows.filter fun row => !row.endpoint.isText request.endpoint) ++
            Row.numbered t.counter (request.topics.names.map (freshContent request now))
          counter := t.counter + request.topics.size } ∧
      (request.topics.names.Pairwise fun a b => Text.utf8 a < Text.utf8 b) ∧
      ∀ topic, (∀ row ∈ t.rows, row.topic = .text topic → row.endpoint ≠ .text request.endpoint →
          ∃ s, row.read = .ok s) →
        ∃ found, ((db.replace request now).database.lookup topic).result = .ok found ∧
          (∀ s, s ∈ found ∧ s.endpoint = request.endpoint ↔
            ∃ place : Nat, request.topics.names[place]? = some topic ∧
              s = request.subscription now t.counter place topic) ∧
          ((∃ s ∈ found, s.endpoint = request.endpoint) ↔ topic ∈ request.topics) := by
  have roomy := counts.hasRoom_iff current request.endpoint request.topics.size
  rcases replace_current kept current request now with ⟨room, done, left⟩ | ⟨full, failed, same⟩
  · rw [roomy] at room
    refine ⟨⟨?_, ?_⟩, ?_, ?_⟩
    · rintro ⟨fault, failed⟩
      exact nomatch done.symm.trans failed
    · rintro ⟨requested, short⟩
      omega
    · intro fault failed
      exact nomatch done.symm.trans failed
    · intro count counted
      refine ⟨(Except.ok.inj (done.symm.trans counted)).symm, ?_, request.topics.names_byte_order,
        ?_⟩
      · rw [left, counts.replaced_eq current]
        rfl
      · intro topic readable
        have stored : (db.replace request now).database.subscriptions =
            some (replaced t request now) := congrArg subscriptions left
        exact lookup_replaced stored current counts topic readable
  · rw [roomy] at full
    refine ⟨⟨?_, ?_⟩, ?_, ?_⟩
    · intro _
      omega
    · intro _
      exact ⟨_, failed⟩
    · intro fault again
      exact ⟨(Except.error.inj (failed.symm.trans again)).symm, same⟩
    · intro count counted
      exact nomatch failed.symm.trans counted

end Database

/-! A request of blanks and zero characters meets a table with a damaged row and a row of its own. -/

namespace OddRequest

open Resubscription (row)

/-- The request, for two topics. -/
def request : NewSubscription := ⟨"\x00", .ofList ["news\x00", ""], some "", " ", "\t\x00"⟩

/-- A row of another endpoint, under the blank topic. -/
def other : Row := { row 3 with topic := .text "" }

/-- A row whose endpoint is not a text. -/
def damaged : Row := { row 4 with endpoint := .blob [0], warningSent := .text "?" }

/-- A row of the endpoint of the request. -/
def own : Row := { row 5 with endpoint := .text "\x00", updatedAt := .blob [] }

/-- The table of these rows. -/
def table (counter : Nat) : Table := ⟨.epoch, true, [other, damaged, own], counter, none⟩

/-- The database that holds the table. -/
def database (counter : Nat) : Database := Database.fresh.withTable (table counter)

/-- The request takes the place of its own row and is found under the blank topic. Where only one id
is left it fails. -/
theorem odd_request_written :
    (table 7).Current ∧ (table 7).Counts ∧
    ((database 7).replace request .epoch).result = .ok 2 ∧
    ((database 7).replace request .epoch).database.rows.map Row.id = [3, 4, 8, 9] ∧
    (∃ found, (((database 7).replace request .epoch).database.lookup "").result = .ok found ∧
      request.subscription .epoch 7 0 "" ∈ found) ∧
    ∃ fault, ((database (Word.greatest.toNat - 1)).replace request .epoch).result = .error fault := by
  have counts : (table 7).Counts := by
    unfold Table.Counts
    decide +kernel
  have countsLate : (table (Word.greatest.toNat - 1)).Counts := by
    unfold Table.Counts
    decide +kernel
  have done : ((database 7).replace request .epoch).result = .ok 2 := by decide +kernel
  obtain ⟨_, _, succeeds⟩ :=
    Database.replace_effect (database 7) (table 7) rfl ⟨rfl, rfl⟩ counts request .epoch
  obtain ⟨failsLate, _⟩ := Database.replace_effect (database (Word.greatest.toNat - 1))
    (table (Word.greatest.toNat - 1)) rfl ⟨rfl, rfl⟩ countsLate request .epoch
  obtain ⟨_, left, _, lookups⟩ := succeeds 2 done
  have readable : ∀ row ∈ (table 7).rows, row.topic = .text "" →
      row.endpoint ≠ .text request.endpoint → ∃ s, row.read = .ok s := by
    intro row member blank foreign
    simp only [table, List.mem_cons, List.not_mem_nil, or_false] at member
    rcases member with rfl | rfl | rfl
    · exact ⟨⟨3, "", some "ann", "https://push.example/a", "auth", "p256dh", 0, false⟩, rfl⟩
    · exact absurd blank (by decide)
    · exact absurd rfl foreign
  obtain ⟨found, read, ofEndpoint, _⟩ := lookups "" readable
  have first : request.topics.names[0]? = some "" := by decide +kernel
  refine ⟨⟨rfl, rfl⟩, counts, done, ?_, ⟨found, read, ?_⟩, failsLate.mpr ?_⟩
  · rw [left]
    decide +kernel
  · exact ((ofEndpoint _).mpr ⟨0, first, rfl⟩).1
  · decide +kernel

end OddRequest

end PushLedger
