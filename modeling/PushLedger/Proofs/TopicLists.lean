import PushLedger.Proofs.LifeCycle

/-!
# Lists of topics as sets

A request names its topics in a list, and only which topics occur in it matters, not in which order
and not how often. Each of them becomes one subscription of its own, under the very text that the list
has: blanks around it are part of it. A list with a blank topic is refused, after the endpoint and the
keys have been looked at.
-/

namespace PushLedger

/-- Strictly ascending lists with the same members are the same set. -/
theorem TopicSet.ext_members (a b : TopicSet) (same : ∀ topic, topic ∈ a.names ↔ topic ∈ b.names) :
    a = b := by
  have listed : a.names = b.names := by
    refine List.Perm.eq_of_pairwise ?_ a.ascending b.ascending
      ((List.perm_ext_iff_of_nodup a.names_nodup b.names_nodup).mpr same)
    intro first second _ _ less greater
    exact absurd (String.lt_trans less greater) (String.lt_irrefl first)
  cases a
  cases b
  cases listed
  rfl

/-- Lists with the same members make the same set. -/
theorem TopicSet.ofList_congr (topics others : List String)
    (same : ∀ topic, topic ∈ others ↔ topic ∈ topics) : ofList others = ofList topics := by
  refine ext_members _ _ ?_
  intro topic
  rw [mem_ofList_iff, mem_ofList_iff, same]

namespace NewSubscription.Draft

/-- What a draft is refused for, and what was in order before. -/
inductive Refused (draft : Draft) : ValidationFault → Prop
  | endpoint (blank : Text.isBlank draft.endpoint = true) : Refused draft .emptyEndpoint
  | keyAuth (endpoint : Text.isBlank draft.endpoint = false)
      (blank : Text.isBlank draft.keyAuth = true) : Refused draft (.emptyKey "key_auth")
  | keyP256dh (endpoint : Text.isBlank draft.endpoint = false)
      (keyAuth : Text.isBlank draft.keyAuth = false)
      (blank : Text.isBlank draft.keyP256dh = true) : Refused draft (.emptyKey "key_p256dh")
  | topic (endpoint : Text.isBlank draft.endpoint = false)
      (keyAuth : Text.isBlank draft.keyAuth = false)
      (keyP256dh : Text.isBlank draft.keyP256dh = false) (topic : String)
      (listed : topic ∈ draft.topics) (blank : Text.isBlank topic = true) :
      Refused draft .emptyTopic

variable (draft : Draft)

/-- The fault that is found is the one that the draft is refused for. -/
theorem fault?_eq_some_iff (fault : ValidationFault) :
    draft.fault? = some fault ↔ draft.Refused fault := by
  unfold fault?
  constructor
  · intro found
    split at found
    · obtain rfl := Option.some.inj found
      exact .endpoint ‹_›
    · rename_i endpoint
      rw [Bool.not_eq_true] at endpoint
      split at found
      · obtain rfl := Option.some.inj found
        exact .keyAuth endpoint ‹_›
      · rename_i keyAuth
        rw [Bool.not_eq_true] at keyAuth
        split at found
        · obtain rfl := Option.some.inj found
          exact .keyP256dh endpoint keyAuth ‹_›
        · rename_i keyP256dh
          rw [Bool.not_eq_true] at keyP256dh
          split at found
          · rename_i someBlank
            obtain rfl := Option.some.inj found
            obtain ⟨topic, listed, blank⟩ := List.any_eq_true.mp someBlank
            exact .topic endpoint keyAuth keyP256dh topic listed blank
          · exact nomatch found
  · intro refused
    cases refused with
    | endpoint blank => simp [blank]
    | keyAuth endpoint blank => simp [endpoint, blank]
    | keyP256dh endpoint keyAuth blank => simp [endpoint, keyAuth, blank]
    | topic endpoint keyAuth keyP256dh topic listed blank =>
      have someBlank : draft.topics.any Text.isBlank = true :=
        List.any_eq_true.mpr ⟨topic, listed, blank⟩
      simp [endpoint, keyAuth, keyP256dh, someBlank]

/-- A draft is refused exactly if one of its texts is blank that may not be. -/
theorem refused_iff : (∃ fault, draft.Refused fault) ↔
    Text.isBlank draft.endpoint = true ∨ Text.isBlank draft.keyAuth = true ∨
      Text.isBlank draft.keyP256dh = true ∨ ∃ topic ∈ draft.topics, Text.isBlank topic = true := by
  constructor
  · rintro ⟨fault, refused⟩
    cases refused with
    | endpoint blank => exact .inl blank
    | keyAuth _ blank => exact .inr (.inl blank)
    | keyP256dh _ _ blank => exact .inr (.inr (.inl blank))
    | topic _ _ _ topic listed blank => exact .inr (.inr (.inr ⟨topic, listed, blank⟩))
  · intro somewhere
    cases endpoint : Text.isBlank draft.endpoint with
    | true => exact ⟨_, .endpoint endpoint⟩
    | false =>
      cases keyAuth : Text.isBlank draft.keyAuth with
      | true => exact ⟨_, .keyAuth endpoint keyAuth⟩
      | false =>
        cases keyP256dh : Text.isBlank draft.keyP256dh with
        | true => exact ⟨_, .keyP256dh endpoint keyAuth keyP256dh⟩
        | false =>
          simp only [endpoint, keyAuth, keyP256dh, Bool.false_eq_true, false_or] at somewhere
          obtain ⟨topic, listed, blank⟩ := somewhere
          exact ⟨_, .topic endpoint keyAuth keyP256dh topic listed blank⟩

/-- The check of a draft asks only which topics occur. -/
theorem check_congr (topics : List String) (same : ∀ topic, topic ∈ topics ↔ topic ∈ draft.topics) :
    { draft with topics := topics }.check = draft.check := by
  have blanks : topics.any Text.isBlank = draft.topics.any Text.isBlank := by
    rw [Bool.eq_iff_iff, List.any_eq_true, List.any_eq_true]
    simp only [same]
  have sets := TopicSet.ofList_congr draft.topics topics same
  simp only [check, fault?, unchecked, blanks, sets]

end NewSubscription.Draft

/-- A guard stands against this change of rows of the topic. -/
def Guard.bars (g : Option Guard) (moment : Moment) (topic : String) : Bool :=
  g.any fun g => g.moment = moment && g.topic.all fun watched => topic == watched

/-- Whether a guard stands against a change is a matter of the topic of the row. -/
theorem Guard.stops_eq (g : Option Guard) (moment : Moment) (content : Content) (topic : String)
    (named : content.topic = .text topic) : stops g moment content = bars g moment topic := by
  cases g with
  | none => rfl
  | some g =>
    obtain ⟨watchedMoment, watched, message⟩ := g
    cases watched <;> simp [stops, bars, watches, named, Cell.isText]

namespace Row

/-- The row is a subscription of the endpoint to the topic. -/
def subscribes (endpoint topic : String) (row : Row) : Bool :=
  row.endpoint.isText endpoint && row.topic.isText topic

/-- A row is a subscription to one topic only. -/
theorem topic_of_subscribes {endpoint a b : String} (row : Row)
    (first : row.subscribes endpoint a = true) (second : row.subscribes endpoint b = true) :
    a = b := by
  have ofA := (row.topic.isText_iff a).mp (Bool.and_eq_true_iff.mp first).2
  have ofB := (row.topic.isText_iff b).mp (Bool.and_eq_true_iff.mp second).2
  exact Cell.text.inj (ofA.symm.trans ofB)

end Row

namespace Table

/-- How many subscriptions of the endpoint to the topic there are. -/
def subscribed (t : Table) (endpoint topic : String) : Nat :=
  t.rows.countP (Row.subscribes endpoint topic)

/-- The second table has come from the first one by insertions for an endpoint: one for each topic of
the list that no guard bars. -/
structure Gains (t changed : Table) (endpoint : String) (topics : List String) : Prop where
  guard : changed.guard = t.guard
  keyed : t.Keyed → changed.Keyed
  subscribed : ∀ topic, changed.subscribed endpoint topic =
    t.subscribed endpoint topic + if Guard.bars t.guard .insert topic then 0 else topics.count topic

/-- Nothing is gained without topics. -/
theorem Gains.refl (t : Table) (endpoint : String) : t.Gains t endpoint [] :=
  ⟨rfl, id, fun topic => by simp⟩

/-- What is gained in two steps is gained from both lists. -/
theorem Gains.trans {t changed last : Table} {endpoint : String} {topics others : List String}
    (first : t.Gains changed endpoint topics) (second : changed.Gains last endpoint others) :
    t.Gains last endpoint (topics ++ others) where
  guard := second.guard.trans first.guard
  keyed := fun keyed => second.keyed (first.keyed keyed)
  subscribed := by
    intro topic
    rw [second.subscribed, first.subscribed, first.guard, List.count_append]
    split <;> omega

variable {t changed : Table} {count : Nat}

/-- The insertion for one topic gains this topic. -/
theorem gains_of_insert (request : NewSubscription) (now : Instant) (topic : String)
    (done : t.insert none (Database.freshContent request now topic) = .ok (changed, count)) :
    t.Gains changed request.endpoint [topic] := by
  -- in every layout the columns of topics and endpoints keep texts as they are
  have named : ((Database.freshContent request now topic).stored t.layout).topic = .text topic := by
    cases t.layout <;> rfl
  have addressed : ((Database.freshContent request now topic).stored t.layout).endpoint =
      .text request.endpoint := by
    cases t.layout <;> rfl
  have barred := Guard.stops_eq t.guard .insert _ topic named
  rcases insert_cases none _ done with ⟨stopped, rfl⟩ | ⟨unstopped, row, content, _, fresh, rfl⟩
  · refine ⟨rfl, id, ?_⟩
    intro other
    by_cases same : topic = other
    · subst same
      simp [← barred, stopped]
    · simp [same]
  · refine ⟨rfl, ?_, ?_⟩
    · intro keyed
      refine ((row.place_perm t.rows).map Row.id).nodup_iff.mpr (List.nodup_cons.mpr ⟨?_, keyed⟩)
      intro member
      obtain ⟨other, present, same⟩ := List.mem_map.mp member
      exact fresh other present same
    · intro other
      have own : row.subscribes request.endpoint other = (topic == other) := by
        simp [Row.subscribes, content, named, addressed, Cell.isText]
      simp only [subscribed, (row.place_perm t.rows).countP_eq, List.countP_cons, own]
      by_cases same : topic = other
      · subst same
        simp [← barred, unstopped]
      · simp [same]

/-- The insertions for a list of topics gain these topics. -/
theorem gains_of_insertNames (request : NewSubscription) (now : Instant) (names : List String)
    (t : Table) (done : names.foldlM
      (fun t topic => return (← t.insert none (Database.freshContent request now topic)).1) t =
        .ok changed) : t.Gains changed request.endpoint names := by
  induction names generalizing t with
  | nil =>
    obtain rfl := Except.ok.inj done
    exact .refl t request.endpoint
  | cons name rest inductionHypothesis =>
    rw [List.foldlM_cons] at done
    obtain ⟨next, inserted, others⟩ := (bind_eq_ok_iff _ _ _).mp done
    obtain ⟨⟨placed, count⟩, single, same⟩ := (bind_eq_ok_iff _ _ _).mp inserted
    obtain rfl := Except.ok.inj same
    exact (gains_of_insert request now name single).trans (inductionHypothesis placed others)

/-- A deletion by endpoint takes all its subscriptions except those to topics that a guard bars. -/
theorem subscribed_of_delete (endpoint : String)
    (done : (t.delete fun row => row.endpoint.isText endpoint) = .ok (changed, count)) :
    changed.guard = t.guard ∧ (t.Keyed → changed.Keyed) ∧
    ∀ topic, changed.subscribed endpoint topic =
      if Guard.bars t.guard .delete topic then t.subscribed endpoint topic else 0 := by
  obtain rfl := delete_cases _ done
  refine ⟨rfl, ?_, ?_⟩
  · intro keyed
    exact keyed.sublist (List.filter_sublist.map Row.id)
  · intro topic
    have spared (row : Row) (own : row.subscribes endpoint topic = true) :
        (!t.reached .delete (fun row => row.endpoint.isText endpoint) row) =
          Guard.bars t.guard .delete topic := by
      obtain ⟨addressed, named⟩ := Bool.and_eq_true_iff.mp own
      rw [reached, addressed, Bool.true_and, Bool.not_not]
      exact Guard.stops_eq _ _ _ _ ((row.topic.isText_iff topic).mp named)
    simp only [subscribed, List.countP_filter]
    cases barred : Guard.bars t.guard .delete topic with
    | true =>
      rw [if_pos rfl]
      refine List.countP_congr ?_
      intro row _
      rw [Bool.and_eq_true_iff, and_iff_left_iff_imp]
      intro own
      rw [spared row own, barred]
    | false =>
      rw [if_neg Bool.false_ne_true]
      refine List.countP_eq_zero.mpr ?_
      intro row _ both
      obtain ⟨own, unreached⟩ := Bool.and_eq_true_iff.mp both
      rw [spared row own, barred] at unreached
      cases unreached

end Table

namespace Database

variable (db : Database) (draft : NewSubscription.Draft) (now : Instant)

/-- A request is refused by its check exactly if the draft is, and then nothing else happens. -/
theorem upsert_refused_iff (fault : ValidationFault) :
    ((db.upsert draft now).result = .error (.validation fault) ↔ draft.Refused fault) ∧
    (draft.Refused fault →
      (db.upsert draft now).database = db ∧ (db.upsert draft now).events = []) := by
  rw [← draft.fault?_eq_some_iff]
  cases found : draft.fault? with
  | some cause => simp [upsert, NewSubscription.Draft.check, found]
  | none =>
    have unfound : none ≠ some fault := (Option.some_ne_none fault).symm
    refine ⟨iff_of_false ?_ unfound, fun refused => absurd refused unfound⟩
    simp only [upsert, NewSubscription.Draft.check, found, replace]
    cases db.replaceRows { draft.unchecked with userId := normalizeOwner draft.userId } now with
    | ok changed => simp [Outcome.transact, Outcome.map, Except.map]
    | error cause => simp [Outcome.transact, Outcome.map, Except.map, LedgerFault.storage]

/-- A replacement that is carried out clears the endpoint and then inserts the topics. -/
theorem replaceRows_cases (request : NewSubscription) {after : Database} {count : Nat}
    (done : db.replaceRows request now = .ok (after, count)) :
    ∃ t cleared changed, db.subscriptions = some t ∧
      (t.delete fun row => row.endpoint.isText request.endpoint) = .ok (cleared, count) ∧
      insertTopics request now cleared = .ok changed ∧ after = db.withTable changed := by
  obtain ⟨t, found, done⟩ := (bind_eq_ok_iff _ _ _).mp done
  have kept : db.subscriptions = some t := by
    unfold writable table at found
    split at found
    · exact nomatch found
    · split at found
      · obtain rfl := Except.ok.inj found
        assumption
      · exact nomatch found
      · exact nomatch found
      · exact nomatch found
  obtain ⟨⟨cleared, replaced⟩, deleted, done⟩ := (bind_eq_ok_iff _ _ _).mp done
  dsimp only at done
  split at done
  · exact nomatch done
  · obtain ⟨changed, inserted, done⟩ := (bind_eq_ok_iff _ _ _).mp done
    obtain ⟨rfl, rfl⟩ := Prod.mk.inj (Except.ok.inj done)
    exact ⟨t, cleared, changed, kept, deleted, inserted, rfl⟩

/-- A request that is carried out subscribes its endpoint once to each of its topics that no guard
bars. Of its earlier subscriptions only those to barred topics are still there. -/
theorem subscribed_of_upsert (done : (db.upsert draft now).result = .ok ()) :
    ∃ t changed, db.subscriptions = some t ∧
      (db.upsert draft now).database = db.withTable changed ∧ (t.Keyed → changed.Keyed) ∧
      ∀ topic, changed.subscribed draft.endpoint topic =
        (if Guard.bars t.guard .delete topic then t.subscribed draft.endpoint topic else 0) +
        if topic ∈ draft.topics ∧ Guard.bars t.guard .insert topic = false then 1 else 0 := by
  cases checked : draft.check with
  | error fault => simp [upsert, checked] at done
  | ok request =>
    cases replaced : db.replaceRows request now with
    | error fault =>
      simp [upsert, checked, replace, replaced, Outcome.transact, Outcome.map, Except.map] at done
    | ok pair =>
      have left : (db.upsert draft now).database = pair.1 := by
        simp only [upsert, checked, replace, replaced, Outcome.transact, Outcome.map]
      obtain ⟨t, cleared, changed, kept, deleted, inserted, stored⟩ :=
        db.replaceRows_cases now request replaced
      rw [left, NewSubscription.endpoint_of_check draft request checked]
      obtain ⟨sameGuard, clearedKeyed, spared⟩ := Table.subscribed_of_delete request.endpoint deleted
      have gains := Table.gains_of_insertNames request now request.topics.names cleared inserted
      refine ⟨t, changed, kept, stored, fun keyed => gains.keyed (clearedKeyed keyed), ?_⟩
      intro topic
      have once : request.topics.names.count topic = if topic ∈ draft.topics then 1 else 0 := by
        rw [request.topics.names_nodup.count, NewSubscription.topics_of_check draft request checked]
        simp only [TopicSet.mem_ofList_iff]
      rw [gains.subscribed, spared, sameGuard, once]
      cases Guard.bars t.guard .insert topic <;> simp

/-- Lists with the same topics, in whatever order and however often they occur, have the same outcome:
the same result, database and record. A request is refused by its check exactly if its endpoint, a key
or some topic is blank, for the first of these, and then neither the database nor the record changes.
A request that is carried out subscribes its endpoint once to each text of the list that no guard
bars, so that texts which differ become subscriptions with ids of their own. -/
theorem upsert_takes_set :
    (∀ topics : List String, (∀ topic, topic ∈ topics ↔ topic ∈ draft.topics) →
      db.upsert { draft with topics := topics } now = db.upsert draft now) ∧
    ((∃ fault, (db.upsert draft now).result = .error (.validation fault)) ↔
      Text.isBlank draft.endpoint = true ∨ Text.isBlank draft.keyAuth = true ∨
        Text.isBlank draft.keyP256dh = true ∨ ∃ topic ∈ draft.topics, Text.isBlank topic = true) ∧
    (∀ fault, ((db.upsert draft now).result = .error (.validation fault) ↔ draft.Refused fault) ∧
      (draft.Refused fault →
        (db.upsert draft now).database = db ∧ (db.upsert draft now).events = [])) ∧
    ((db.upsert draft now).result = .ok () → ∃ t changed, db.subscriptions = some t ∧
      (db.upsert draft now).database = db.withTable changed ∧
      (∀ topic, changed.subscribed draft.endpoint topic =
        (if Guard.bars t.guard .delete topic then t.subscribed draft.endpoint topic else 0) +
        if topic ∈ draft.topics ∧ Guard.bars t.guard .insert topic = false then 1 else 0) ∧
      (t.Keyed → ∀ a ∈ draft.topics, ∀ b ∈ draft.topics, a ≠ b →
        Guard.bars t.guard .insert a = false → Guard.bars t.guard .insert b = false →
        ∃ first ∈ changed.rows, ∃ second ∈ changed.rows,
          first.subscribes draft.endpoint a = true ∧ second.subscribes draft.endpoint b = true ∧
          first.id ≠ second.id)) := by
  refine ⟨?_, ?_, db.upsert_refused_iff draft now, ?_⟩
  · intro topics same
    rw [upsert, draft.check_congr topics same, upsert]
  · rw [← draft.refused_iff]
    exact exists_congr fun fault => (db.upsert_refused_iff draft now fault).1
  · intro done
    obtain ⟨t, changed, kept, stored, keyed, counts⟩ := db.subscribed_of_upsert draft now done
    refine ⟨t, changed, kept, stored, counts, ?_⟩
    intro wasKeyed a listedA b listedB apart unbarredA unbarredB
    have subscribed (topic : String) (listed : topic ∈ draft.topics)
        (unbarred : Guard.bars t.guard .insert topic = false) :
        ∃ row ∈ changed.rows, row.subscribes draft.endpoint topic = true := by
      have positive : 0 < changed.subscribed draft.endpoint topic := by
        simp only [counts, listed, unbarred, and_self, if_true]
        omega
      exact List.countP_pos_iff.mp positive
    obtain ⟨first, presentFirst, ofA⟩ := subscribed a listedA unbarredA
    obtain ⟨second, presentSecond, ofB⟩ := subscribed b listedB unbarredB
    refine ⟨first, presentFirst, second, presentSecond, ofA, ofB, ?_⟩
    intro same
    obtain rfl := (keyed wasKeyed).unique first second presentFirst presentSecond same
    exact apart (first.topic_of_subscribes ofA ofB)

end Database

/-! Three topics differ in blanks around them only. -/

namespace PaddedTopics

/-- A request for the topics of a list. -/
def draft (topics : List String) : NewSubscription.Draft :=
  ⟨"https://push.example/a", topics, some "ann", "auth", "p256dh"⟩

/-- A table that has lost its index, with two subscriptions of the same endpoint. -/
def table : Table :=
  ⟨.epoch, false, [Resubscription.row 1, { Resubscription.row 2 with topic := .text "mail" }], 2, none⟩

/-- The database that holds the table. -/
def database : Database := Database.fresh.withTable table

/-- Whatever the order and the repetitions, three subscriptions take the place of the two. With a
topic of blanks among them the list is refused, at whatever place it stands. -/
theorem padded_topics_apart :
    database.upsert (draft ["news ", "news", " news", "news"]) .epoch =
      database.upsert (draft ["news", " news", "news "]) .epoch ∧
    (∃ changed, (database.upsert (draft ["news", " news", "news "]) .epoch).database =
        database.withTable changed ∧
      changed.subscribed "https://push.example/a" "news" = 1 ∧
      changed.subscribed "https://push.example/a" " news" = 1 ∧
      changed.subscribed "https://push.example/a" "news " = 1 ∧
      changed.subscribed "https://push.example/a" "mail" = 0 ∧
      ∃ first ∈ changed.rows, ∃ second ∈ changed.rows,
        first.subscribes "https://push.example/a" "news" = true ∧
        second.subscribes "https://push.example/a" " news" = true ∧ first.id ≠ second.id) ∧
    (database.upsert (draft ["news", "\u3000"]) .epoch).result =
      .error (.validation .emptyTopic) := by
  obtain ⟨alike, _, _, succeeds⟩ :=
    database.upsert_takes_set (draft ["news", " news", "news "]) .epoch
  obtain ⟨_, _, refused, _⟩ := database.upsert_takes_set (draft ["news", "\u3000"]) .epoch
  refine ⟨?_, ?_, (refused .emptyTopic).1.mpr ?_⟩
  · refine alike ["news ", "news", " news", "news"] ?_
    intro topic
    simp only [draft, List.mem_cons, List.not_mem_nil, or_false]
    constructor
    · rintro (rfl | rfl | rfl | rfl) <;> simp
    · rintro (rfl | rfl | rfl) <;> simp
  · have done : (database.upsert (draft ["news", " news", "news "]) .epoch).result = .ok () := by
      decide +kernel
    obtain ⟨t, changed, kept, stored, counts, apart⟩ := succeeds done
    obtain rfl : table = t := Option.some.inj kept
    have keyed : table.Keyed := by
      unfold Table.Keyed
      decide +kernel
    refine ⟨changed, stored, counts "news", counts " news", counts "news ", counts "mail", ?_⟩
    exact apart keyed "news" (by decide) " news" (by decide) (by decide) rfl rfl
  · exact .topic (by decide +kernel) (by decide +kernel) (by decide +kernel) "\u3000" (by decide)
      (by decide +kernel)

end PaddedTopics
end PushLedger
