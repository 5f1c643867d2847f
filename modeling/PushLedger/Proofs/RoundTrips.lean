import PushLedger.Configuration.Document
import PushLedger.Proofs.ConfigurationTexts
import PushLedger.Proofs.Respellings
import PushLedger.Subscription.Document

/-!
# Decoding undoes encoding

Subscriptions, push targets and configurations are written as objects, and are read from every text
of these objects: with the members in any order, blanks between the tokens, and characters escaped
or not. Subscriptions and push targets are also read among other members that nobody looks at, and
without an owner that they do not have.

The two halves meet in the members. The printer writes each of them in some spelling, and the record
takes each of them in any spelling.
-/

namespace PushLedger

open Json

/-! ## Texts of an object -/

/-- The text is the document of an object whose members with known names are respellings of the given
ones, in any order and among any other members. -/
def SpellsObject (names : List String) (given : List (String × Value)) (text : String) : Prop :=
  ∃ members entries, IsDocument (.object members) text ∧ members.Lists entries ∧
    EntriesSpell names given entries

/-- The text is the document of a respelling of the value. -/
def Spells (value : Value) (text : String) : Prop :=
  ∃ other, value.Respelled other ∧ IsDocument other text

/-- A value that is printed is spelled by what is rendered. -/
theorem spells_render {value : Value} (printed : value.Printed) : Spells value value.render := by
  obtain ⟨other, respelled, written⟩ := printed
  refine ⟨other, respelled, [], value.print, [], ?_, nofun, nofun, written⟩
  simp [Value.render]

/-- A respelling of an object has its members in any order. -/
theorem exists_entries {given : List (String × Value)} {value : Value}
    (respelled : (Value.ofMembers given).Respelled value) : ∃ members entries ordered,
      value = .object members ∧ members.Lists entries ∧ entries.Perm ordered ∧
        EntriesRespelled given ordered := by
  obtain _ | _ | _ | _ | _ | ⟨lists, listsOthers, order, respelled⟩ := respelled
  obtain rfl := lists.unique (Value.lists_ofMembers given)
  exact ⟨_, _, _, rfl, listsOthers, order, respelled⟩

/-- Members with known names only are all of them given. -/
theorem entriesSpell_of_perm {names : List String} {given entries ordered : List (String × Value)}
    (respelled : EntriesRespelled given ordered) (order : entries.Perm ordered)
    (known : ∀ name ∈ given.map Prod.fst, name ∈ names) :
    EntriesSpell names given entries ∧ ∀ entry ∈ entries, entry.1 ∈ names := by
  have all : ∀ entry ∈ entries, entry.1 ∈ names := by
    intro entry listed
    exact known _ (respelled.names ▸ List.mem_map_of_mem (order.mem_iff.mp listed))
  refine ⟨⟨ordered, ?_, respelled⟩, all⟩
  rwa [List.filter_eq_self.mpr fun entry listed => by simpa using all entry listed]

/-- An object that is spelled by a text is spelled by its members. -/
theorem Spells.object {names : List String} {given : List (String × Value)} {text : String}
    (spells : Spells (.ofMembers given) text) (known : ∀ name ∈ given.map Prod.fst, name ∈ names) :
    SpellsObject names given text := by
  obtain ⟨other, respelled, document⟩ := spells
  obtain ⟨members, entries, ordered, rfl, lists, order, respelled⟩ := exists_entries respelled
  exact ⟨members, entries, document, lists, (entriesSpell_of_perm respelled order known).1⟩

section Reading

variable {δ α : Type} {r : Record δ α}

/-- A record is read from the members that are given, in any spelling and order, if it takes them and
admits the others. -/
theorem read_spelled (orderly : r.Orderly) {members : Members} {isFirst : Bool} {text : List Char}
    (written : members.Written isFirst text) {entries given : List (String × Value)}
    (lists : members.Lists entries) (spell : EntriesSpell r.names given entries)
    (distinct : (given.map Prod.fst).Nodup)
    (admitted : r.strict = true → ∀ entry ∈ entries, entry.1 ∈ r.names) {filled : δ} {a : α}
    (collected : r.collect entries = .ok filled) (complete : r.complete filled = .ok a) :
    r.read (.object members) = .ok a := by
  refine (Record.read_object_ok_iff orderly written a).mpr
    ⟨entries, lists, ⟨spell.once distinct, fun entry listed unknown => ⟨?_, ?_⟩⟩, filled, collected,
      complete⟩
  · exact eq_false_of_ne_true fun strict => unknown (admitted strict entry listed)
  · obtain ⟨_, writtenValue⟩ := lists.written written listed
    exact entry.2.sound_of_written writtenValue

/-- A record that is not strict is read from a text that spells what it takes. -/
theorem decode_spelled (orderly : r.Orderly) (loose : r.strict = false)
    {given : List (String × Value)} (distinct : (given.map Prod.fst).Nodup) {a : α}
    (takes : ∀ entries, EntriesSpell r.names given entries →
      ∃ filled, r.collect entries = .ok filled ∧ r.complete filled = .ok a) {text : String}
    (spells : SpellsObject r.names given text) : decode r.read text = .ok a := by
  obtain ⟨members, entries, document, lists, spell⟩ := spells
  obtain ⟨filled, collected, complete⟩ := takes entries spell
  refine (decode_ok_iff (Record.sound_of_read orderly) text a).mpr ⟨_, document, ?_⟩
  obtain ⟨_, _, _, _, _, _, written⟩ := document
  cases written with
  | object _ _ written =>
    exact read_spelled orderly written lists spell distinct
      (fun strict => nomatch loose.symm.trans strict) collected complete

end Reading

/-! ## Owners that may be left out -/

/-- What is given of the members: all of them, or all but the owner if there is none. -/
def Gives (members : List (String × Value)) (owner : Option String)
    (given : List (String × Value)) : Prop :=
  given = members ∨ owner = none ∧ given = members.filter (·.1 ≠ "user_id")

namespace Gives

variable {members given entries : List (String × Value)} {owner : Option String} {names : List String}

/-- What is given of different names has different names. -/
theorem distinct (gives : Gives members owner given) (distinct : (members.map Prod.fst).Nodup) :
    (given.map Prod.fst).Nodup := by
  obtain rfl | ⟨_, rfl⟩ := gives
  · exact distinct
  · exact distinct.sublist (List.filter_sublist.map _)

/-- Every other member is looked up under its name. -/
theorem exists_lookup (gives : Gives members owner given) (distinct : (members.map Prod.fst).Nodup)
    (spell : EntriesSpell names given entries) {name : String} (known : name ∈ names)
    (other : name ≠ "user_id") {value : Value} (listed : (name, value) ∈ members) :
    ∃ found, entries.lookup name = some found ∧ value.Respelled found := by
  refine spell.exists_lookup (gives.distinct distinct) known ?_
  obtain rfl | ⟨_, rfl⟩ := gives
  · exact listed
  · exact List.mem_filter.mpr ⟨listed, by simpa using other⟩

/-- A text is looked up and read. -/
theorem exists_text (gives : Gives members owner given) (distinct : (members.map Prod.fst).Nodup)
    (spell : EntriesSpell names given entries) {name : String} (known : name ∈ names)
    (other : name ≠ "user_id") {s : String} (listed : (name, Value.ofText s) ∈ members) :
    ∃ found, entries.lookup name = some found ∧ found.readString .text = .ok s := by
  obtain ⟨found, lookup, respelled⟩ := gives.exists_lookup distinct spell known other listed
  exact ⟨found, lookup, respelled.saysText.readString .text⟩

/-- An integer is looked up as it is. -/
theorem lookup_ofInt (gives : Gives members owner given) (distinct : (members.map Prod.fst).Nodup)
    (spell : EntriesSpell names given entries) {name : String} (known : name ∈ names)
    (other : name ≠ "user_id") {n : Int} (listed : (name, Value.ofInt n) ∈ members) :
    entries.lookup name = some (.ofInt n) := by
  obtain ⟨_, lookup, respelled⟩ := gives.exists_lookup distinct spell known other listed
  rwa [respelled.eq_ofInt] at lookup

/-- The owner is looked up, or there is none. -/
theorem lookup_owner (gives : Gives members owner given) (distinct : (members.map Prod.fst).Nodup)
    (spell : EntriesSpell names given entries) (known : "user_id" ∈ names)
    (listed : ("user_id", Value.ofText? owner) ∈ members) :
    (∃ found, entries.lookup "user_id" = some found ∧ found.readOptional = .ok owner) ∨
      entries.lookup "user_id" = none ∧ owner = none := by
  have distinctGiven := gives.distinct distinct
  obtain rfl | ⟨rfl, rfl⟩ := gives
  · obtain ⟨found, lookup, respelled⟩ := spell.exists_lookup distinctGiven known listed
    exact .inl ⟨found, lookup, respelled.readOptional⟩
  · refine .inr ⟨spell.lookup_none known ?_, rfl⟩
    simp

end Gives

/-! ## Push targets -/

namespace PushTarget

/-- The members of a push target. -/
def members (target : PushTarget) : List (String × Value) :=
  [ ("endpoint", .ofText target.endpoint),
    ("key_auth", .ofText target.keyAuth),
    ("key_p256dh", .ofText target.keyP256dh),
    ("user_id", .ofText? target.userId) ]

/-- The record of a push target is orderly. -/
theorem record_orderly : record.Orderly where
  named := by decide
  apart := by
    simp only [record, fields, List.pairwise_cons, List.forall_mem_cons, List.not_mem_nil,
      false_imp_iff, implies_true, and_true, List.Pairwise.nil]
    and_intros <;>
      exact RecordField.apart_of_puts (fun _ _ => rfl) (fun _ _ => rfl) (fun _ _ _ => rfl)
        (fun _ _ => rfl) (fun _ _ => rfl)
  settles := by
    simp only [record, fields, List.forall_mem_cons, List.not_mem_nil, false_imp_iff, implies_true,
      and_true]
    refine ⟨?_, ?_, ?_, ?_⟩
    · exact RecordField.settles_of_put (fun _ _ => rfl) (fun _ _ => rfl) Value.sound_of_readString
    · exact RecordField.settles_of_put (fun _ _ => rfl) (fun _ _ => rfl) Value.sound_of_readString
    · exact RecordField.settles_of_put (fun _ _ => rfl) (fun _ _ => rfl) Value.sound_of_readString
    · exact RecordField.settles_of_put (fun _ _ => rfl) (fun _ _ => rfl) Value.sound_of_readOptional
  blank := by decide

/-- The fields of a push target take the members that are given of it. -/
theorem collect_spelled {target : PushTarget} {given entries : List (String × Value)}
    (gives : Gives target.members target.userId given)
    (spell : EntriesSpell record.names given entries) :
    ∃ filled, record.collect entries = .ok filled ∧ record.complete filled = .ok target := by
  have distinct : (target.members.map Prod.fst).Nodup := record_orderly.named
  have text {name s : String} (known : name ∈ record.names) (other : name ≠ "user_id") :=
    gives.exists_text (s := s) distinct spell known other
  obtain ⟨_, foundEndpoint, readEndpoint⟩ := text (by decide) (by decide)
    (show ("endpoint", .ofText target.endpoint) ∈ target.members by simp [members])
  obtain ⟨_, foundAuth, readAuth⟩ := text (by decide) (by decide)
    (show ("key_auth", .ofText target.keyAuth) ∈ target.members by simp [members])
  obtain ⟨_, foundP256dh, readP256dh⟩ := text (by decide) (by decide)
    (show ("key_p256dh", .ofText target.keyP256dh) ∈ target.members by simp [members])
  have owner := gives.lookup_owner distinct spell (by decide) (by simp [members])
  obtain ⟨_, foundOwner, readOwner⟩ | ⟨foundOwner, noOwner⟩ := owner
  · refine ⟨⟨some target.endpoint, some target.keyAuth, some target.keyP256dh, some target.userId⟩,
      ?_, rfl⟩
    simp [Record.collect, record, fields, RecordField.takeAt, foundEndpoint, readEndpoint, foundAuth,
      readAuth, foundP256dh, readP256dh, foundOwner, readOwner]
  · refine ⟨⟨some target.endpoint, some target.keyAuth, some target.keyP256dh, none⟩, ?_, ?_⟩
    · simp [Record.collect, record, fields, RecordField.takeAt, foundEndpoint, readEndpoint,
        foundAuth, readAuth, foundP256dh, readP256dh, foundOwner]
    · exact congrArg (fun owner => Except.ok { target with userId := owner }) noOwner.symm

/-- The text spells the target: the members that are given of it. -/
def SpelledBy (target : PushTarget) (text : String) : Prop :=
  ∃ given, Gives target.members target.userId given ∧ SpellsObject record.names given text

/-- A push target is read from every text that spells it. -/
theorem ofJson_of_spelled {target : PushTarget} {text : String} (spelled : target.SpelledBy text) :
    ofJson text = .ok target := by
  obtain ⟨given, gives, spells⟩ := spelled
  exact decode_spelled record_orderly rfl (gives.distinct record_orderly.named)
    (fun _ => collect_spelled gives) spells

/-- A push target is spelled by its rendered text. -/
theorem spelled_render (target : PushTarget) : target.SpelledBy target.toJson.render := by
  have printed : target.toJson.Printed := by
    refine Value.printed_ofMembers ?_
    simp [Value.printed_ofText, Value.printed_ofText?]
  exact ⟨target.members, .inl rfl, (spells_render printed).object fun _ named => named⟩

end PushTarget

/-! ## Subscriptions -/

namespace Subscription

/-- The record of a subscription is orderly. -/
theorem record_orderly : record.Orderly where
  named := by decide
  apart := by
    simp only [record, fields, List.pairwise_cons, List.forall_mem_cons, List.not_mem_nil,
      false_imp_iff, implies_true, and_true, List.Pairwise.nil]
    and_intros <;>
      exact RecordField.apart_of_puts (fun _ _ => rfl) (fun _ _ => rfl) (fun _ _ _ => rfl)
        (fun _ _ => rfl) (fun _ _ => rfl)
  settles := by
    simp only [record, fields, List.forall_mem_cons, List.not_mem_nil, false_imp_iff, implies_true,
      and_true]
    refine ⟨?_, ?_, ?_, ?_, ?_, ?_, ?_, ?_⟩
    · exact RecordField.settles_of_put (fun _ _ => rfl) (fun _ _ => rfl) Value.sound_of_readInteger
    · exact RecordField.settles_of_put (fun _ _ => rfl) (fun _ _ => rfl) Value.sound_of_readString
    · exact RecordField.settles_of_put (fun _ _ => rfl) (fun _ _ => rfl) Value.sound_of_readOptional
    · exact RecordField.settles_of_put (fun _ _ => rfl) (fun _ _ => rfl) Value.sound_of_readString
    · exact RecordField.settles_of_put (fun _ _ => rfl) (fun _ _ => rfl) Value.sound_of_readString
    · exact RecordField.settles_of_put (fun _ _ => rfl) (fun _ _ => rfl) Value.sound_of_readString
    · exact RecordField.settles_of_put (fun _ _ => rfl) (fun _ _ => rfl) Value.sound_of_readInteger
    · exact RecordField.settles_of_put (fun _ _ => rfl) (fun _ _ => rfl) Value.sound_of_readBoolean
  blank := by decide

/-- The fields of a subscription take the members that are given of it. -/
theorem collect_spelled {s : Subscription} (id : Word.Holds s.id) (updatedAt : Word.Holds s.updatedAt)
    {given entries : List (String × Value)} (gives : Gives s.members s.userId given)
    (spell : EntriesSpell record.names given entries) :
    ∃ filled, record.collect entries = .ok filled ∧ record.complete filled = .ok s := by
  have distinct : (s.members.map Prod.fst).Nodup := record_orderly.named
  have text {name t : String} (known : name ∈ record.names) (other : name ≠ "user_id") :=
    gives.exists_text (s := t) distinct spell known other
  have foundId := gives.lookup_ofInt distinct spell (by decide) (by decide)
    (show ("id", .ofInt s.id) ∈ s.members by simp [members])
  obtain ⟨_, foundTopic, readTopic⟩ := text (by decide) (by decide)
    (show ("topic", .ofText s.topic) ∈ s.members by simp [members])
  obtain ⟨_, foundEndpoint, readEndpoint⟩ := text (by decide) (by decide)
    (show ("endpoint", .ofText s.endpoint) ∈ s.members by simp [members])
  obtain ⟨_, foundAuth, readAuth⟩ := text (by decide) (by decide)
    (show ("key_auth", .ofText s.keyAuth) ∈ s.members by simp [members])
  obtain ⟨_, foundP256dh, readP256dh⟩ := text (by decide) (by decide)
    (show ("key_p256dh", .ofText s.keyP256dh) ∈ s.members by simp [members])
  have foundUpdated := gives.lookup_ofInt distinct spell (by decide) (by decide)
    (show ("updated_at", .ofInt s.updatedAt) ∈ s.members by simp [members])
  obtain ⟨_, foundSent, respelledSent⟩ := gives.exists_lookup distinct spell (by decide) (by decide)
    (show ("warning_sent", .boolean s.warningSent) ∈ s.members by simp [members])
  cases respelledSent
  have owner := gives.lookup_owner distinct spell (by decide) (by simp [members])
  obtain ⟨_, foundOwner, readOwner⟩ | ⟨foundOwner, noOwner⟩ := owner
  · refine ⟨⟨some s.id, some s.topic, some s.userId, some s.endpoint, some s.keyAuth,
      some s.keyP256dh, some s.updatedAt, some s.warningSent⟩, ?_, rfl⟩
    simp [Record.collect, record, fields, RecordField.takeAt, foundId, Value.readSigned_ofInt id,
      foundTopic, readTopic, foundEndpoint, readEndpoint, foundAuth, readAuth, foundP256dh,
      readP256dh, foundUpdated, Value.readSigned_ofInt updatedAt, foundSent, Value.readBoolean,
      foundOwner, readOwner]
  · refine ⟨⟨some s.id, some s.topic, none, some s.endpoint, some s.keyAuth,
      some s.keyP256dh, some s.updatedAt, some s.warningSent⟩, ?_, ?_⟩
    · simp [Record.collect, record, fields, RecordField.takeAt, foundId, Value.readSigned_ofInt id,
        foundTopic, readTopic, foundEndpoint, readEndpoint, foundAuth, readAuth, foundP256dh,
        readP256dh, foundUpdated, Value.readSigned_ofInt updatedAt, foundSent, Value.readBoolean,
        foundOwner]
    · exact congrArg (fun owner => Except.ok { s with userId := owner }) noOwner.symm

/-- The text spells the subscription: the members that are given of it. -/
def SpelledBy (s : Subscription) (text : String) : Prop :=
  ∃ given, Gives s.members s.userId given ∧ SpellsObject record.names given text

/-- A subscription is read from every text that spells it. -/
theorem ofJson_of_spelled {s : Subscription} (id : Word.Holds s.id)
    (updatedAt : Word.Holds s.updatedAt) {text : String} (spelled : s.SpelledBy text) :
    ofJson text = .ok s := by
  obtain ⟨given, gives, spells⟩ := spelled
  exact decode_spelled record_orderly rfl (gives.distinct record_orderly.named)
    (fun _ => collect_spelled id updatedAt gives) spells

/-- A subscription is spelled by its rendered text. -/
theorem spelled_render (s : Subscription) : s.SpelledBy s.toJson.render := by
  have printed : s.toJson.Printed := by
    refine Value.printed_ofMembers ?_
    simp [members, Value.printed_ofText, Value.printed_ofText?, Value.printed_ofInt,
      Value.printed_boolean]
  exact ⟨s.members, .inl rfl, (spells_render printed).object fun _ named => named⟩

end Subscription

/-! ## Configurations -/

namespace SweepConfiguration

/-- A sweep is printed. -/
theorem printed (c : SweepConfiguration) : c.toJson.Printed := by
  refine Value.printed_ofMembers ?_
  simp [Value.printed_ofInt]

/-- A sweep is read from every respelling of it that was written. -/
theorem read_respelled {c : SweepConfiguration} (warning : c.warningAfter ≤ Word.greatestUnsigned)
    (expire : c.expireAfter ≤ Word.greatestUnsigned) {value : Value} {text : List Char}
    (respelled : c.toJson.Respelled value) (written : value.Written text) :
    record.read value = .ok c := by
  obtain ⟨members, entries, ordered, rfl, lists, order, respelled⟩ := exists_entries respelled
  obtain ⟨spell, known⟩ : EntriesSpell record.names _ entries ∧
      ∀ entry ∈ entries, entry.1 ∈ record.names :=
    entriesSpell_of_perm respelled order fun _ named => named
  obtain ⟨_, foundWarning, respelledWarning⟩ :=
    spell.exists_lookup record_orderly.named (by decide) (.head _)
  obtain ⟨_, foundExpire, respelledExpire⟩ :=
    spell.exists_lookup record_orderly.named (by decide) (.tail _ (.head _))
  have readWarning := (Value.readUnsigned_ok_iff _ _).mpr (Value.saysUnsigned_ofInt warning)
  have readExpire := (Value.readUnsigned_ok_iff _ _).mpr (Value.saysUnsigned_ofInt expire)
  have collected : record.collect entries = .ok ⟨some c.warningAfter, some c.expireAfter⟩ := by
    rw [respelledWarning.eq_ofInt] at foundWarning
    rw [respelledExpire.eq_ofInt] at foundExpire
    simp [Record.collect, record, fields, RecordField.takeAt, foundWarning, readWarning, foundExpire,
      readExpire]
  cases written with
  | object _ _ written =>
    exact read_spelled record_orderly written lists spell record_orderly.named (fun _ => known)
      collected rfl

/-- A sweep is read from every text that spells it. -/
theorem ofJson_of_spells {c : SweepConfiguration} (warning : c.warningAfter ≤ Word.greatestUnsigned)
    (expire : c.expireAfter ≤ Word.greatestUnsigned) {text : String} (spells : Spells c.toJson text) :
    ofJson text = .ok c := by
  obtain ⟨value, respelled, document⟩ := spells
  refine (decode_ok_iff (Record.sound_of_read record_orderly) text c).mpr ⟨value, document, ?_⟩
  obtain ⟨_, _, _, _, _, _, written⟩ := document
  exact read_respelled warning expire respelled written

end SweepConfiguration

namespace Configuration

/-- A configuration is printed. -/
theorem printed (c : Configuration) : c.toJson.Printed := by
  refine Value.printed_ofMembers ?_
  simp [Value.printed_ofText, c.sweep.printed]

/-- A configuration is read from every text that spells it. -/
theorem ofJson_of_spells {c : Configuration} (warning : c.sweep.warningAfter ≤ Word.greatestUnsigned)
    (expire : c.sweep.expireAfter ≤ Word.greatestUnsigned) {text : String}
    (spells : Spells c.toJson text) : ofJson text = .ok c := by
  obtain ⟨value, respelled, document⟩ := spells
  refine (decode_ok_iff (Record.sound_of_read record_orderly) text c).mpr ⟨value, document, ?_⟩
  obtain ⟨_, _, _, _, _, _, written⟩ := document
  obtain ⟨members, entries, ordered, rfl, lists, order, respelled⟩ := exists_entries respelled
  obtain ⟨spell, known⟩ : EntriesSpell record.names _ entries ∧
      ∀ entry ∈ entries, entry.1 ∈ record.names :=
    entriesSpell_of_perm respelled order fun _ named => named
  cases written with
  | object _ _ written =>
    obtain ⟨path, foundPath, respelledPath⟩ :=
      spell.exists_lookup record_orderly.named (by decide) (.head _)
    obtain ⟨sweep, foundSweep, respelledSweep⟩ :=
      spell.exists_lookup record_orderly.named (by decide) (.tail _ (.head _))
    have readPath := respelledPath.saysText.readString .path
    have readSweep : SweepConfiguration.record.read sweep = .ok c.sweep := by
      have listed := (lookup_eq_some_iff_mem (spell.once record_orderly.named) (by decide) sweep).mp
        foundSweep
      obtain ⟨_, writtenSweep⟩ := lists.written written listed
      exact SweepConfiguration.read_respelled warning expire respelledSweep writtenSweep
    have collected : record.collect entries = .ok ⟨some c.path, some c.sweep⟩ := by
      simp [Record.collect, record, fields, RecordField.takeAt, foundPath, readPath, foundSweep,
        readSweep]
    exact read_spelled record_orderly written lists spell record_orderly.named (fun _ => known)
      collected rfl

end Configuration

/-! ## Every text of a value -/

/-- Whatever text is written for a subscription, a push target, a sweep or a configuration, the same
one is read from it; and what is rendered for one of them is such a text. -/
theorem decoding_undoes_encoding :
    (∀ s : Subscription, Word.Holds s.id → Word.Holds s.updatedAt →
      s.SpelledBy s.toJson.render ∧
        ∀ text, s.SpelledBy text → Subscription.ofJson text = .ok s) ∧
    (∀ target : PushTarget, target.SpelledBy target.toJson.render ∧
      ∀ text, target.SpelledBy text → PushTarget.ofJson text = .ok target) ∧
    (∀ c : SweepConfiguration, c.warningAfter ≤ Word.greatestUnsigned →
      c.expireAfter ≤ Word.greatestUnsigned → Spells c.toJson c.toJson.render ∧
        ∀ text, Spells c.toJson text → SweepConfiguration.ofJson text = .ok c) ∧
    ∀ c : Configuration, c.sweep.warningAfter ≤ Word.greatestUnsigned →
      c.sweep.expireAfter ≤ Word.greatestUnsigned → Spells c.toJson c.toJson.render ∧
        ∀ text, Spells c.toJson text → Configuration.ofJson text = .ok c := by
  refine ⟨fun s id updatedAt => ⟨s.spelled_render, fun _ => ?_⟩,
    fun target => ⟨target.spelled_render, fun _ => PushTarget.ofJson_of_spelled⟩,
    fun c warning expire => ⟨spells_render c.printed, fun _ => ?_⟩,
    fun c warning expire => ⟨spells_render c.printed, fun _ => ?_⟩⟩
  · exact Subscription.ofJson_of_spelled id updatedAt
  · exact SweepConfiguration.ofJson_of_spells warning expire
  · exact Configuration.ofJson_of_spells warning expire

/-- The extremes of the numbers, and a text with a quote, a backslash, controls and a character
outside the basic plane, are read back. -/
theorem extremes_read_back :
    let odd := String.ofList ['"', '\\', '\n', '\x00', Char.ofNat 0x1F600]
    let s : Subscription := ⟨Word.least, odd, none, odd, "", "k", Word.greatest, true⟩
    let target : PushTarget := ⟨odd, "", "k", some odd⟩
    let c : Configuration := ⟨odd, ⟨0, Word.greatestUnsigned⟩⟩
    Subscription.ofJson s.toJson.render = .ok s ∧
      PushTarget.ofJson target.toJson.render = .ok target ∧
      SweepConfiguration.ofJson c.sweep.toJson.render = .ok c.sweep ∧
      Configuration.ofJson c.toJson.render = .ok c := by
  intro odd s target c
  obtain ⟨subscriptions, targets, sweeps, configurations⟩ := decoding_undoes_encoding
  have id : Word.Holds s.id := by decide
  have updatedAt : Word.Holds s.updatedAt := by decide
  have warning : c.sweep.warningAfter ≤ Word.greatestUnsigned := Nat.zero_le _
  have expire : c.sweep.expireAfter ≤ Word.greatestUnsigned := Nat.le_refl _
  obtain ⟨spelled, read⟩ := subscriptions s id updatedAt
  obtain ⟨spelledTarget, readTarget⟩ := targets target
  obtain ⟨spelledSweep, readSweep⟩ := sweeps c.sweep warning expire
  obtain ⟨spelledConfiguration, readConfiguration⟩ := configurations c warning expire
  exact ⟨read _ spelled, readTarget _ spelledTarget, readSweep _ spelledSweep,
    readConfiguration _ spelledConfiguration⟩

/-- The members in another order, one of them in escapes, among others, and without the owner. -/
example : PushTarget.ofJson ("\x7b \"other\" : [null, 1e9],\"key_p256dh\":\"\\ud83d\\ude00\", " ++
    "\"key_auth\":\"\",\n\"end\\u0070oint\":\"e\"\x7d") =
      .ok ⟨"e", "", String.singleton (Char.ofNat 0x1F600), none⟩ := by
  decide +kernel

end PushLedger
