import PushLedger.Configuration.Document
import PushLedger.Proofs.Fields

/-!
# What a configuration text states

A configuration is read from the text of an object, and no mistake in it is made good by a default.
What the members of the object state is said here by their names alone: which names there may be,
that none is repeated, which value a name asks for, and that a default stands only for a name that
is absent. Texts that state a configuration in this way are accepted, with this configuration, and
no others are.
-/

namespace PushLedger

open Json

/-- What entries state under a name: the one of a value that stands there, and the other if there is
none. -/
def Stated (entries : List (String × Value)) (name : String) (given : Value → Prop)
    (absent : Prop) : Prop :=
  (∀ value, (name, value) ∈ entries → given value) ∧ (name ∉ entries.map Prod.fst → absent)

/-- It is stated of the value that is looked up. -/
theorem stated_iff {names : List String} {entries : List (String × Value)}
    (once : ((entries.map Prod.fst).filter (· ∈ names)).Nodup) {name : String} (known : name ∈ names)
    (given : Value → Prop) (absent : Prop) :
    Stated entries name given absent ↔
      match entries.lookup name with
      | some value => given value
      | none => absent := by
  have listed := lookup_eq_some_iff_mem once known
  cases found : entries.lookup name with
  | none =>
    have fresh : name ∉ entries.map Prod.fst := by
      intro member
      obtain ⟨⟨_, value⟩, here, rfl⟩ := List.mem_map.mp member
      exact nomatch found.symm.trans ((listed value).mpr here)
    refine ⟨fun stated => stated.2 fresh, fun holds => ⟨fun value member => ?_, fun _ => holds⟩⟩
    exact absurd (List.mem_map_of_mem member) fresh
  | some value =>
    have member := (listed value).mp found
    constructor
    · exact fun stated => stated.1 value member
    · refine fun holds => ⟨fun other memberOther => ?_, fun fresh => ?_⟩
      · obtain rfl := Option.some.inj (found.symm.trans ((listed other).mpr memberOther))
        exact holds
      · exact absurd (List.mem_map_of_mem member) fresh

/-- The names of a strict record are admitted if all of them are known and none is repeated. -/
theorem admits_strict_iff {δ α : Type} {r : Record δ α} (strict : r.strict = true)
    (entries : List (String × Value)) :
    r.Admits entries ↔ (∀ entry ∈ entries, entry.1 ∈ r.names) ∧ (entries.map Prod.fst).Nodup := by
  have all (known : ∀ entry ∈ entries, entry.1 ∈ r.names) :
      (entries.map Prod.fst).filter (· ∈ r.names) = entries.map Prod.fst := by
    rw [List.filter_eq_self]
    intro name named
    obtain ⟨entry, listed, rfl⟩ := List.mem_map.mp named
    simpa using known entry listed
  constructor
  · rintro ⟨once, unknown⟩
    have known : ∀ entry ∈ entries, entry.1 ∈ r.names := by
      intro entry listed
      by_contra other
      exact nomatch strict.symm.trans (unknown entry listed other).1
    exact ⟨known, all known ▸ once⟩
  · rintro ⟨known, once⟩
    exact ⟨(all known).symm ▸ once, fun entry listed other => absurd (known entry listed) other⟩

/-! ## Sweeps -/

namespace SweepConfiguration

/-- The record of a sweep is orderly. -/
theorem record_orderly : record.Orderly where
  named := by decide
  apart := by
    refine .cons ?_ (List.pairwise_singleton _ _)
    rintro _ (_ | ⟨_, ⟨⟩⟩)
    exact RecordField.apart_of_puts (fun _ _ => rfl) (fun _ _ => rfl) (fun _ _ _ => rfl)
      (fun _ _ => rfl) (fun _ _ => rfl)
  settles := by
    refine List.forall_mem_cons.mpr ⟨?_, List.forall_mem_singleton.mpr ?_⟩ <;>
      exact RecordField.settles_of_put (fun _ _ => rfl) (fun _ _ => rfl) Value.sound_of_readUnsigned
  blank := by decide

/-- The names that the members of a sweep have. -/
def memberNames : List String := ["warning_after_secs", "expire_after_secs"]

/-- The entries state the ages of the sweep, each by a whole number under its name or by its
absence. -/
structure ListedBy (c : SweepConfiguration) (entries : List (String × Value)) : Prop where
  known : ∀ entry ∈ entries, entry.1 ∈ memberNames
  once : (entries.map Prod.fst).Nodup
  warning : Stated entries "warning_after_secs" (·.SaysUnsigned c.warningAfter)
    (c.warningAfter = default.warningAfter)
  expire : Stated entries "expire_after_secs" (·.SaysUnsigned c.expireAfter)
    (c.expireAfter = default.expireAfter)

/-- The value states the sweep: an object by its members, and an array by its items, as if they stood
under the names in their order. -/
def StatedBy (c : SweepConfiguration) (value : Value) : Prop :=
  (∃ members entries, value = .object members ∧ members.Lists entries ∧ c.ListedBy entries) ∨
    ∃ values, value = .ofList values ∧ values.length ≤ 2 ∧ c.ListedBy (memberNames.zip values)

/-- The ages can be taken from entries exactly if the entries state them. -/
theorem collect_ok_iff {entries : List (String × Value)}
    (once : ((entries.map Prod.fst).filter (· ∈ memberNames)).Nodup) (c : SweepConfiguration) :
    (∃ filled, record.collect entries = .ok filled ∧ record.complete filled = .ok c) ↔
      Stated entries "warning_after_secs" (·.SaysUnsigned c.warningAfter)
          (c.warningAfter = default.warningAfter) ∧
        Stated entries "expire_after_secs" (·.SaysUnsigned c.expireAfter)
          (c.expireAfter = default.expireAfter) := by
  rw [stated_iff once (by decide), stated_iff once (by decide)]
  obtain ⟨warningAfter, expireAfter⟩ := c
  simp only [Record.collect, record, fields, List.foldlM_cons, List.foldlM_nil, RecordField.takeAt,
    Draft.complete]
  cases entries.lookup "warning_after_secs" <;> cases entries.lookup "expire_after_secs" <;>
    simp only [ok_bind, pure_eq_ok, bind_eq_ok_iff, Value.readUnsigned_ok_iff, Except.ok.injEq,
      mk.injEq]
  -- The defaults are named by their lemma, so that nobody has to compute them.
  case none.none =>
    constructor
    · rintro ⟨_, rfl, rfl, rfl⟩
      exact ⟨Option.getD_none, Option.getD_none⟩
    · rintro ⟨rfl, rfl⟩
      exact ⟨_, rfl, Option.getD_none, Option.getD_none⟩
  case none.some expire =>
    constructor
    · rintro ⟨_, ⟨_, ⟨_, age, rfl⟩, rfl⟩, rfl, rfl⟩
      exact ⟨Option.getD_none, age⟩
    · rintro ⟨rfl, age⟩
      exact ⟨_, ⟨_, ⟨_, age, rfl⟩, rfl⟩, Option.getD_none, rfl⟩
  case some.none warning =>
    constructor
    · rintro ⟨_, ⟨_, ⟨_, age, rfl⟩, rfl⟩, rfl, rfl⟩
      exact ⟨age, Option.getD_none⟩
    · rintro ⟨age, rfl⟩
      exact ⟨_, ⟨_, ⟨_, age, rfl⟩, rfl⟩, rfl, Option.getD_none⟩
  case some.some warning expire =>
    constructor
    · rintro ⟨_, ⟨_, ⟨_, ageWarning, rfl⟩, _, ⟨_, ageExpire, rfl⟩, rfl⟩, rfl, rfl⟩
      exact ⟨ageWarning, ageExpire⟩
    · rintro ⟨ageWarning, ageExpire⟩
      exact ⟨_, ⟨_, ⟨_, ageWarning, rfl⟩, _, ⟨_, ageExpire, rfl⟩, rfl⟩, rfl, rfl⟩

/-- The entries state a sweep exactly if their names are admitted and the ages can be taken from
them. -/
theorem listedBy_iff (c : SweepConfiguration) (entries : List (String × Value)) :
    c.ListedBy entries ↔ record.Admits entries ∧
      ∃ filled, record.collect entries = .ok filled ∧ record.complete filled = .ok c := by
  rw [admits_strict_iff rfl]
  constructor
  · rintro ⟨known, once, warning, expire⟩
    exact ⟨⟨known, once⟩, (collect_ok_iff (once.filter _) c).mpr ⟨warning, expire⟩⟩
  · rintro ⟨⟨known, once⟩, taken⟩
    obtain ⟨warning, expire⟩ := (collect_ok_iff (once.filter _) c).mp taken
    exact ⟨known, once, warning, expire⟩

/-- At most two items are taken, and they are taken as if they stood under the names. -/
theorem takeItems_ok_iff (values : List Value) (filled : Draft) :
    record.takeItems fields 0 (values.foldr .more .done) record.blank = .ok filled ↔
      values.length ≤ 2 ∧ record.collect (memberNames.zip values) = .ok filled := by
  have other : "expire_after_secs" ≠ "warning_after_secs" := by decide
  match values with
  | [] => simp [Record.takeItems, Record.collect, RecordField.takeAt, record, fields]
  | [first] | [first, second] =>
    simp [Record.takeItems, Record.collect, RecordField.takeAt, record, fields, memberNames,
      lookup_cons_of_ne other]
  | first :: second :: third :: rest =>
    simp [Record.takeItems, record, fields, bind_eq_ok_iff]

/-- The names that items stand for are admitted. -/
theorem admits_zip (values : List Value) : record.Admits (memberNames.zip values) := by
  refine (admits_strict_iff rfl _).mpr ⟨fun _ listed => (List.of_mem_zip listed).1, ?_⟩
  match values with
  | [] | [_] | _ :: _ :: _ => simp [memberNames]

/-- A sweep is read from the items of an array exactly if there are at most two of them and they state
the sweep. -/
theorem read_array_ok_iff (values : List Value) (c : SweepConfiguration) :
    record.read (.ofList values) = .ok c ↔
      values.length ≤ 2 ∧ c.ListedBy (memberNames.zip values) := by
  simp only [listedBy_iff, admits_zip, true_and]
  rw [Value.ofList, Record.read, bind_eq_ok_iff]
  constructor
  · rintro ⟨filled, taken, complete⟩
    obtain ⟨short, collected⟩ := (takeItems_ok_iff values filled).mp taken
    exact ⟨short, filled, collected, complete⟩
  · rintro ⟨short, filled, collected, complete⟩
    exact ⟨filled, (takeItems_ok_iff values filled).mpr ⟨short, collected⟩, complete⟩

/-- A sweep is read from a value that was written exactly if the value states the sweep. -/
theorem read_ok_iff {value : Value} {text : List Char} (written : value.Written text)
    (c : SweepConfiguration) : record.read value = .ok c ↔ c.StatedBy value := by
  cases written with
  | object members _ written =>
    rw [Record.read_object_ok_iff record_orderly written]
    simp only [← listedBy_iff]
    constructor
    · rintro ⟨entries, lists, listed⟩
      exact .inl ⟨members, entries, rfl, lists, listed⟩
    · rintro (⟨_, entries, same, lists, listed⟩ | ⟨_, ⟨⟩, _⟩)
      obtain rfl := Value.object.inj same
      exact ⟨entries, lists, listed⟩
  | array items _ written =>
    rw [items.array_eq_ofList written]
    refine (read_array_ok_iff items.toList c).trans ⟨?_, ?_⟩
    · rintro ⟨short, listed⟩
      exact .inr ⟨_, rfl, short, listed⟩
    · rintro (⟨_, _, ⟨⟩, _⟩ | ⟨others, same, short, listed⟩)
      obtain rfl := ofList_inj same
      exact ⟨short, listed⟩
  | _ =>
    simp only [Record.read, mismatch_ne_ok, false_iff]
    rintro (⟨_, _, ⟨⟩, _⟩ | ⟨_, ⟨⟩, _⟩)

/-- A mistake in the value of a sweep: it is neither an object nor an array, a name is unknown or
repeated, there are too many items, or a member or an item is no whole number within the unsigned
words. -/
inductive Mistaken : Value → Prop
  | kind (value : Value) (noObject : ∀ members, value ≠ .object members)
      (noArray : ∀ items, value ≠ .array items) : Mistaken value
  | name {members : Members} {entries : List (String × Value)} (lists : members.Lists entries)
      (entry : String × Value) (listed : entry ∈ entries) (unknown : entry.1 ∉ memberNames) :
      Mistaken (.object members)
  | repetition {members : Members} {entries : List (String × Value)} (lists : members.Lists entries)
      (again : ¬ (entries.map Prod.fst).Nodup) : Mistaken (.object members)
  | member {members : Members} {entries : List (String × Value)} (lists : members.Lists entries)
      (entry : String × Value) (listed : entry ∈ entries) (noAge : ∀ n, ¬ entry.2.SaysUnsigned n) :
      Mistaken (.object members)
  | length (values : List Value) (long : 2 < values.length) : Mistaken (.ofList values)
  | item (values : List Value) (value : Value) (listed : value ∈ values)
      (noAge : ∀ n, ¬ value.SaysUnsigned n) : Mistaken (.ofList values)

/-- Every value among entries that state a sweep is an age. -/
theorem ListedBy.exists_age {c : SweepConfiguration} {entries : List (String × Value)}
    (listedBy : c.ListedBy entries) {entry : String × Value} (listed : entry ∈ entries) :
    ∃ n, entry.2.SaysUnsigned n := by
  obtain ⟨name, value⟩ := entry
  have known := listedBy.known _ listed
  simp only [memberNames, List.mem_cons, List.not_mem_nil, or_false] at known
  obtain rfl | rfl := known
  · exact ⟨_, listedBy.warning.1 value listed⟩
  · exact ⟨_, listedBy.expire.1 value listed⟩

/-- No sweep is stated by a value with a mistake in it. -/
theorem not_statedBy_of_mistaken {value : Value} (mistaken : Mistaken value)
    (c : SweepConfiguration) : ¬ c.StatedBy value := by
  have object {members : Members} {entries : List (String × Value)} (lists : members.Lists entries)
      (stated : c.StatedBy (.object members)) : c.ListedBy entries := by
    obtain ⟨_, others, same, listsOthers, listed⟩ | ⟨_, ⟨⟩, _⟩ := stated
    obtain rfl := Value.object.inj same
    exact lists.unique listsOthers ▸ listed
  have array {values : List Value} (stated : c.StatedBy (.ofList values)) :
      values.length ≤ 2 ∧ c.ListedBy (memberNames.zip values) := by
    obtain ⟨_, _, ⟨⟩, _⟩ | ⟨others, same, stated⟩ := stated
    exact ofList_inj same ▸ stated
  intro stated
  cases mistaken with
  | kind _ noObject noArray =>
    obtain ⟨members, _, rfl, _⟩ | ⟨values, rfl, _⟩ := stated
    · exact noObject members rfl
    · exact noArray _ rfl
  | name lists entry listed unknown => exact unknown ((object lists stated).known entry listed)
  | repetition lists again => exact again (object lists stated).once
  | member lists entry listed noAge =>
    obtain ⟨n, age⟩ := (object lists stated).exists_age listed
    exact noAge n age
  | length values long => exact Nat.not_lt.mpr (array stated).1 long
  | item values value listed noAge =>
    obtain ⟨short, listedBy⟩ := array stated
    have named : (memberNames.zip values).map Prod.snd = values := List.map_snd_zip short
    rw [← named] at listed
    obtain ⟨entry, here, rfl⟩ := List.mem_map.mp listed
    obtain ⟨n, age⟩ := listedBy.exists_age here
    exact noAge n age

end SweepConfiguration

/-! ## Configurations -/

namespace Configuration

/-- The record of a configuration is orderly. -/
theorem record_orderly : record.Orderly where
  named := by decide
  apart := by
    refine .cons ?_ (List.pairwise_singleton _ _)
    rintro _ (_ | ⟨_, ⟨⟩⟩)
    exact RecordField.apart_of_puts (fun _ _ => rfl) (fun _ _ => rfl) (fun _ _ _ => rfl)
      (fun _ _ => rfl) (fun _ _ => rfl)
  settles := by
    refine List.forall_mem_cons.mpr ⟨?_, List.forall_mem_singleton.mpr ?_⟩
    · exact RecordField.settles_of_put (fun _ _ => rfl) (fun _ _ => rfl) Value.sound_of_readString
    · exact RecordField.settles_of_put (fun _ _ => rfl) (fun _ _ => rfl)
        (Record.sound_of_read SweepConfiguration.record_orderly)
  blank := by decide

/-- The names that the members of a configuration have. -/
def memberNames : List String := ["db_path", "sweep"]

/-- The entries state the configuration: a text for the path, which may not be absent, and a sweep or
nothing. -/
structure ListedBy (c : Configuration) (entries : List (String × Value)) : Prop where
  known : ∀ entry ∈ entries, entry.1 ∈ memberNames
  once : (entries.map Prod.fst).Nodup
  path : Stated entries "db_path" (·.SaysText c.path) False
  sweep : Stated entries "sweep" c.sweep.StatedBy (c.sweep = .default)

/-- The path and the sweep can be taken from entries that were written exactly if the entries state
them. -/
theorem collect_ok_iff {entries : List (String × Value)}
    (written : ∀ entry ∈ entries, ∃ text, entry.2.Written text)
    (once : ((entries.map Prod.fst).filter (· ∈ memberNames)).Nodup) (c : Configuration) :
    (∃ filled, record.collect entries = .ok filled ∧ record.complete filled = .ok c) ↔
      Stated entries "db_path" (·.SaysText c.path) False ∧
        Stated entries "sweep" c.sweep.StatedBy (c.sweep = .default) := by
  have readPath {value : Value} (found : entries.lookup "db_path" = some value) (s : String) :
      value.readString .path = .ok s ↔ value.SaysText s := by
    obtain ⟨_, written⟩ := written _ ((lookup_eq_some_iff_mem once (by decide) value).mp found)
    exact Value.readString_ok_iff written .path s
  have readSweep {value : Value} (found : entries.lookup "sweep" = some value)
      (c : SweepConfiguration) : SweepConfiguration.record.read value = .ok c ↔ c.StatedBy value := by
    obtain ⟨_, written⟩ := written _ ((lookup_eq_some_iff_mem once (by decide) value).mp found)
    exact SweepConfiguration.read_ok_iff written c
  rw [stated_iff once (by decide), stated_iff once (by decide)]
  obtain ⟨path, sweep⟩ := c
  simp only [Record.collect, record, fields, List.foldlM_cons, List.foldlM_nil, RecordField.takeAt]
  cases foundPath : entries.lookup "db_path" with
  | none => cases foundSweep : entries.lookup "sweep" <;>
      simp [bind_eq_ok_iff, Draft.complete, orMissing, refuse]
  | some path =>
    cases foundSweep : entries.lookup "sweep" with
    | none =>
      simp [bind_eq_ok_iff, Draft.complete, orMissing, readPath foundPath, eq_comm (a := sweep)]
    | some sweep =>
      simp [bind_eq_ok_iff, Draft.complete, orMissing, readPath foundPath, readSweep foundSweep,
        and_comm]

/-- A configuration is read from members that were written exactly if they state the configuration. -/
theorem read_object_ok_iff {members : Members} {isFirst : Bool} {text : List Char}
    (written : members.Written isFirst text) (c : Configuration) :
    record.read (.object members) = .ok c ↔
      ∃ entries, members.Lists entries ∧ c.ListedBy entries := by
  rw [Record.read_object_ok_iff record_orderly written]
  refine exists_congr fun entries => and_congr_right fun lists => ?_
  have writtenEntries : ∀ entry ∈ entries, ∃ text, entry.2.Written text :=
    fun _ listed => lists.written written listed
  rw [admits_strict_iff rfl]
  constructor
  · rintro ⟨⟨known, once⟩, taken⟩
    obtain ⟨path, sweep⟩ := (collect_ok_iff writtenEntries (once.filter _) c).mp taken
    exact ⟨known, once, path, sweep⟩
  · rintro ⟨known, once, path, sweep⟩
    exact ⟨⟨known, once⟩, (collect_ok_iff writtenEntries (once.filter _) c).mpr ⟨path, sweep⟩⟩

/-- A mistake in the members of a configuration: a name is unknown or repeated, the path is missing
or no text, or there is a mistake in the sweep. -/
inductive Mistaken (entries : List (String × Value)) : Prop
  | name (entry : String × Value) (listed : entry ∈ entries) (unknown : entry.1 ∉ memberNames)
  | repetition (again : ¬ (entries.map Prod.fst).Nodup)
  | missing (absent : "db_path" ∉ entries.map Prod.fst)
  | path (value : Value) (listed : ("db_path", value) ∈ entries) (noText : ∀ s, ¬ value.SaysText s)
  | sweep (value : Value) (listed : ("sweep", value) ∈ entries)
      (mistaken : SweepConfiguration.Mistaken value)

/-- No configuration is stated by entries with a mistake in them. -/
theorem not_listedBy_of_mistaken {entries : List (String × Value)} (mistaken : Mistaken entries)
    (c : Configuration) : ¬ c.ListedBy entries := by
  rintro ⟨known, once, path, sweep⟩
  cases mistaken with
  | name entry listed unknown => exact unknown (known entry listed)
  | repetition again => exact again once
  | missing absent => exact path.2 absent
  | path value listed noText => exact noText c.path (path.1 value listed)
  | sweep value listed mistaken =>
    exact SweepConfiguration.not_statedBy_of_mistaken mistaken c.sweep (sweep.1 value listed)

/-- The text of an object is accepted exactly if it is a document whose members state a configuration,
which is the one that is read, whatever the order of the members. A document with a mistake at either
level is refused. -/
theorem object_text_accepted_as_stated (text : String) (object : BeginsObject text) :
    (∀ c, ofJson text = .ok c ↔ ∃ members entries, IsDocument (.object members) text ∧
      members.Lists entries ∧ c.ListedBy entries) ∧
    ∀ members entries, IsDocument (.object members) text → members.Lists entries →
      Mistaken entries → ∃ fault, ofJson text = .error fault := by
  have accepted (c : Configuration) : ofJson text = .ok c ↔ ∃ members entries,
      IsDocument (.object members) text ∧ members.Lists entries ∧ c.ListedBy entries := by
    rw [ofJson, decode_ok_iff (Record.sound_of_read record_orderly)]
    constructor
    · rintro ⟨value, document, read⟩
      obtain ⟨members, rfl⟩ := document.exists_members object
      obtain ⟨_, _, _, _, _, _, written⟩ := id document
      cases written with
      | object _ _ written =>
        obtain ⟨entries, lists, listed⟩ := (read_object_ok_iff written c).mp read
        exact ⟨members, entries, document, lists, listed⟩
    · rintro ⟨members, entries, document, lists, listed⟩
      obtain ⟨_, _, _, _, _, _, written⟩ := id document
      cases written with
      | object _ _ written =>
        exact ⟨_, document, (read_object_ok_iff written c).mpr ⟨entries, lists, listed⟩⟩
  refine ⟨accepted, fun members entries document lists mistaken => ?_⟩
  cases read : ofJson text with
  | error fault => exact ⟨fault, rfl⟩
  | ok c =>
    obtain ⟨others, listedOthers, documentOthers, listsOthers, listed⟩ := (accepted c).mp read
    obtain rfl := Value.object.inj (document.unique documentOthers)
    obtain rfl := lists.unique listsOthers
    exact absurd listed (not_listedBy_of_mistaken mistaken c)

/-- The members of this text stand in the other order, a letter of a name is escaped, one age is the
greatest that there is, and the other is absent. -/
theorem swapped_members_accepted :
    ∃ text, BeginsObject text ∧ ∃ members entries, IsDocument (.object members) text ∧
      members.Lists entries ∧ ListedBy ⟨"a\"b", ⟨4752000, 18446744073709551615⟩⟩ entries := by
  let text := " \x7b\"sw\\u0065ep\": \x7b\"expire_after_secs\":18446744073709551615\x7d," ++
    "\"db_path\":\"a\\\"b\"\x7d"
  have object : BeginsObject text :=
    ⟨[' '], text.toList.drop 2, by decide +kernel, by simp [Blanks, isBlank]⟩
  have read : ofJson text = .ok ⟨"a\"b", ⟨4752000, 18446744073709551615⟩⟩ := by decide +kernel
  exact ⟨text, object, ((object_text_accepted_as_stated text object).1 _).mp read⟩

end Configuration

end PushLedger
