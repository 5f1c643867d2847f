import Mathlib.Data.List.Nodup
import Mathlib.Data.List.Pairwise
import PushLedger.Json.Access
import PushLedger.Proofs.Readings

/-!
# Records are read from members in any order

A record takes the members of an object one by one, and what it makes of one depends on what it took
before: a field that is given already is refused. In the end the order is of no account. A record is
read exactly if every known name occurs once at most and every field can take the value of its name,
and then the draft is the one that takes the fields in their own order.

This needs little of the record: its fields have different names, taking one spares the others, and
two of them may be taken in either order.
-/

namespace PushLedger.Json

/-! ## Items and members as lists -/

/-- An array that was written is the one of the list of its items. -/
theorem Items.array_eq_ofList (items : Items) {isFirst : Bool} {text : List Char}
    (written : items.Written isFirst text) : Value.array items = .ofList items.toList := by
  cases written with
  | done _ _ _ => rfl
  | more _ _ _ _ value rest _ _ others =>
    exact congrArg (fun items => Value.array (.more value items))
      (Value.array.inj (rest.array_eq_ofList others))

/-- The items of a list are the items of no other one. -/
theorem ofList_inj {values others : List Value} (same : Value.ofList values = .ofList others) :
    values = others := by
  have toList (values : List Value) : (values.foldr Items.more .done).toList = values := by
    induction values with
    | nil => rfl
    | cons value rest inductionHypothesis => exact congrArg (value :: ·) inductionHypothesis
  rw [← toList values, Value.array.inj same, toList others]

/-- The members of an object are the entries: what a member is called is the name of its entry. -/
inductive Members.Lists : Members → List (String × Value) → Prop
  | done : Lists .done []
  | more {pieces : List Piece} {rest : Members} {entries : List (String × Value)} (name : String)
      (value : Value) (named : Piece.Says pieces name.toList) (others : Lists rest entries) :
      Lists (.more pieces value rest) ((name, value) :: entries)

/-- Members are the entries of one list only. -/
theorem Members.Lists.unique {members : Members} {entries others : List (String × Value)}
    (lists : members.Lists entries) (listsOthers : members.Lists others) : entries = others := by
  induction lists generalizing others with
  | done =>
    cases listsOthers
    rfl
  | more name value named _ inductionHypothesis =>
    obtain _ | ⟨other, _, namedOther, rest⟩ := listsOthers
    obtain rfl := Option.some.inj (named.text?.symm.trans namedOther.text?)
    rw [inductionHypothesis rest]

/-- The values of the entries were written where the members were. -/
theorem Members.Lists.written {members : Members} {entries : List (String × Value)}
    (lists : members.Lists entries) {isFirst : Bool} {text : List Char}
    (written : members.Written isFirst text) {entry : String × Value} (listed : entry ∈ entries) :
    ∃ inner, entry.2.Written inner := by
  induction lists generalizing isFirst text with
  | done => exact nomatch listed
  | more name value named _ inductionHypothesis =>
    obtain _ | ⟨_, _, _, _, _, inner, _, _, _, _, _, _, _, _, writtenValue, others⟩ := written
    obtain rfl | later := List.mem_cons.mp listed
    · exact ⟨inner, writtenValue⟩
    · exact inductionHypothesis others later

/-- What is looked up under another name does not change with an entry. -/
theorem lookup_cons_of_ne {name key : String} (other : name ≠ key) (value : Value)
    (rest : List (String × Value)) : ((key, value) :: rest).lookup name = rest.lookup name := by
  rw [List.lookup_cons, beq_eq_false_iff_ne.mpr other]

/-- Nothing is looked up under a name that no entry has. -/
theorem lookup_of_not_mem {name : String} {entries : List (String × Value)}
    (fresh : name ∉ entries.map Prod.fst) : entries.lookup name = none := by
  rw [List.lookup_eq_none_iff]
  intro entry listed
  exact bne_iff_ne.mpr fun same => fresh (same ▸ List.mem_map_of_mem listed)

/-- Under a known name, which occurs once at most, the value that stands there is looked up. -/
theorem lookup_eq_some_iff_mem {names : List String} {entries : List (String × Value)}
    (once : ((entries.map Prod.fst).filter (· ∈ names)).Nodup) {name : String} (known : name ∈ names)
    (value : Value) : entries.lookup name = some value ↔ (name, value) ∈ entries := by
  constructor
  · intro found
    obtain ⟨_, _, rfl, _⟩ := List.lookup_eq_some_iff.mp found
    simp
  · intro listed
    induction entries with
    | nil => exact nomatch listed
    | cons entry rest inductionHypothesis =>
      obtain ⟨key, other⟩ := entry
      obtain same | later := List.mem_cons.mp listed
      · obtain ⟨rfl, rfl⟩ := Prod.mk.inj same
        exact List.lookup_cons_self
      · have named : name ∈ rest.map Prod.fst := List.mem_map.mpr ⟨_, later, rfl⟩
        have different : name ≠ key := by
          rintro rfl
          rw [List.map_cons, List.filter_cons_of_pos (by simpa using known), List.nodup_cons] at once
          exact once.1 (List.mem_filter.mpr ⟨named, by simpa using known⟩)
        rw [lookup_cons_of_ne different]
        refine inductionHypothesis (once.sublist ?_) later
        exact (List.sublist_cons_self _ _).filter _

namespace RecordField

variable {δ : Type}

/-- Two fields do not get in each other's way. -/
structure Apart (f g : RecordField δ) : Prop where
  /-- They may be taken in either order. -/
  swaps : ∀ v w draft filled,
    (f.take v draft >>= g.take w) = .ok filled ↔ (g.take w draft >>= f.take v) = .ok filled
  /-- Taking the first does not give the second. -/
  spares : ∀ v draft filled, f.take v draft = .ok filled → g.given filled = g.given draft
  /-- Taking the second does not give the first. -/
  spared : ∀ v draft filled, g.take v draft = .ok filled → f.given filled = f.given draft

/-- So it is the other way round. -/
theorem Apart.symm {f g : RecordField δ} (apart : f.Apart g) : g.Apart f where
  swaps v w draft filled := (apart.swaps w v draft filled).symm
  spares := apart.spared
  spared := apart.spares

instance : Std.Symm (@Apart δ) := ⟨fun _ _ => Apart.symm⟩

/-- Fields that read their values without a look at the draft, and put them into places of their own,
are apart. -/
theorem apart_of_puts {f g : RecordField δ} {β γ : Type} {readFirst : Value → Read β}
    {readSecond : Value → Read γ} {putFirst : β → δ → δ} {putSecond : γ → δ → δ}
    (takeFirst : ∀ v draft, f.take v draft = do return putFirst (← readFirst v) draft)
    (takeSecond : ∀ v draft, g.take v draft = do return putSecond (← readSecond v) draft)
    (commute : ∀ b c draft, putSecond c (putFirst b draft) = putFirst b (putSecond c draft))
    (spares : ∀ b draft, g.given (putFirst b draft) = g.given draft)
    (spared : ∀ c draft, f.given (putSecond c draft) = f.given draft) : f.Apart g where
  swaps v w draft filled := by
    simp only [takeFirst, takeSecond, bind_eq_ok_iff, pure_eq_ok, Except.ok.injEq]
    constructor
    · rintro ⟨_, ⟨b, readB, rfl⟩, c, readC, rfl⟩
      exact ⟨_, ⟨c, readC, rfl⟩, b, readB, (commute b c draft).symm⟩
    · rintro ⟨_, ⟨c, readC, rfl⟩, b, readB, rfl⟩
      exact ⟨_, ⟨b, readB, rfl⟩, c, readC, commute b c draft⟩
  spares v draft filled taken := by
    simp only [takeFirst, bind_eq_ok_iff, pure_eq_ok, Except.ok.injEq] at taken
    obtain ⟨b, _, rfl⟩ := taken
    exact spares b draft
  spared v draft filled taken := by
    simp only [takeSecond, bind_eq_ok_iff, pure_eq_ok, Except.ok.injEq] at taken
    obtain ⟨c, _, rfl⟩ := taken
    exact spared c draft

/-- What the field takes was there, and is given from then on. -/
structure Settles (f : RecordField δ) : Prop where
  marks : ∀ v draft filled, f.take v draft = .ok filled → f.given filled = true
  sound : ∀ v draft filled, f.take v draft = .ok filled → v.sound = true

/-- A field settles if it puts what it reads into its own place. -/
theorem settles_of_put {f : RecordField δ} {β : Type} {reader : Value → Read β} {put : β → δ → δ}
    (take : ∀ v draft, f.take v draft = do return put (← reader v) draft)
    (marks : ∀ b draft, f.given (put b draft) = true)
    (sound : ∀ v b, reader v = .ok b → v.sound = true) : f.Settles where
  marks v draft filled taken := by
    simp only [take, bind_eq_ok_iff, pure_eq_ok, Except.ok.injEq] at taken
    obtain ⟨b, _, rfl⟩ := taken
    exact marks b draft
  sound v draft filled taken := by
    simp only [take, bind_eq_ok_iff] at taken
    obtain ⟨b, read, _⟩ := taken
    exact sound v b read

/-- Takes the value that is looked up for the name of the field, if there is one. -/
def takeAt (lookup : String → Option Value) (draft : δ) (field : RecordField δ) : Read δ :=
  match lookup field.name with
  | some value => field.take value draft
  | none => .ok draft

/-- A field may be taken before another one that is looked up. -/
theorem Apart.takeAt_swaps {f g : RecordField δ} (apart : f.Apart g)
    (lookup : String → Option Value) (v : Value) (draft filled : δ) :
    (takeAt lookup draft g >>= f.take v) = .ok filled ↔
      (f.take v draft >>= fun next => takeAt lookup next g) = .ok filled := by
  unfold takeAt
  cases lookup g.name with
  | none =>
    rw [ok_bind]
    exact (bind_pure (f.take v draft)).symm ▸ Iff.rfl
  | some w => exact (apart.swaps v w draft filled).symm

end RecordField

namespace Record

variable {δ α : Type}

/-- The names of the fields. -/
def names (r : Record δ α) : List String := r.fields.map RecordField.name

/-- The fields of a record are told apart by their names and do not get in each other's way. -/
structure Orderly (r : Record δ α) : Prop where
  named : r.names.Nodup
  apart : r.fields.Pairwise RecordField.Apart
  settles : ∀ field ∈ r.fields, field.Settles
  /-- Nothing is given at the beginning. -/
  blank : ∀ field ∈ r.fields, field.given r.blank = false

/-- Takes one member into a draft. -/
def takeEntry (r : Record δ α) (draft : δ) (entry : String × Value) : Read δ :=
  match r.fields.find? fun field => field.name == entry.1 with
  | some field =>
      if field.given draft then refuse (.duplicateField entry.1) else field.take entry.2 draft
  | none =>
      if r.strict then refuse (.unknownField entry.1 r.names)
      else if entry.2.sound then .ok draft
      else .error .malformed

/-- A member is taken as an entry, and then the members after it. -/
theorem takeMembers_more (r : Record δ α) {pieces : List Piece} {name : String}
    (named : Piece.text? pieces = some name) (value : Value) (rest : Members) (draft : δ) :
    r.takeMembers (.more pieces value rest) draft =
      r.takeEntry draft (name, value) >>= r.takeMembers rest := by
  rw [takeMembers, named]
  dsimp only [takeEntry]
  cases r.fields.find? fun field => field.name == name with
  | none =>
    dsimp only
    cases r.strict with
    | true => rfl
    | false => cases value.sound <;> rfl
  | some field =>
    dsimp only
    cases field.given draft <;> rfl

/-- The members are taken as the entries that they are. -/
theorem takeMembers_eq (r : Record δ α) {members : Members} {entries : List (String × Value)}
    (lists : members.Lists entries) (draft : δ) :
    r.takeMembers members draft = entries.foldlM r.takeEntry draft := by
  induction lists generalizing draft with
  | done => rfl
  | more name value named _ inductionHypothesis =>
    rw [r.takeMembers_more named.text?, List.foldlM_cons]
    exact bind_congr inductionHypothesis

/-- Members that were written and could be taken are entries. -/
theorem exists_lists (r : Record δ α) : (members : Members) → {draft filled : δ} →
    r.takeMembers members draft = .ok filled → {isFirst : Bool} → {text : List Char} →
    members.Written isFirst text → ∃ entries, members.Lists entries
  | .done, _, _, _, _, _, _ => ⟨[], .done⟩
  | .more pieces value rest, draft, filled, taken, _, _,
      .more _ _ _ _ _ _ _ _ _ _ _ pieceTexts _ _ _ others => by
    cases named : Piece.text? pieces with
    | none =>
      rw [takeMembers, named] at taken
      exact nomatch taken
    | some name =>
      rw [r.takeMembers_more named, bind_eq_ok_iff] at taken
      obtain ⟨_, _, takenRest⟩ := taken
      obtain ⟨entries, lists⟩ := r.exists_lists rest takenRest others
      exact ⟨(name, value) :: entries, .more name value (pieceTexts.said named) lists⟩

/-! ## The order of members is of no account -/

/-- Fields are taken alike if the same is looked up for their names. -/
theorem foldlM_takeAt_congr {fields : List (RecordField δ)} {lookup other : String → Option Value}
    (same : ∀ field ∈ fields, lookup field.name = other field.name) (draft : δ) :
    fields.foldlM (RecordField.takeAt lookup) draft =
      fields.foldlM (RecordField.takeAt other) draft := by
  induction fields generalizing draft with
  | nil => rfl
  | cons field rest inductionHypothesis =>
    obtain ⟨first, others⟩ := List.forall_mem_cons.mp same
    simp only [List.foldlM_cons, RecordField.takeAt, first]
    exact bind_congr (inductionHypothesis others)

/-- With a value for one more name, its field may be taken first, and then the others. -/
theorem foldlM_takeAt_cons {fields : List (RecordField δ)}
    (named : (fields.map RecordField.name).Nodup) (apart : fields.Pairwise RecordField.Apart)
    {field : RecordField δ} (listed : field ∈ fields) {lookup wider : String → Option Value}
    {value : Value} (free : lookup field.name = none) (here : wider field.name = some value)
    (elsewhere : ∀ name, name ≠ field.name → wider name = lookup name) (draft filled : δ) :
    fields.foldlM (RecordField.takeAt wider) draft = .ok filled ↔
      ∃ next, field.take value draft = .ok next ∧
        fields.foldlM (RecordField.takeAt lookup) next = .ok filled := by
  induction fields generalizing draft with
  | nil => exact nomatch listed
  | cons first rest inductionHypothesis =>
    rw [List.map_cons, List.nodup_cons] at named
    obtain ⟨fresh, namedRest⟩ := named
    obtain ⟨apartFirst, apartRest⟩ := List.pairwise_cons.mp apart
    simp only [List.foldlM_cons, bind_eq_ok_iff]
    obtain rfl | later := List.mem_cons.mp listed
    · have same : ∀ other ∈ rest, wider other.name = lookup other.name := by
        intro other member
        refine elsewhere _ fun equal => fresh ?_
        exact equal ▸ List.mem_map_of_mem member
      simp [RecordField.takeAt, here, free, foldlM_takeAt_congr same]
    · have other : first.name ≠ field.name :=
        fun equal => fresh (equal ▸ List.mem_map_of_mem later)
      have same : RecordField.takeAt wider draft first = RecordField.takeAt lookup draft first := by
        simp only [RecordField.takeAt, elsewhere _ other]
      have swaps := (apartFirst field later).symm.takeAt_swaps lookup value draft
      simp only [bind_eq_ok_iff] at swaps
      simp only [same, inductionHypothesis namedRest apartRest later]
      constructor
      · rintro ⟨_, takenFirst, behind, taken, takenRest⟩
        obtain ⟨next, taken, takenFirst⟩ := (swaps behind).mp ⟨_, takenFirst, taken⟩
        exact ⟨next, taken, behind, takenFirst, takenRest⟩
      · rintro ⟨_, taken, behind, takenFirst, takenRest⟩
        obtain ⟨next, takenFirst, taken⟩ := (swaps behind).mpr ⟨_, taken, takenFirst⟩
        exact ⟨next, takenFirst, behind, taken, takenRest⟩

/-- What a record asks of the names among its members: a known one occurs once at most, and an unknown
one stands before a value that is not broken, in a record that is not strict. -/
structure Admits (r : Record δ α) (entries : List (String × Value)) : Prop where
  once : ((entries.map Prod.fst).filter (· ∈ r.names)).Nodup
  unknown : ∀ entry ∈ entries, entry.1 ∉ r.names → r.strict = false ∧ entry.2.sound = true

/-- A member with a known name asks that no other one has it. -/
theorem admits_cons_known {r : Record δ α} {name : String} (known : name ∈ r.names) (value : Value)
    (rest : List (String × Value)) :
    r.Admits ((name, value) :: rest) ↔ name ∉ rest.map Prod.fst ∧ r.Admits rest := by
  constructor
  · rintro ⟨once, unknown⟩
    rw [List.map_cons, List.filter_cons_of_pos (by simpa using known), List.nodup_cons] at once
    refine ⟨fun again => once.1 ?_, once.2, (List.forall_mem_cons.mp unknown).2⟩
    exact List.mem_filter.mpr ⟨again, by simpa using known⟩
  · rintro ⟨fresh, once, unknown⟩
    refine ⟨?_, List.forall_mem_cons.mpr ⟨fun other => absurd known other, unknown⟩⟩
    rw [List.map_cons, List.filter_cons_of_pos (by simpa using known), List.nodup_cons]
    exact ⟨fun again => fresh (List.mem_filter.mp again).1, once⟩

/-- A member with an unknown name asks that the record is not strict. -/
theorem admits_cons_unknown {r : Record δ α} {name : String} (unknown : name ∉ r.names)
    (value : Value) (rest : List (String × Value)) :
    r.Admits ((name, value) :: rest) ↔
      (r.strict = false ∧ value.sound = true) ∧ r.Admits rest := by
  constructor
  · rintro ⟨once, others⟩
    rw [List.map_cons, List.filter_cons_of_neg (by simpa using unknown)] at once
    obtain ⟨first, others⟩ := List.forall_mem_cons.mp others
    exact ⟨first unknown, once, others⟩
  · rintro ⟨first, once, others⟩
    refine ⟨?_, List.forall_mem_cons.mpr ⟨fun _ => first, others⟩⟩
    rwa [List.map_cons, List.filter_cons_of_neg (by simpa using unknown)]

/-- A member with a known name is taken by its field, unless the field is given. -/
theorem takeEntry_known {r : Record δ α} (named : r.names.Nodup) {field : RecordField δ}
    (listed : field ∈ r.fields) (value : Value) (draft next : δ) :
    r.takeEntry draft (field.name, value) = .ok next ↔
      field.given draft = false ∧ field.take value draft = .ok next := by
  have isSome : (r.fields.find? fun other => other.name == field.name).isSome = true :=
    List.find?_isSome.mpr ⟨field, listed, beq_iff_eq.mpr rfl⟩
  obtain ⟨other, found⟩ := Option.isSome_iff_exists.mp isSome
  obtain rfl : other = field :=
    List.inj_on_of_nodup_map named (List.mem_of_find?_eq_some found) listed
      (by simpa using List.find?_some found)
  rw [takeEntry, found]
  cases given : other.given draft <;> simp [refuse, given]

/-- A member with an unknown name is passed over, or not taken at all. -/
theorem takeEntry_unknown {r : Record δ α} {name : String} (unknown : name ∉ r.names)
    (value : Value) (draft next : δ) :
    r.takeEntry draft (name, value) = .ok next ↔
      (r.strict = false ∧ value.sound = true) ∧ draft = next := by
  have found : r.fields.find? (fun field => field.name == name) = none := by
    rw [List.find?_eq_none]
    rintro field listed same
    exact unknown (beq_iff_eq.mp same ▸ List.mem_map_of_mem listed)
  rw [takeEntry, found]
  cases r.strict <;> cases value.sound <;> simp [refuse]

/-- Nothing is taken without a member. -/
theorem foldlM_takeAt_none (fields : List (RecordField δ)) (draft : δ) :
    fields.foldlM (RecordField.takeAt fun _ => none) draft = .ok draft := by
  induction fields generalizing draft with
  | nil => rfl
  | cons _ _ inductionHypothesis => exact inductionHypothesis draft

/-- Members are taken into a draft exactly if their names are admitted, no field of them is given in
the draft, and the fields can take their values in the order of the fields. -/
theorem foldlM_takeEntry_ok_iff {r : Record δ α} (orderly : r.Orderly)
    (entries : List (String × Value)) (draft filled : δ) :
    entries.foldlM r.takeEntry draft = .ok filled ↔ r.Admits entries ∧
      (∀ field ∈ r.fields, field.given draft = true → field.name ∉ entries.map Prod.fst) ∧
      r.fields.foldlM (RecordField.takeAt fun name => entries.lookup name) draft = .ok filled := by
  induction entries generalizing draft with
  | nil =>
    have admits : r.Admits [] := ⟨List.nodup_nil, nofun⟩
    simp [admits, foldlM_takeAt_none]
  | cons entry rest inductionHypothesis =>
    obtain ⟨name, value⟩ := entry
    rw [List.foldlM_cons, bind_eq_ok_iff]
    simp only [inductionHypothesis]
    by_cases known : name ∈ r.names
    · obtain ⟨field, listed, rfl⟩ := List.mem_map.mp known
      simp only [takeEntry_known orderly.named listed, admits_cons_known known]
      have takes (fresh : field.name ∉ rest.map Prod.fst) :
          r.fields.foldlM (RecordField.takeAt fun name => ((field.name, value) :: rest).lookup name)
              draft = .ok filled ↔
            ∃ next, field.take value draft = .ok next ∧
              r.fields.foldlM (RecordField.takeAt fun name => rest.lookup name) next = .ok filled :=
        foldlM_takeAt_cons orderly.named orderly.apart listed (lookup_of_not_mem fresh)
          List.lookup_cons_self (fun _ other => lookup_cons_of_ne other value rest) draft filled
      have spares {next : δ} (taken : field.take value draft = .ok next) {other : RecordField δ}
          (member : other ∈ r.fields) (different : other ≠ field) :
          other.given next = other.given draft :=
        (orderly.apart.forall listed member different.symm).spares value draft next taken
      constructor
      · rintro ⟨next, ⟨absent, taken⟩, admits, spare, takenRest⟩
        have fresh := spare field listed ((orderly.settles field listed).marks value draft next taken)
        refine ⟨⟨fresh, admits⟩, ?_, (takes fresh).mpr ⟨next, taken, takenRest⟩⟩
        intro other member given
        have different : other ≠ field := by
          rintro rfl
          exact nomatch absent.symm.trans given
        rw [List.map_cons, List.mem_cons, not_or]
        refine ⟨fun same => different ?_, spare other member ?_⟩
        · exact List.inj_on_of_nodup_map orderly.named member listed same
        · exact (spares taken member different).trans given
      · rintro ⟨⟨fresh, admits⟩, spare, taken⟩
        obtain ⟨next, taken, takenRest⟩ := (takes fresh).mp taken
        have absent : field.given draft = false :=
          eq_false_of_ne_true fun given => spare field listed given List.mem_cons_self
        refine ⟨next, ⟨absent, taken⟩, admits, fun other member given => ?_, takenRest⟩
        by_cases different : other = field
        · exact different ▸ fresh
        · rw [spares taken member different] at given
          exact fun again => spare other member given (List.mem_cons_of_mem _ again)
    · simp only [takeEntry_unknown known, admits_cons_unknown known]
      have other : ∀ field ∈ r.fields, field.name ≠ name :=
        fun field listed same => known (same ▸ List.mem_map_of_mem listed)
      have takes : r.fields.foldlM
            (RecordField.takeAt fun key => ((name, value) :: rest).lookup key) draft =
          r.fields.foldlM (RecordField.takeAt fun key => rest.lookup key) draft :=
        foldlM_takeAt_congr
          (fun field listed => lookup_cons_of_ne (other field listed) value rest) draft
      have spare : (∀ field ∈ r.fields, field.given draft = true →
            field.name ∉ ((name, value) :: rest).map Prod.fst) ↔
          ∀ field ∈ r.fields, field.given draft = true → field.name ∉ rest.map Prod.fst := by
        refine forall₂_congr fun field listed => ?_
        simp [other field listed]
      rw [takes, spare]
      constructor
      · rintro ⟨next, ⟨first, rfl⟩, admits, spare, taken⟩
        exact ⟨⟨first, admits⟩, spare, taken⟩
      · rintro ⟨⟨first, admits⟩, spare, taken⟩
        exact ⟨draft, ⟨first, rfl⟩, admits, spare, taken⟩

/-! ## Reading a record -/

/-- The draft that takes the fields in their own order. -/
def collect (r : Record δ α) (entries : List (String × Value)) : Read δ :=
  r.fields.foldlM (RecordField.takeAt fun name => entries.lookup name) r.blank

/-- The members of an object are taken exactly if their names are admitted and the fields can take
their values. -/
theorem takeMembers_ok_iff {r : Record δ α} (orderly : r.Orderly) {members : Members}
    {entries : List (String × Value)} (lists : members.Lists entries) (filled : δ) :
    r.takeMembers members r.blank = .ok filled ↔
      r.Admits entries ∧ r.collect entries = .ok filled := by
  rw [r.takeMembers_eq lists, foldlM_takeEntry_ok_iff orderly, collect]
  refine and_congr_right fun _ => and_iff_right fun field listed given => ?_
  exact nomatch (orderly.blank field listed).symm.trans given

/-- A record is read from an object exactly if the members are entries with admitted names, the fields
can take their values, and no field is missing. -/
theorem read_object_ok_iff {r : Record δ α} (orderly : r.Orderly) {members : Members}
    {isFirst : Bool} {text : List Char} (written : members.Written isFirst text) (a : α) :
    r.read (.object members) = .ok a ↔ ∃ entries, members.Lists entries ∧ r.Admits entries ∧
      ∃ filled, r.collect entries = .ok filled ∧ r.complete filled = .ok a := by
  rw [read, bind_eq_ok_iff]
  constructor
  · rintro ⟨filled, taken, complete⟩
    obtain ⟨entries, lists⟩ := r.exists_lists members taken written
    obtain ⟨admits, collected⟩ := (takeMembers_ok_iff orderly lists filled).mp taken
    exact ⟨entries, lists, admits, filled, collected, complete⟩
  · rintro ⟨entries, lists, admits, filled, collected, complete⟩
    exact ⟨filled, (takeMembers_ok_iff orderly lists filled).mpr ⟨admits, collected⟩, complete⟩

/-- Members that are taken are not broken. -/
theorem sound_of_takeMembers {r : Record δ α} (orderly : r.Orderly) : (members : Members) →
    {draft filled : δ} → r.takeMembers members draft = .ok filled → members.sound = true
  | .done, _, _, _ => rfl
  | .more pieces value rest, draft, filled, taken => by
    cases named : Piece.text? pieces with
    | none =>
      rw [takeMembers, named] at taken
      exact nomatch taken
    | some name =>
      rw [r.takeMembers_more named, bind_eq_ok_iff] at taken
      obtain ⟨next, takenFirst, takenRest⟩ := taken
      refine Bool.and_eq_true_iff.mpr ⟨?_, sound_of_takeMembers orderly rest takenRest⟩
      by_cases known : name ∈ r.names
      · obtain ⟨field, listed, rfl⟩ := List.mem_map.mp known
        obtain ⟨_, takenFirst⟩ := (takeEntry_known orderly.named listed _ _ _).mp takenFirst
        exact (orderly.settles field listed).sound value draft next takenFirst
      · exact ((takeEntry_unknown known _ _ _).mp takenFirst).1.2

/-- Items that are taken are not broken. -/
theorem sound_of_takeItems {r : Record δ α} (orderly : r.Orderly) {fields : List (RecordField δ)}
    (listed : ∀ field ∈ fields, field ∈ r.fields) {count : Nat} {items : Items} {draft filled : δ}
    (taken : r.takeItems fields count items draft = .ok filled) : items.sound = true := by
  induction fields generalizing count items draft with
  | nil =>
    cases items with
    | done => rfl
    | _ => exact nomatch taken
  | cons field fields inductionHypothesis =>
    obtain ⟨member, others⟩ := List.forall_mem_cons.mp listed
    cases items with
    | done => rfl
    | more value rest =>
      rw [takeItems, bind_eq_ok_iff] at taken
      obtain ⟨next, takenFirst, takenRest⟩ := taken
      exact Bool.and_eq_true_iff.mpr
        ⟨(orderly.settles field member).sound value draft next takenFirst,
          inductionHypothesis others takenRest⟩
    | broken => exact nomatch taken

/-- A value from which a record is read is not broken. -/
theorem sound_of_read {r : Record δ α} (orderly : r.Orderly) (value : Value) (a : α)
    (accepted : r.read value = .ok a) : value.sound = true := by
  cases value with
  | object members =>
    obtain ⟨_, taken, _⟩ := (bind_eq_ok_iff _ _ _).mp accepted
    exact sound_of_takeMembers orderly members taken
  | array items =>
    obtain ⟨_, taken, _⟩ := (bind_eq_ok_iff _ _ _).mp accepted
    exact sound_of_takeItems orderly (fun _ => id) taken
  | _ => simp only [read, mismatch_ne_ok] at accepted

end Record

end PushLedger.Json
