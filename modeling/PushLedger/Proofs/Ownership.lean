import PushLedger.Proofs.Coverage
import PushLedger.Proofs.Footprint

/-!
# Owners and their removal

An owner is a text that is not blank; a request with a blank owner has none, and the removal of a
blank owner removes nothing. As long as every stored owner is of this kind, each owned row can be
removed through its owner. Requests and removals ask the same question, so no operation of a store
ends this.

A rebuild asks another one: it takes owners of nothing but spaces for none and leaves other blanks as
they are. So whether the owners of an old database can all remove their rows is decided when it is
opened, by whether one of them is blank without consisting of spaces.
-/

namespace PushLedger

/-- The cell holds an owner or none: it is empty, or a text that is not blank. -/
def Cell.NamesOwner (cell : Cell) : Prop :=
  cell = .null ∨ ∃ owner, cell = .text owner ∧ Text.isBlank owner = false

namespace Cell

/-- A normalized owner is written as an owner or none. -/
theorem namesOwner_normalized (userId : Option String) :
    (ofText? (normalizeOwner userId)).NamesOwner := by
  cases userId with
  | none => exact .inl rfl
  | some owner =>
    cases blank : Text.isBlank owner with
    | true =>
      have unnamed : normalizeOwner (some owner) = none := by simp [normalizeOwner, blank]
      exact .inl (congrArg ofText? unnamed)
    | false =>
      have named : normalizeOwner (some owner) = some owner := by simp [normalizeOwner, blank]
      exact .inr ⟨owner, congrArg ofText? named, blank⟩

/-- A text of spaces is blank. -/
theorem isBlank_of_isSpaces (owner : String) (spaces : (Cell.text owner).isSpaces = true) :
    Text.isBlank owner = true := by
  refine List.all_eq_true.mpr fun c member => ?_
  have space : c = ' ' := by simpa using List.all_eq_true.mp spaces c member
  subst space
  decide

end Cell

namespace Row

/-- The copy of a row without an owner has none. -/
theorem userId_copied_of_null (row : Row) (none : row.userId = .null) :
    row.copied.userId = .null := by
  simp [copied, Content.rebuilt, none, Cell.isSpaces, Affinity.apply]

/-- The copy of a row has the owner of the row, unless that consists of spaces. -/
theorem userId_copied_of_text (row : Row) (owner : String) (named : row.userId = .text owner) :
    row.copied.userId = if (Cell.text owner).isSpaces then .null else .text owner := by
  simp [copied, Content.rebuilt, named, Affinity.apply]

/-- The copy of a row with an owner or none has the same. -/
theorem userId_copied_of_namesOwner (row : Row) (names : row.userId.NamesOwner) :
    row.copied.userId = row.userId := by
  rcases names with none | ⟨owner, named, filled⟩
  · rw [row.userId_copied_of_null none, none]
  · have other : ¬ (Cell.text owner).isSpaces = true := fun spaces =>
      nomatch filled.symm.trans (Cell.isBlank_of_isSpaces owner spaces)
    rw [row.userId_copied_of_text owner named, if_neg other, named]

/-- The copy of a row that holds a text or nothing as its owner names an owner or none exactly if the
text is not blank or consists of spaces. -/
theorem namesOwner_copied_iff (row : Row)
    (texts : row.userId = .null ∨ ∃ owner, row.userId = .text owner) :
    row.copied.userId.NamesOwner ↔ ∀ owner, row.userId = .text owner →
      Text.isBlank owner = true → ∀ c ∈ owner.toList, c = ' ' := by
  rcases texts with none | ⟨owner, named⟩
  · simp [row.userId_copied_of_null none, Cell.NamesOwner, none]
  · have spaces : (Cell.text owner).isSpaces = true ↔ ∀ c ∈ owner.toList, c = ' ' := by
      simp [Cell.isSpaces, Cell.looseChars]
    rw [row.userId_copied_of_text owner named]
    by_cases onlySpaces : (Cell.text owner).isSpaces = true
    · simp [onlySpaces, Cell.NamesOwner, named, ← spaces]
    · simp [onlySpaces, Cell.NamesOwner, named, ← spaces]

end Row

namespace Table

/-- Every row names an owner or none. -/
def Owned (t : Table) : Prop := ∀ row ∈ t.rows, row.userId.NamesOwner

end Table

namespace NewSubscription

/-- The owner of a request that was checked is normalized. -/
theorem userId_of_check (draft : Draft) (request : NewSubscription)
    (checked : draft.check = .ok request) : request.userId = normalizeOwner draft.userId := by
  unfold Draft.check at checked
  split at checked
  · exact nomatch checked
  · exact (Except.ok.inj checked) ▸ rfl

end NewSubscription

namespace Table

/-- Owners last: deletions and sweeps do not touch them, a checked request writes normalized ones, and
a rebuild keeps those that are texts and not blank. -/
theorem lasting_owned : Lasting Owned where
  without t selected owned row member := owned row (List.mem_filter.mp member).1
  replaced t draft request now current checked owned row member := by
    rw [rows_replaced t request now current] at member
    rcases List.mem_append.mp member with old | fresh
    · exact owned row (List.mem_filter.mp old).1
    · obtain ⟨topic, _, content⟩ := List.mem_map.mp (Row.mem_numbered _ _ row fresh).1
      have written : row.userId = .ofText? request.userId := (congrArg Content.userId content).symm
      rw [written, NewSubscription.userId_of_check draft request checked]
      exact Cell.namesOwner_normalized draft.userId
  swept t expireBefore warnBefore owned row member := by
    obtain ⟨old, present, _, rfl⟩ := (mem_swept_iff t _ _ row).mp member
    have sameOwner : (old.swept warnBefore).userId = old.userId := by
      unfold Row.swept
      split <;> rfl
    exact sameOwner ▸ owned old present
  rebuilt t owned copy member := by
    obtain ⟨row, present, rfl⟩ := List.mem_map.mp member
    exact row.userId_copied_of_namesOwner (owned row present) ▸ owned row present

end Table

namespace Database

/-- The database holds a table in the present layout and without a guard, and all of its rows name an
owner or none. It need not be up to date: a stamp may be hidden by the spelling of its table. -/
structure KeepsOwners (db : Database) (t : Table) : Prop where
  kept : db.subscriptions = some t
  current : t.Current
  owned : t.Owned

/-- No run touches owners but to write normalized ones. -/
theorem KeepsOwners.runAll {db : Database} {t : Table} (keeps : db.KeepsOwners t)
    (steps : List (Instant × Operation)) :
    ∃ changed, (Operation.runAll db steps).2.KeepsOwners changed := by
  obtain ⟨changed, stillKept, stillCurrent, stillOwned⟩ :=
    Table.lasting_owned.runAll keeps.kept keeps.current keeps.owned steps
  exact ⟨changed, stillKept, stillCurrent, stillOwned⟩

/-- Every stored owner is none or not blank, and whatever owner a lookup finds with a row, the
removal of that owner counts and deletes the rows of the owner, this row among them, and no other. -/
structure Removable (db : Database) : Prop where
  named : ∀ row ∈ db.rows, row.userId.NamesOwner
  removed : ∀ topic found, (db.lookup topic).result = .ok found → ∀ s ∈ found,
    ∀ owner, s.userId = some owner →
      (∃ row ∈ db.rows, row.id = s.id ∧ row.userId = .text owner) ∧
      (db.removeOwner owner).result =
        .ok (db.rows.countP fun row => row.userId = .text owner) ∧
      (db.removeOwner owner).database.rows =
        db.rows.filter fun row => row.userId ≠ .text owner

/-- Where every row names an owner or none, the owners that are found can be removed. -/
theorem KeepsOwners.removable {db : Database} {t : Table} (keeps : db.KeepsOwners t) :
    db.Removable := by
  have same : db.rows = t.rows := rows_of_kept db t keeps.kept
  refine ⟨same ▸ keeps.owned, ?_⟩
  intro topic found done s member owner owned
  rw [lookup_result db t keeps.kept topic] at done
  obtain ⟨row, selected, read⟩ :=
    (mem_iff_of_mapM ((t.lookup_ok_iff topic found).mp done).2 s).mp member
  have present := (List.mem_filter.mp selected).1
  obtain ⟨sameId, spells⟩ := row.spells_of_read s read
  have named : row.userId = .ofText? s.userId := congrArg Content.userId spells
  rw [owned] at named
  have filled : Text.isBlank owner = false := by
    rcases keeps.owned row present with none | ⟨other, otherNamed, filled⟩
    · exact nomatch named.symm.trans none
    · obtain rfl := Cell.text.inj (named.symm.trans otherNamed)
      exact filled
  have asked : (fun row : Row => row.userId.isText owner) =
      fun row => decide (row.userId = .text owner) := by
    funext row
    rw [Bool.eq_iff_iff, Cell.isText_iff, decide_eq_true_iff]
  rcases removeOwner_current keeps.kept keeps.current owner with
    ⟨blank, _⟩ | ⟨_, counted, stored⟩
  · simp [normalizeOwner, filled] at blank
  · rw [counted, stored, same, asked]
    refine ⟨⟨row, present, sameId, named⟩, rfl, ?_⟩
    simp [rows, withTable, Table.without]

/-- A store is opened on a database of an old version whose owners are texts or none. Whatever it
does then, each owner can remove the rows of that owner, exactly if every blank owner in the old
database consists of spaces. -/
theorem openStore_owners_removable_iff (db : Database) (version : Nat) (mode : OpenMode)
    (old : db.currentVersion = .ok version) (less : version < latestVersion)
    (texts : ∀ row ∈ db.rows, row.userId = .null ∨ ∃ owner, row.userId = .text owner)
    (opened : (db.openStore mode).result = .ok ()) :
    (∀ steps, (Operation.runAll (db.openStore mode).database steps).2.Removable) ↔
      ∀ row ∈ db.rows, ∀ owner, row.userId = .text owner → Text.isBlank owner = true →
        ∀ c ∈ owner.toList, c = ' ' := by
  obtain ⟨t, fit⟩ := upgradable_of_update old less opened
  have updated : (db.openStore mode).database = db.upgraded t :=
    (update_upgradable old less t fit).2
  have same : db.rows = t.rows := rows_of_oldTable db version t fit.found
  have owned : (rebuiltTable t).Owned ↔
      ∀ row ∈ db.rows, ∀ owner, row.userId = .text owner → Text.isBlank owner = true →
        ∀ c ∈ owner.toList, c = ' ' := by
    rw [Table.Owned, rows_rebuiltTable, List.forall_mem_map, same]
    exact forall₂_congr fun row member => row.namesOwner_copied_iff (texts row (same ▸ member))
  rw [← owned, updated]
  constructor
  · intro removable
    have named := (removable []).named
    exact fun row member => named row member
  · intro owned steps
    have keeps : (db.upgraded t).KeepsOwners (rebuiltTable t) :=
      ⟨rfl, current_rebuiltTable t, owned⟩
    obtain ⟨_, stillKeeps⟩ := keeps.runAll steps
    exact stillKeeps.removable

/-! In a table of the first published layout one row has an owner, and the other one a blank that is
to be taken for none. -/

/-- A row of the first published layout. -/
def datedRow (endpoint : String) (userId : Cell) (id : Int) : Row where
  topic := .text "news"
  userId := userId
  endpoint := .text endpoint
  keyAuth := .text "auth"
  keyP256dh := .text "p256dh"
  updatedAt := .integer 0
  warningSent := .integer 0
  id := id

/-- The table with an owner and a blank. -/
def blankTable (blank : String) : Table where
  layout := .dated
  indexed := true
  rows := [datedRow "https://push.example/a" (.text "ann") 1,
    datedRow "https://push.example/b" (.text blank) 2]
  counter := 2
  guard := none

/-- The database that holds the table. -/
def blankDatabase (blank : String) : Database := ofFirstVersion (blankTable blank)

/-- A blank of spaces is taken for none, and whatever the store does, owners can be removed. -/
theorem owners_removable_of_spaces :
    (blankDatabase "  ").currentVersion = .ok 1 ∧
      (∀ row ∈ (blankDatabase "  ").rows,
        row.userId = .null ∨ ∃ owner, row.userId = .text owner) ∧
      ((blankDatabase "  ").openStore .file).result = .ok () ∧
      ∀ steps,
        (Operation.runAll ((blankDatabase "  ").openStore .file).database steps).2.Removable := by
  have old : (blankDatabase "  ").currentVersion = .ok 1 := by decide +kernel
  have listed : (blankDatabase "  ").rows = [datedRow "https://push.example/a" (.text "ann") 1,
      datedRow "https://push.example/b" (.text "  ") 2] := rfl
  have texts : ∀ row ∈ (blankDatabase "  ").rows,
      row.userId = .null ∨ ∃ owner, row.userId = .text owner := by
    simp [listed, datedRow]
  have opened : ((blankDatabase "  ").openStore .file).result = .ok () := by decide +kernel
  have spaces : ∀ row ∈ (blankDatabase "  ").rows, ∀ owner, row.userId = .text owner →
      Text.isBlank owner = true → ∀ c ∈ owner.toList, c = ' ' := by
    have letters : Text.isBlank "ann" = false := by decide +kernel
    simp [listed, datedRow, letters]
  exact ⟨old, texts, opened, (openStore_owners_removable_iff (blankDatabase "  ") 1 .file old
    (by decide) texts opened).mpr spaces⟩

/-- A blank of another kind stays as it is: a lookup finds it as the owner of a row, and the removal
of that owner removes nothing. -/
theorem tab_owner_not_removed :
    (blankDatabase "\t").currentVersion = .ok 1 ∧
      ((blankDatabase "\t").openStore .file).result = .ok () ∧
      (((blankDatabase "\t").openStore .file).database.lookup "news").result = .ok [
        ⟨1, "news", some "ann", "https://push.example/a", "auth", "p256dh", 0, false⟩,
        ⟨2, "news", some "\t", "https://push.example/b", "auth", "p256dh", 0, false⟩] ∧
      (((blankDatabase "\t").openStore .file).database.removeOwner "\t").result = .ok 0 ∧
      (((blankDatabase "\t").openStore .file).database.removeOwner "\t").database =
        ((blankDatabase "\t").openStore .file).database := by
  have kept : ((blankDatabase "\t").openStore .file).database.subscriptions =
      some (rebuiltTable (blankTable "\t")) := by
    decide +kernel
  have found : (rebuiltTable (blankTable "\t")).lookup "news" = .ok [
      ⟨1, "news", some "ann", "https://push.example/a", "auth", "p256dh", 0, false⟩,
      ⟨2, "news", some "\t", "https://push.example/b", "auth", "p256dh", 0, false⟩] :=
    (Table.lookup_ok_iff _ _ _).mpr ⟨rfl, by decide +kernel⟩
  exact ⟨by decide +kernel, by decide +kernel, (lookup_result _ _ kept "news").trans found,
    by decide +kernel, by decide +kernel⟩

end Database
end PushLedger
