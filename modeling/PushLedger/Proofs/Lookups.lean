import PushLedger.Proofs.Coverage
import PushLedger.Proofs.Records
import PushLedger.Proofs.SweepEffect

/-!
# What a lookup trips over

A lookup reads the rows of its topic and no others. It succeeds exactly if each of them can be read,
and then its subscriptions are these rows, cell by cell. Otherwise it fails for one of them: an
integer that is no flag is named as such, and a cell of a wrong class by its column, where the flag is
looked at first and the other columns follow in their order.
-/

namespace PushLedger

namespace Column

/-- The place of a column in a result. -/
def index (column : Column) : Nat := all.idxOf column

/-- The classes of cells that a column of a subscription can have. -/
def accepts : Column → StorageClass → Bool
  | .id, found | .updatedAt, found | .warningSent, found => found = .integer
  | .userId, found => found = .null || found = .text
  | _, found => found = .text

/-- The order in which the columns of a row are read. -/
def readingOrder : List Column := .warningSent :: all.filter (· ≠ .warningSent)

end Column

/-- What is said of a cell that its column does not accept. -/
def Row.misfit (row : Row) (column : Column) : StorageFault :=
  .wrongClass (row.cell column).storageClass column.index column.name

namespace Cell

variable (cell : Cell) (index : Nat) (column : Column) (fault : StorageFault)

/-- A cell is no text exactly if its class is another one, and this class is named. -/
theorem readText_error_iff : cell.readText index column = .error fault ↔
    cell.storageClass ≠ .text ∧ fault = .wrongClass cell.storageClass index column.name := by
  cases cell <;> simp [readText, storageClass, eq_comm]

/-- A cell is no optional text exactly if it is neither empty nor a text. -/
theorem readOptionalText_error_iff : cell.readOptionalText index column = .error fault ↔
    (cell.storageClass ≠ .null ∧ cell.storageClass ≠ .text) ∧
      fault = .wrongClass cell.storageClass index column.name := by
  cases cell <;> simp [readOptionalText, storageClass, eq_comm]

/-- The cells of the class of integers are the integers. -/
theorem storageClass_integer_iff : cell.storageClass = .integer ↔ ∃ n, cell = .integer n := by
  cases cell <;> simp [storageClass]

/-- A cell is no integer exactly if its class is another one. -/
theorem readInteger_error_iff : cell.readInteger index column = .error fault ↔
    cell.storageClass ≠ .integer ∧ fault = .wrongClass cell.storageClass index column.name := by
  cases cell <;> simp [readInteger, storageClass, eq_comm]

end Cell

namespace Row

/-- The column accepts its cell. -/
def fits (row : Row) (column : Column) : Bool := column.accepts (row.cell column).storageClass

/-- The first column in the order of reading that does not accept its cell. -/
def firstMisfit? (row : Row) : Option Column :=
  Column.readingOrder.find? fun column => !row.fits column

/-- What can be said of a damaged row. -/
inductive Trips (row : Row) : LedgerFault → Prop
  /-- The flag is an integer, but neither zero nor one. -/
  | flag (n : Int) (kept : row.warningSent = .integer n) (stray : n ≠ 0 ∧ n ≠ 1) :
      Trips row (.invalidData (flagDetail n))
  /-- A cell has a class that its column does not accept, and it is the first such cell. -/
  | cell (column : Column) (first : row.firstMisfit? = some column)
      (settled : ∀ n, row.warningSent = .integer n → n = 0 ∨ n = 1) :
      Trips row (.storage (row.misfit column))

/-- The row can be read: its flag is zero or one, it can be addressed, and it has a stamp. -/
structure IsReadable (row : Row) : Prop where
  flag : row.warningSent = .integer 0 ∨ row.warningSent = .integer 1
  addressable : row.IsAddressable
  updatedAt : row.updatedAt.storageClass = .integer

/-- The flag cannot be read exactly if it is no integer, or neither zero nor one. -/
theorem readFlag_error_iff (row : Row) (fault : LedgerFault) : row.readFlag = .error fault ↔
    (row.warningSent.storageClass ≠ .integer ∧ fault = .storage (row.misfit .warningSent)) ∨
    ∃ n, row.warningSent = .integer n ∧ (n ≠ 0 ∧ n ≠ 1) ∧ fault = .invalidData (flagDetail n) := by
  unfold readFlag
  cases kept : row.warningSent with
  | integer n =>
    by_cases zero : n = 0
    · subst zero
      simp [Cell.readInteger, Cell.storageClass]
    · by_cases one : n = 1
      · subst one
        simp [Cell.readInteger, Cell.storageClass]
      · simp [Cell.readInteger, Cell.storageClass, zero, one, eq_comm]
  | _ =>
    have place : Column.index .warningSent = 7 := rfl
    have found : row.cell .warningSent = row.warningSent := rfl
    simp [Cell.readInteger, Cell.storageClass, misfit, found, kept, place, eq_comm]

section Order

variable {row : Row} {column : Column} {later : List Column}
  (left : row.firstMisfit? = (column :: later).find? fun column => !row.fits column)

include left

/-- A column that does not accept its cell comes first if it comes first among those that are left. -/
theorem firstMisfit?_here (misfits : row.fits column = false) : row.firstMisfit? = some column :=
  left.trans (List.find?_cons_of_pos (by rw [misfits, Bool.not_false]))

/-- After a column that accepts its cell the later ones are left. -/
theorem firstMisfit?_later (fits : row.fits column = true) :
    row.firstMisfit? = later.find? fun column => !row.fits column :=
  left.trans (List.find?_cons_of_neg (by rw [fits, Bool.not_true]; exact Bool.false_ne_true))

end Order

/-- A column fits as the cell does that it is known to hold. -/
theorem fits_of_cell (row : Row) (column : Column) {found : Cell}
    (holds : row.cell column = found) : row.fits column = column.accepts found.storageClass := by
  rw [fits, holds]

/-- A row with a flag whose other columns cannot be read has a first misfit among them. -/
theorem misfit_of_readColumns (row : Row) (flag : Bool) (fault : StorageFault)
    (set : row.warningSent = .integer (if flag then 1 else 0))
    (failed : row.readColumns flag = .error fault) :
    ∃ column, row.firstMisfit? = some column ∧ fault = row.misfit column := by
  simp only [readColumns, bind_eq_error_iff, Cell.readText_error_iff, Cell.readText_ok_iff,
    Cell.readOptionalText_error_iff, Cell.readOptionalText_ok_iff, Cell.readInteger_error_iff,
    Cell.readInteger_ok_iff, pure_eq_ok, reduceCtorEq, and_false, exists_const, or_false] at failed
  -- the columns are read one after the other, and `left` says which of them are left
  have left := firstMisfit?_later rfl (row.fits_of_cell .warningSent set)
  replace left := firstMisfit?_later left rfl
  rcases failed with ⟨bad, rfl⟩ | ⟨topic, named, failed⟩
  · exact ⟨.topic, firstMisfit?_here left (decide_eq_false bad), rfl⟩
  replace left := firstMisfit?_later left (row.fits_of_cell .topic named)
  rcases failed with ⟨bad, rfl⟩ | ⟨owner, owned, failed⟩
  · have misfits : row.fits .userId = false :=
      Bool.or_eq_false_iff.mpr ⟨decide_eq_false bad.1, decide_eq_false bad.2⟩
    exact ⟨.userId, firstMisfit?_here left misfits, rfl⟩
  have fitsOwner : row.fits .userId = true :=
    (row.fits_of_cell .userId owned).trans (by cases owner <;> rfl)
  replace left := firstMisfit?_later left fitsOwner
  rcases failed with ⟨bad, rfl⟩ | ⟨endpoint, addressed, failed⟩
  · exact ⟨.endpoint, firstMisfit?_here left (decide_eq_false bad), rfl⟩
  replace left := firstMisfit?_later left (row.fits_of_cell .endpoint addressed)
  rcases failed with ⟨bad, rfl⟩ | ⟨keyAuth, withAuth, failed⟩
  · exact ⟨.keyAuth, firstMisfit?_here left (decide_eq_false bad), rfl⟩
  replace left := firstMisfit?_later left (row.fits_of_cell .keyAuth withAuth)
  rcases failed with ⟨bad, rfl⟩ | ⟨keyP256dh, withKey, bad, rfl⟩
  · exact ⟨.keyP256dh, firstMisfit?_here left (decide_eq_false bad), rfl⟩
  replace left := firstMisfit?_later left (row.fits_of_cell .keyP256dh withKey)
  exact ⟨.updatedAt, firstMisfit?_here left (decide_eq_false bad), rfl⟩

/-- A row that cannot be read fails for something that can be said of it. -/
theorem trips_of_read (row : Row) (fault : LedgerFault) (failed : row.read = .error fault) :
    row.Trips fault := by
  unfold read at failed
  split at failed
  · rename_i cause unread
    obtain rfl := Except.error.inj failed
    rcases (row.readFlag_error_iff cause).mp unread with ⟨noInteger, rfl⟩ | ⟨n, kept, stray, rfl⟩
    · refine .cell .warningSent (firstMisfit?_here rfl ?_) ?_
      · exact decide_eq_false noInteger
      · intro n kept
        rw [kept] at noInteger
        exact absurd rfl noInteger
    · exact .flag n kept stray
  · rename_i flag set
    split at failed
    · exact nomatch failed
    · rename_i cause unread
      obtain rfl := Except.error.inj failed
      have kept := (row.readFlag_ok_iff flag).mp set
      obtain ⟨column, first, rfl⟩ := row.misfit_of_readColumns flag cause kept unread
      refine .cell column first ?_
      intro n integer
      obtain rfl := Cell.integer.inj (integer.symm.trans kept)
      cases flag <;> simp

end Row

/-- A subscription as a row of the table. -/
def Subscription.row (s : Subscription) : Row := { s.listing.content with id := s.id }

namespace Row

/-- A row reads as a subscription exactly if it is the row of the subscription. -/
theorem read_eq_ok_iff (row : Row) (s : Subscription) : row.read = .ok s ↔ row = s.row := by
  constructor
  · intro read
    obtain ⟨sameId, spells⟩ := row.spells_of_read s read
    obtain ⟨content, id⟩ := row
    obtain rfl : content = s.listing.content := spells
    obtain rfl : id = s.id := sameId
    rfl
  · rintro rfl
    have spells : s.row.Spells s.listing := rfl
    obtain ⟨other, read, sameListing⟩ := spells.read_eq
    obtain ⟨sameId, _⟩ := s.row.spells_of_read other read
    obtain rfl : other = s := by
      cases other
      cases s
      obtain rfl := sameId
      cases sameListing
      rfl
    exact read

/-- Rows read as subscriptions exactly if they are the rows of these. -/
theorem mapM_read_iff (rows : List Row) (found : List Subscription) :
    rows.mapM Row.read = .ok found ↔ found.map Subscription.row = rows := by
  rw [mapM_eq_ok_iff, eq_comm, ← List.forall₂_eq_eq_eq, List.forall₂_map_right_iff]
  simp only [read_eq_ok_iff]

/-- The rows with a topic that can be read are those of subscriptions. -/
theorem isReadable_iff (row : Row) (topic : String) (named : row.topic = .text topic) :
    row.IsReadable ↔ ∃ s, row.read = .ok s := by
  simp only [read_eq_ok_iff]
  constructor
  · intro readable
    obtain ⟨endpoint, atEndpoint⟩ :=
      row.endpoint.storageClass_text_iff.mp readable.addressable.endpoint
    obtain ⟨keyAuth, withAuth⟩ := row.keyAuth.storageClass_text_iff.mp readable.addressable.keyAuth
    obtain ⟨keyP256dh, withKey⟩ :=
      row.keyP256dh.storageClass_text_iff.mp readable.addressable.keyP256dh
    obtain ⟨userId, owned⟩ := row.userId.storageClass_optional_iff.mp readable.addressable.userId
    obtain ⟨updatedAt, stamped⟩ := row.updatedAt.storageClass_integer_iff.mp readable.updatedAt
    obtain ⟨warned, flagged⟩ : ∃ flag : Bool, row.warningSent = .integer (if flag then 1 else 0) := by
      rcases readable.flag with zero | one
      · exact ⟨false, zero⟩
      · exact ⟨true, one⟩
    refine ⟨⟨row.id, topic, userId, endpoint, keyAuth, keyP256dh, updatedAt, warned⟩, ?_⟩
    have cells : row = ⟨⟨row.topic, row.userId, row.endpoint, row.keyAuth, row.keyP256dh,
        row.updatedAt, row.warningSent⟩, row.id⟩ := rfl
    rw [cells, named, owned, atEndpoint, withAuth, withKey, stamped, flagged]
    rfl
  · rintro ⟨s, rfl⟩
    refine ⟨?_, ⟨rfl, rfl, rfl, ?_⟩, rfl⟩
    · have kept : s.row.warningSent = .integer (if s.warningSent then 1 else 0) := rfl
      cases flag : s.warningSent <;> simp [kept, flag]
    · exact (Cell.storageClass_optional_iff _).mpr ⟨s.userId, rfl⟩

end Row

namespace Table

variable {t : Table} (flagged : t.layout.flagged = true) (topic : String)

include flagged

/-- A lookup succeeds exactly if every row of its topic can be read. -/
theorem lookup_succeeds_iff : (∃ found, t.lookup topic = .ok found) ↔
    ∀ row ∈ t.rows, row.topic = .text topic → row.IsReadable := by
  simp only [t.lookup_ok_iff topic, flagged, true_and]
  constructor
  · rintro ⟨found, read⟩ row member named
    have selected : row ∈ t.rows.filter fun row => row.topic.isText topic :=
      List.mem_filter.mpr ⟨member, (row.topic.isText_iff topic).mpr named⟩
    rw [← (Row.mapM_read_iff _ found).mp read] at selected
    obtain ⟨s, _, same⟩ := List.mem_map.mp selected
    exact (row.isReadable_iff topic named).mpr ⟨s, (row.read_eq_ok_iff s).mpr same.symm⟩
  · intro readable
    refine exists_mapM_eq_ok ?_
    intro row selected
    obtain ⟨member, ofTopic⟩ := List.mem_filter.mp selected
    have named := (row.topic.isText_iff topic).mp ofTopic
    exact (row.isReadable_iff topic named).mp (readable row member named)

/-- A lookup that fails does so for a row of its topic that cannot be read. -/
theorem trips_of_lookup (fault : LedgerFault) (failed : t.lookup topic = .error fault) :
    ∃ row ∈ t.rows, row.topic = .text topic ∧ ¬ row.IsReadable ∧ row.Trips fault := by
  simp only [lookup, flagged, Bool.not_true, Bool.false_eq_true, if_false] at failed
  split at failed
  · rename_i cause damage
    obtain rfl := Except.error.inj failed
    obtain ⟨row, visited, damaged⟩ := List.exists_of_findSome?_eq_some damage
    obtain ⟨member, ofTopic⟩ := List.mem_filter.mp ((t.mem_visited_iff _ row).mp visited)
    have named := (row.topic.isText_iff topic).mp ofTopic
    split at damaged
    · cases damaged
    · rename_i unread
      obtain rfl := Option.some.inj damaged
      refine ⟨row, member, named, ?_, row.trips_of_read _ unread⟩
      intro readable
      obtain ⟨s, read⟩ := (row.isReadable_iff topic named).mp readable
      cases unread.symm.trans read
  · rename_i undamaged
    -- rows without damage are all read, so the second pass cannot fail
    have done : ∃ found, (t.rows.filter fun row => row.topic.isText topic).mapM Row.read =
        .ok found := by
      refine exists_mapM_eq_ok ?_
      intro row selected
      have unharmed := List.findSome?_eq_none_iff.mp undamaged row
        ((t.mem_visited_iff _ row).mpr selected)
      split at unharmed
      · exact ⟨_, ‹_›⟩
      · cases unharmed
    obtain ⟨found, read⟩ := done
    cases read.symm.trans failed

omit flagged

/-- Tables that hold the same rows of a topic are looked up alike. -/
theorem lookup_congr (u : Table) (sameLayout : u.layout = t.layout)
    (sameIndexes : u.indexed = t.indexed)
    (sameRows : (u.rows.filter fun row => row.topic.isText topic) =
      t.rows.filter fun row => row.topic.isText topic) : u.lookup topic = t.lookup topic := by
  simp only [lookup, firstDamage?, visited, sameLayout, sameIndexes, sameRows]

end Table

namespace Database

/-- A lookup in a table with flags succeeds exactly if every row of its topic can be read, and then
finds these rows and no others, each of them once and cell by cell. Otherwise it fails for one of
these rows that cannot be read, and says of it what can be said of it. It changes nothing, and rows
of other topics make no difference to what it finds, to its fault or to its record. -/
theorem lookup_effect (db : Database) (t : Table) (kept : db.subscriptions = some t)
    (flagged : t.layout.flagged = true) (topic : String) :
    ((∃ found, (db.lookup topic).result = .ok found) ↔
      ∀ row ∈ t.rows, row.topic = .text topic → row.IsReadable) ∧
    (∀ found, (db.lookup topic).result = .ok found →
      found.map Subscription.row = t.rows.filter fun row => row.topic.isText topic) ∧
    (∀ fault, (db.lookup topic).result = .error fault →
      ∃ row ∈ t.rows, row.topic = .text topic ∧ ¬ row.IsReadable ∧ row.Trips fault) ∧
    (db.lookup topic).database = db ∧
    ∀ (other : Database) (u : Table), other.subscriptions = some u → u.layout = t.layout →
      u.indexed = t.indexed →
      ((u.rows.filter fun row => row.topic.isText topic) =
        t.rows.filter fun row => row.topic.isText topic) →
      (other.lookup topic).result = (db.lookup topic).result ∧
      (other.lookup topic).events = (db.lookup topic).events := by
  have looked := db.lookup_result t kept topic
  refine ⟨?_, ?_, ?_, db.lookup_database topic, ?_⟩
  · rw [looked]
    exact t.lookup_succeeds_iff flagged topic
  · intro found done
    obtain ⟨_, read⟩ := (t.lookup_ok_iff topic found).mp (looked.symm.trans done)
    exact (Row.mapM_read_iff _ found).mp read
  · intro fault failed
    exact t.trips_of_lookup flagged topic fault (looked.symm.trans failed)
  · intro other u keptToo sameLayout sameIndexes sameRows
    have alike : (other.lookup topic).result = (db.lookup topic).result := by
      rw [looked, other.lookup_result u keptToo topic]
      exact t.lookup_congr topic u sameLayout sameIndexes sameRows
    refine ⟨alike, ?_⟩
    rw [other.lookup_events, db.lookup_events, alike]

end Database

/-! Two rows have been damaged, each in two cells. -/

namespace DamagedRows

open Resubscription (row)

/-- A row whose flag is neither zero nor one, and whose key is not a text either. -/
def flaggedOddly : Row :=
  { row 2 with topic := .text "mail", warningSent := .integer 7, keyAuth := .blob [1] }

/-- A row whose owner is no text and whose stamp is one. -/
def ownedOddly : Row :=
  { row 3 with topic := .text "sport", userId := .blob [2], updatedAt := .text "long ago" }

/-- The rows of the table. -/
def rows : List Row := [row 1, flaggedOddly, ownedOddly]

/-- A table of the given rows. -/
def table (rows : List Row) : Table := ⟨.epoch, true, rows, 3, none⟩

/-- The database that holds the table. -/
def database (rows : List Row) : Database := Database.fresh.withTable (table rows)

/-- There are three rows. -/
theorem row_cases (other : Row) (member : other ∈ rows) :
    other = row 1 ∨ other = flaggedOddly ∨ other = ownedOddly := by
  simpa only [rows, List.mem_cons, List.not_mem_nil, or_false] using member

/-- The row of the third topic is found, as it is without the damaged rows. The lookups of their
topics fail: the one for the flag, though a key comes before it in the table, and the other for the
owner, who comes before the stamp. -/
theorem damaged_rows_looked_up :
    (∃ found, ((database rows).lookup "news").result = .ok found ∧
      found.map Subscription.row = [row 1] ∧
      ((database [row 1]).lookup "news").result = .ok found) ∧
    ((database rows).lookup "mail").result = .error (.invalidData (Row.flagDetail 7)) ∧
    ((database rows).lookup "sport").result =
      .error (.storage (.wrongClass .blob 2 "user_id")) := by
  have effect := Database.lookup_effect (database rows) (table rows) rfl rfl
  refine ⟨?_, ?_, ?_⟩
  · obtain ⟨succeeds, finds, _, _, alone⟩ := effect "news"
    have readable : (row 1).IsReadable := ⟨.inl rfl, ⟨rfl, rfl, rfl, .inr rfl⟩, rfl⟩
    have allReadable : ∀ other ∈ rows, other.topic = .text "news" → other.IsReadable := by
      intro other member named
      rcases row_cases other member with rfl | rfl | rfl
      · exact readable
      · simp [flaggedOddly] at named
      · simp [ownedOddly] at named
    obtain ⟨found, done⟩ := succeeds.mpr allReadable
    obtain ⟨same, _⟩ := alone (database [row 1]) (table [row 1]) rfl rfl rfl rfl
    exact ⟨found, done, finds found done, same.trans done⟩
  · obtain ⟨succeeds, _, fails, _⟩ := effect "mail"
    cases done : ((database rows).lookup "mail").result with
    | ok found =>
      have readable := succeeds.mp ⟨found, done⟩ flaggedOddly (by simp [table, rows]) rfl
      exact absurd readable.flag (by simp [flaggedOddly])
    | error fault =>
      obtain ⟨other, member, named, _, trips⟩ := fails fault done
      rcases row_cases other member with rfl | rfl | rfl
      · simp [row] at named
      · cases trips with
        | flag n kept stray =>
          obtain rfl := Cell.integer.inj kept
          rfl
        | cell column first settled => exact absurd (settled 7 rfl) (by decide)
      · simp [ownedOddly] at named
  · obtain ⟨succeeds, _, fails, _⟩ := effect "sport"
    cases done : ((database rows).lookup "sport").result with
    | ok found =>
      have readable := succeeds.mp ⟨found, done⟩ ownedOddly (by simp [table, rows]) rfl
      exact absurd readable.updatedAt (by decide)
    | error fault =>
      obtain ⟨other, member, named, _, trips⟩ := fails fault done
      rcases row_cases other member with rfl | rfl | rfl
      · simp [row] at named
      · simp [flaggedOddly] at named
      · cases trips with
        | flag n kept stray =>
          obtain rfl := Cell.integer.inj kept
          exact absurd rfl stray.1
        | cell column first settled =>
          have owner : ownedOddly.firstMisfit? = some .userId := by decide
          obtain rfl := Option.some.inj (owner.symm.trans first)
          rfl

end DamagedRows
end PushLedger
