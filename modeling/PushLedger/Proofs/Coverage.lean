import Mathlib.Data.List.Forall2
import PushLedger.Proofs.Invariants
import PushLedger.Proofs.Roster

/-!
# Rows that cover a roster

Rows cover a roster if they spell out its listings, each once and in whatever order. That no two of
them have the same topic and endpoint, and that the rows of one endpoint agree, is read off the
roster then.

Each statement selects rows by a column, and the roster selects entries. A selection that says of a
row what it says of the entry to which the row belongs keeps the rows covering the roster; so each
operation needs only that its column is in step with the roster. Lookups and sweeps also read rows,
and on rows that cover a roster they read its listings and its targets.
-/

namespace PushLedger

/-- The row spells out the listing. -/
def Row.Spells (row : Row) (l : Listing) : Prop := row.toContent = l.content

/-- The target of a listing. -/
def Listing.target (l : Listing) : PushTarget := ⟨l.endpoint, l.keyAuth, l.keyP256dh, l.userId⟩

namespace Row.Spells

variable {row : Row} {l : Listing} (spells : row.Spells l)

include spells

/-- The topic of a row is that of its listing. -/
theorem isText_topic (topic : String) : row.topic.isText topic = (l.topic == topic) := by
  rw [spells]
  rfl

/-- The endpoint of a row is that of its listing. -/
theorem isText_endpoint (endpoint : String) :
    row.endpoint.isText endpoint = (l.endpoint == endpoint) := by
  rw [spells]
  rfl

/-- The owner of a row is that of its listing. -/
theorem isText_userId (owner : String) :
    row.userId.isText owner = (l.userId == some owner) := by
  rw [spells]
  cases owned : l.userId <;> simp [Listing.content, owned, Cell.ofText?, Cell.isText]

/-- A row and its listing expire together. -/
theorem isExpired_eq (cutoff : Int) : row.isExpired cutoff = l.isExpired cutoff := by
  rw [Row.isExpired, spells]
  cases flag : l.warned <;> simp [Listing.content, Listing.isExpired, flag]

/-- A row and its listing are due together. -/
theorem isDue_eq (cutoff : Int) : row.isDue cutoff = l.isDue cutoff := by
  rw [Row.isDue, spells]
  cases flag : l.warned <;> simp [Listing.content, Listing.isDue, flag]

/-- A row after a sweep spells out its listing after the sweep. -/
theorem swept (cutoff : Int) : (row.swept cutoff).Spells (l.swept cutoff) := by
  have together : row.isDue cutoff = l.isDue cutoff := spells.isDue_eq cutoff
  cases due : l.isDue cutoff with
  | true =>
    rw [row.swept_of_due _ (together ▸ due), Listing.swept, if_pos due]
    exact congrArg (fun content : Content => { content with warningSent := .integer 1 }) spells
  | false =>
    rw [row.swept_of_not_due _ (together ▸ due), Listing.swept, due]
    exact spells

/-- A row has the address of its listing's target. -/
theorem address_eq : Address.ofRow row = l.target.address := by
  rw [Address.ofRow, spells]
  rfl

/-- A row reads as its listing. -/
theorem read_eq : ∃ s, row.read = .ok s ∧ s.listing = l := by
  obtain ⟨content, id⟩ := row
  obtain rfl : content = l.content := spells
  refine ⟨⟨id, l.topic, l.userId, l.endpoint, l.keyAuth, l.keyP256dh, l.updatedAt, l.warned⟩, ?_,
    rfl⟩
  cases owned : l.userId <;> cases flag : l.warned <;>
    simp [Row.read, Row.readFlag, Row.readColumns, Listing.content, owned, flag, Cell.ofText?,
      Cell.readInteger, Cell.readText, Cell.readOptionalText]

end Row.Spells

/-- A cell reads as an integer exactly if it is that integer. -/
theorem Cell.readInteger_ok_iff (cell : Cell) (index : Nat) (column : Column) (n : Int) :
    cell.readInteger index column = .ok n ↔ cell = .integer n := by
  cases cell <;> simp [readInteger]

namespace Row

/-- The flag of a row reads as a truth value exactly if it is the integer of that value. -/
theorem readFlag_ok_iff (row : Row) (flag : Bool) :
    row.readFlag = .ok flag ↔ row.warningSent = .integer (if flag then 1 else 0) := by
  unfold readFlag
  split
  · rename_i unread
    refine ⟨nofun, fun set => ?_⟩
    rw [set] at unread
    exact nomatch unread
  · rename_i zero
    rw [(Cell.readInteger_ok_iff _ _ _ _).mp zero]
    cases flag <;> simp
  · rename_i one
    rw [(Cell.readInteger_ok_iff _ _ _ _).mp one]
    cases flag <;> simp
  · rename_i n notZero notOne other
    rw [(Cell.readInteger_ok_iff _ _ _ _).mp other]
    cases flag <;> simpa

/-- A row that reads as a subscription has its id and spells out its listing. -/
theorem spells_of_read (row : Row) (s : Subscription) (read : row.read = .ok s) :
    row.id = s.id ∧ row.Spells s.listing := by
  unfold Row.read at read
  split at read
  · exact nomatch read
  · rename_i flag set
    split at read
    · rename_i found columns
      obtain rfl := Except.ok.inj read
      simp only [readColumns, bind_eq_ok_iff, Cell.readText_ok_iff, Cell.readOptionalText_ok_iff,
        Cell.readInteger_ok_iff, pure_eq_ok, Except.ok.injEq] at columns
      obtain ⟨topic, topicStored, userId, owned, endpoint, endpointStored, keyAuth, keyAuthStored,
        keyP256dh, keyP256dhStored, updatedAt, stamped, rfl⟩ := columns
      refine ⟨rfl, ?_⟩
      have cells : row.toContent = ⟨row.topic, row.userId, row.endpoint, row.keyAuth, row.keyP256dh,
          row.updatedAt, row.warningSent⟩ := rfl
      rw [Spells, cells, topicStored, owned, endpointStored, keyAuthStored, keyP256dhStored, stamped,
        (row.readFlag_ok_iff flag).mp set]
      rfl
    · exact nomatch read

end Row

/-- Where all rows spell out listings, the addresses of the rows that a sweep warns spell out
targets. -/
theorem Table.dueAddresses_spelled (t : Table) (spelled : ∀ row ∈ t.rows, ∃ l, row.Spells l)
    (expireBefore warnBefore : Int) :
    ∃ targets : List PushTarget,
      (t.without (Row.isExpired expireBefore)).dueAddresses warnBefore =
        targets.map PushTarget.address := by
  refine (t.without (Row.isExpired expireBefore)).dueAddresses_named warnBefore ?_
  intro row left _
  obtain ⟨l, spells⟩ := spelled row (List.mem_filter.mp left).1
  exact ⟨l.target, spells.address_eq⟩

/-- A selection that a statement makes among the rows and the roster among its entries. Both say the
same of a listing, as it stands in a row and as it belongs to an entry. -/
structure Selection where
  ofRow : Row → Bool
  ofListing : Listing → Bool
  ofEntry : String → Entry → Bool
  rowAlike : ∀ row l, row.Spells l → ofRow row = ofListing l
  entryAlike : ∀ endpoint (entry : Entry) topic,
    ofListing (entry.listing endpoint topic) = ofEntry endpoint entry

namespace Selection

/-- What a selection leaves out. -/
def complement (selection : Selection) : Selection where
  ofRow row := !selection.ofRow row
  ofListing l := !selection.ofListing l
  ofEntry endpoint entry := !selection.ofEntry endpoint entry
  rowAlike row l spells := congrArg _ (selection.rowAlike row l spells)
  entryAlike endpoint entry topic := congrArg _ (selection.entryAlike endpoint entry topic)

/-- What belongs to an endpoint. -/
def ofEndpoint (endpoint : String) : Selection where
  ofRow row := row.endpoint.isText endpoint
  ofListing l := l.endpoint == endpoint
  ofEntry other _ := other == endpoint
  rowAlike _ _ spells := spells.isText_endpoint endpoint
  entryAlike _ _ _ := rfl

/-- What belongs to an owner. -/
def ofOwner (owner : String) : Selection where
  ofRow row := row.userId.isText owner
  ofListing l := l.userId == some owner
  ofEntry _ entry := entry.userId == some owner
  rowAlike _ _ spells := spells.isText_userId owner
  entryAlike _ _ _ := rfl

/-- What is expired at a cutoff. -/
def expired (cutoff : Int) : Selection where
  ofRow := Row.isExpired cutoff
  ofListing := Listing.isExpired cutoff
  ofEntry _ entry := entry.isExpired cutoff
  rowAlike _ _ spells := spells.isExpired_eq cutoff
  entryAlike _ _ _ := rfl

/-- What is due at a cutoff. -/
def due (cutoff : Int) : Selection where
  ofRow := Row.isDue cutoff
  ofListing := Listing.isDue cutoff
  ofEntry _ entry := entry.isDue cutoff
  rowAlike _ _ spells := spells.isDue_eq cutoff
  entryAlike _ _ _ := rfl

end Selection

namespace Roster

/-- The rows spell out the listings of the roster, in some order. -/
def Covers (m : Roster) (rows : List Row) : Prop :=
  ∃ listed, List.Forall₂ Row.Spells rows listed ∧ listed.Perm (listings m)

namespace Covers

variable {m : Roster} {rows : List Row} (covers : Covers m rows)

include covers

/-- The contents of the rows are those of the listings, up to order. -/
theorem contents_perm : (rows.map Row.toContent).Perm ((listings m).map Listing.content) := by
  obtain ⟨listed, spelled, same⟩ := covers
  have contents : rows.map Row.toContent = listed.map Listing.content := by
    rw [← List.forall₂_eq_eq_eq, List.forall₂_map_left_iff, List.forall₂_map_right_iff]
    exact spelled
  exact contents ▸ same.map _

/-- Every row spells out a listing of the roster. -/
theorem listing_of_row (row : Row) (member : row ∈ rows) : ∃ l ∈ listings m, row.Spells l := by
  obtain ⟨l, listed, same⟩ := List.mem_map.mp
    (covers.contents_perm.mem_iff.mp (List.mem_map_of_mem member))
  exact ⟨l, listed, same.symm⟩

/-- Every listing of the roster is spelled out by a row. -/
theorem row_of_listing (l : Listing) (listed : l ∈ listings m) : ∃ row ∈ rows, row.Spells l :=
  List.mem_map.mp (covers.contents_perm.mem_iff.mpr (List.mem_map_of_mem listed))

/-- There are as many rows as listings. -/
theorem length_eq : rows.length = volume m := by
  rw [volume_eq, ← List.length_map Listing.content, ← covers.contents_perm.length_eq,
    List.length_map]

/-- No two rows have the same topic and endpoint. -/
theorem rows_unique : (rows.map fun row => (row.topic, row.endpoint)).Nodup := by
  have distinct : ((listings m).map fun l => (l.content.topic, l.content.endpoint)).Nodup := by
    refine List.pairwise_map.mpr ((listings_unique m).imp ?_)
    intro a b apart same
    obtain ⟨sameTopic, sameEndpoint⟩ := Prod.mk.inj same
    exact apart ⟨Cell.text.inj sameTopic, Cell.text.inj sameEndpoint⟩
  have cells := covers.contents_perm.map fun content => (content.topic, content.endpoint)
  rw [List.map_map, List.map_map] at cells
  exact cells.nodup_iff.mpr distinct

/-- The rows of one endpoint agree, because they belong to one entry. -/
theorem rows_agree (a b : Row) (first : a ∈ rows) (second : b ∈ rows)
    (same : a.endpoint = b.endpoint) : a.Agrees b := by
  obtain ⟨l, listed, spellsA⟩ := covers.listing_of_row a first
  obtain ⟨k, alsoListed, spellsB⟩ := covers.listing_of_row b second
  rw [spellsA, spellsB] at same
  have sameEndpoint : l.endpoint = k.endpoint := Cell.text.inj same
  obtain ⟨entry, kept, topic, _, spelledL⟩ := (mem_listings_iff m l).mp listed
  obtain ⟨other, alsoKept, topic', _, spelledK⟩ := (mem_listings_iff m k).mp alsoListed
  rw [sameEndpoint, alsoKept] at kept
  obtain rfl : other = entry := Option.some.inj kept
  constructor <;> rw [spellsA, spellsB, spelledL, spelledK] <;> rfl

/-- A selection on rows and on entries selects rows that cover the selected entries. -/
theorem select (selection : Selection) :
    Covers (m.filter selection.ofEntry) (rows.filter selection.ofRow) := by
  obtain ⟨listed, spelled, same⟩ := covers
  refine ⟨listed.filter selection.ofListing, ?_, ?_⟩
  · refine List.rel_filter ?_ spelled
    intro row l spells
    exact iff_of_eq (congrArg (· = true) (selection.rowAlike row l spells))
  · rw [listings_filter m selection.ofEntry selection.ofListing selection.entryAlike]
    exact same.filter _

/-- The rows that are not selected cover the entries that are not selected. -/
theorem reject (selection : Selection) :
    Covers (m.filter fun endpoint entry => !selection.ofEntry endpoint entry)
      (rows.filter fun row => !selection.ofRow row) :=
  covers.select selection.complement

/-- As many rows are selected as the selected entries have topics. -/
theorem countP_eq (selection : Selection) :
    rows.countP selection.ofRow = volume (m.filter selection.ofEntry) := by
  rw [List.countP_eq_length_filter, (covers.select selection).length_eq]

/-- The rows after a sweep that deletes none cover the entries after it. -/
theorem map_swept (cutoff : Int) :
    Covers (m.map fun _ entry => entry.swept cutoff) (rows.map (Row.swept cutoff)) := by
  obtain ⟨listed, spelled, same⟩ := covers
  refine ⟨listed.map (Listing.swept cutoff), ?_, ?_⟩
  · refine List.rel_map ?_ spelled
    intro row l spells
    exact spells.swept cutoff
  · rw [listings_map m _ (Listing.swept cutoff) fun endpoint entry =>
      entry.listings_swept endpoint cutoff]
    exact same.map _

end Covers

/-- Rows that spell out a new entry complete those of the other endpoints. -/
theorem covers_insert (m : Roster) (endpoint : String) (entry : Entry) (others rows : List Row)
    (rest : Covers (m.erase endpoint) others)
    (spelled : List.Forall₂ Row.Spells rows (entry.listings endpoint)) :
    Covers (m.insert endpoint entry) (others ++ rows) := by
  obtain ⟨listed, othersSpelled, same⟩ := rest
  refine ⟨listed ++ entry.listings endpoint, List.rel_append othersSpelled spelled, ?_⟩
  exact (same.append_right _).trans (listings_insert m endpoint entry).symm

/-- Rows that spell out listings are read as these. -/
theorem mapM_read_spelled (rows : List Row) (listed : List Listing)
    (spelled : List.Forall₂ Row.Spells rows listed) :
    ∃ subscriptions, rows.mapM Row.read = .ok subscriptions ∧
      subscriptions.map Subscription.listing = listed := by
  induction spelled with
  | nil => exact ⟨[], rfl, rfl⟩
  | cons spells _ inductionHypothesis =>
    obtain ⟨subscription, read, rfl⟩ := spells.read_eq
    obtain ⟨subscriptions, restRead, rfl⟩ := inductionHypothesis
    exact ⟨subscription :: subscriptions, by simp [read, restRead], rfl⟩

section Tables

variable {m : Roster} {t : Table} (covers : Covers m t.rows)

include covers

/-- A lookup finds the listings of its topic, one for each entry that has it. -/
theorem lookup_covers (current : t.Current) (topic : String) :
    ∃ subscriptions, t.lookup topic = .ok subscriptions ∧
      (subscriptions.map Subscription.listing).Perm (m.lookup topic) := by
  obtain ⟨listed, spelled, same⟩ := covers
  have selected : List.Forall₂ Row.Spells (t.rows.filter fun row => row.topic.isText topic)
      (listed.filter fun l => l.topic == topic) := by
    refine List.rel_filter ?_ spelled
    intro row l spells
    exact iff_of_eq (congrArg (· = true) (spells.isText_topic topic))
  obtain ⟨subscriptions, read, found⟩ := mapM_read_spelled _ _ selected
  have flagged : t.layout.flagged = true := by
    rw [current.epoch]
    rfl
  refine ⟨subscriptions, ?_, ?_⟩
  · exact (t.lookup_ok_iff topic subscriptions).mpr ⟨flagged, read⟩
  · rw [found, lookup_eq]
    exact same.filter _

/-- The rows that a sweep warns spell out the entries that it warns. -/
theorem dueRows_covers (expireBefore warnBefore : Int) :
    Covers (m.due expireBefore warnBefore) (t.dueRows expireBefore warnBefore) :=
  (covers.reject (.expired expireBefore)).select (.due warnBefore)

/-- The addresses of the rows that a sweep warns spell out targets. -/
theorem dueAddresses_spelled (expireBefore warnBefore : Int) :
    ∃ targets : List PushTarget,
      (t.without (Row.isExpired expireBefore)).dueAddresses warnBefore =
        targets.map PushTarget.address :=
  t.dueAddresses_spelled (fun row member => (covers.listing_of_row row member).imp
    fun _ listed => listed.2) expireBefore warnBefore

/-- A sweep names one target for each entry that it warns, in the order of the endpoints. Both lists
are in this order and hold the same targets, and an endpoint has only one entry. -/
theorem targets_covers (expireBefore warnBefore : Int) (targets : List PushTarget)
    (spelled : (t.without (Row.isExpired expireBefore)).dueAddresses warnBefore =
      targets.map PushTarget.address) :
    targets = (m.sweepReport expireBefore warnBefore).targets := by
  have due := dueRows_covers covers expireBefore warnBefore
  have members (target : PushTarget) :
      target ∈ targets ↔ target ∈ (m.sweepReport expireBefore warnBefore).targets := by
    constructor
    · intro announced
      obtain ⟨row, member, same⟩ := Table.due_of_target spelled target announced
      obtain ⟨l, listed, spells⟩ := due.listing_of_row row member
      obtain ⟨entry, kept, topic, _, ofEntry⟩ := (mem_listings_iff _ l).mp listed
      have named : l.target = target :=
        PushTarget.address_injective (spells.address_eq.symm.trans same)
      refine List.mem_map.mpr ⟨(l.endpoint, entry), ?_, ?_⟩
      · exact Std.ExtTreeMap.mem_toList_iff_getElem?_eq_some.mpr kept
      · rw [← named, ofEntry]
        rfl
    · intro reported
      obtain ⟨⟨endpoint, entry⟩, kept, rfl⟩ := List.mem_map.mp reported
      -- An entry has a topic, so some row stands for it.
      obtain ⟨topic, rest, names⟩ := List.exists_cons_of_ne_nil entry.occupied
      have listed : entry.listing endpoint topic ∈ listings (m.due expireBefore warnBefore) :=
        (mem_listings_iff _ _).mpr ⟨entry,
          Std.ExtTreeMap.mem_toList_iff_getElem?_eq_some.mp kept, topic, by simp [names], rfl⟩
      obtain ⟨row, member, spells⟩ := due.row_of_listing _ listed
      obtain ⟨target, announced, same⟩ := Table.target_of_due spelled row member
      have named : (entry.listing endpoint topic).target = target :=
        PushTarget.address_injective (spells.address_eq.symm.trans same)
      change (entry.listing endpoint topic).target ∈ targets
      exact named ▸ announced
  have ordered : (m.sweepReport expireBefore warnBefore).targets.Pairwise
      fun a b => a.endpoint < b.endpoint := by
    refine List.pairwise_map.mpr ((m.due expireBefore warnBefore).ordered_keys_toList.imp ?_)
    intro a b less
    exact (compareOfLessAndEq_eq_lt).mp less
  have apart : ((m.sweepReport expireBefore warnBefore).targets.map PushTarget.endpoint).Nodup := by
    refine List.pairwise_map.mpr (ordered.imp ?_)
    intro a b less same
    exact String.lt_irrefl b.endpoint (same ▸ less)
  have same : targets.Perm (m.sweepReport expireBefore warnBefore).targets :=
    (List.perm_ext_iff_of_nodup (Table.targets_nodup spelled) apart.of_map).mpr members
  refine same.eq_of_pairwise ?_ (Table.targets_ordered spelled)
    (ordered.imp fun less => String.not_lt.mp fun more =>
      String.lt_irrefl _ (String.lt_trans less more))
  intro a b first second atMost atLeast
  exact List.inj_on_of_nodup_map apart ((members a).mp first) second
    (String.le_antisymm atMost atLeast)

end Tables

end Roster

end PushLedger
