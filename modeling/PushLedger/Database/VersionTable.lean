import PushLedger.Cell.Affinity
import PushLedger.Table.Fault
import PushLedger.Table.Layout

/-!
# The version table

The table of stamps keeps a version under each id, and the version under the id one is the stamp. It
need not be the ledger's own work: its columns have the types that its creator gave them, and its
ids may lack a key. Whatever is written passes through the affinities of the columns, so that an id
or a version is looked for, and found, as the column has stored it. The ledger writes its stamp over
the one with the same id. Without a key there is no telling which row that would be, and the
statement fails.
-/

namespace PushLedger

namespace VersionTable

/-- The spelling that the ledger gives to its version table. -/
def properName : String := "schemaVersion"

/-- The name of the version column. -/
def versionName : String := "version"

/-- Some row has the id. An empty id agrees with nothing. -/
def hasId (rows : List (Cell × Cell)) (id : Cell) : Bool :=
  id != .null && rows.any fun row => row.1.same id

/-- No two rows have the same id. -/
def Distinct (rows : List (Cell × Cell)) : Prop :=
  rows.Pairwise fun a b => hasId [a] b.1 = false

instance (rows : List (Cell × Cell)) : Decidable (Distinct rows) :=
  inferInstanceAs (Decidable (rows.Pairwise fun a b => hasId [a] b.1 = false))

/-- An id is new to a list of rows exactly if none of them has it. -/
theorem hasId_eq_false_iff (rows : List (Cell × Cell)) (id : Cell) :
    hasId rows id = false ↔ ∀ row ∈ rows, hasId [row] id = false := by
  cases empty : id != .null with
  | false => simp [hasId, empty]
  | true => simp [hasId, empty]

/-- One more row with a new id leaves ids distinct. -/
theorem Distinct.append {rows : List (Cell × Cell)} (distinct : Distinct rows) (row : Cell × Cell)
    (fresh : hasId rows row.1 = false) : Distinct (rows ++ [row]) := by
  refine List.pairwise_append.mpr ⟨distinct, List.pairwise_singleton _ _, ?_⟩
  intro a present b added
  obtain rfl := List.mem_singleton.mp added
  exact (hasId_eq_false_iff rows b.1).mp fresh a present

end VersionTable

/-- The table of version stamps, as pairs of id and version. -/
structure VersionTable where
  name : String
  idAffinity : Affinity
  versionAffinity : Affinity
  /-- The ids are a key, which a stamp can be written under. -/
  keyed : Bool
  rows : List (Cell × Cell)
  distinct : keyed = true → VersionTable.Distinct rows
  /-- The cells are such as the columns store. -/
  stored : ∀ row ∈ rows,
    idAffinity.apply row.1 = row.1 ∧ versionAffinity.apply row.2 = row.2
deriving DecidableEq, Repr

namespace VersionTable

/-- A table without rows, whose ids are a key. -/
def blank (name : String) (idAffinity versionAffinity : Affinity) : VersionTable where
  name := name
  idAffinity := idAffinity
  versionAffinity := versionAffinity
  keyed := true
  rows := []
  distinct := fun _ => List.Pairwise.nil
  stored := nofun

/-- The version table as the ledger creates it. -/
def own : VersionTable := blank properName .numeric .numeric

/-- The id of the stamp, as the column stores it. -/
def stampId (t : VersionTable) : Cell := t.idAffinity.apply (.integer 1)

/-- The row holds the stamp. -/
def isStamp (t : VersionTable) (row : Cell × Cell) : Bool := row.1.same t.stampId

/-- The version under the id one. -/
def stamp? (t : VersionTable) : Option Cell := (t.rows.find? t.isStamp).map Prod.snd

/-- The id of the stamp is not empty. -/
theorem stampId_ne_null (t : VersionTable) : t.stampId ≠ .null := by
  simp [stampId]

/-- The rows with the id of the stamp are those that hold it. -/
theorem hasId_stampId (t : VersionTable) (rows : List (Cell × Cell)) :
    hasId rows t.stampId = rows.any t.isStamp := by
  have filled : (t.stampId != .null) = true := by simp [t.stampId_ne_null]
  rw [hasId, filled, Bool.true_and]
  rfl

/-- One more row, whose cells pass through the affinities of the columns. -/
def append (t : VersionTable) (id version : Cell)
    (fresh : t.keyed = true → hasId t.rows (t.idAffinity.apply id) = false) : VersionTable :=
  { t with
    rows := t.rows ++ [(t.idAffinity.apply id, t.versionAffinity.apply version)]
    distinct := fun keyed => (t.distinct keyed).append _ (fresh keyed)
    stored := by
      intro row member
      rcases List.mem_append.mp member with old | added
      · exact t.stored row old
      · obtain rfl := List.mem_singleton.mp added
        simp }

/-- Inserts a row of another program. -/
def insert (t : VersionTable) (id version : Cell) : Except StorageFault VersionTable :=
  if fresh : t.keyed = true → hasId t.rows (t.idAffinity.apply id) = false then
    .ok (t.append id version fresh)
  else .error (.duplicate t.name [Column.id.name])

/-- A row after the stamp was written. -/
def stampedRow (t : VersionTable) (version : Cell) (row : Cell × Cell) : Cell × Cell :=
  if t.isStamp row then (row.1, t.versionAffinity.apply version) else row

/-- A row keeps its id when the stamp is written. -/
@[simp] theorem stampedRow_fst (t : VersionTable) (version : Cell) (row : Cell × Cell) :
    (t.stampedRow version row).1 = row.1 := by
  unfold stampedRow
  split <;> rfl

/-- The table with another stamp in the rows that hold one. -/
def overwriteStamp (t : VersionTable) (version : Cell) : VersionTable :=
  { t with
    rows := t.rows.map (t.stampedRow version)
    distinct := fun keyed => List.pairwise_map.mpr <| (t.distinct keyed).imp fun apart => by
      simpa [hasId] using apart
    stored := by
      intro row member
      obtain ⟨old, present, rfl⟩ := List.mem_map.mp member
      unfold stampedRow
      split
      · exact ⟨(t.stored old present).1, t.versionAffinity.apply_apply version⟩
      · exact t.stored old present }

/-- The table with this version as its stamp. -/
def withStamp (t : VersionTable) (version : Cell) : VersionTable :=
  if absent : hasId t.rows t.stampId = false then t.append (.integer 1) version fun _ => absent
  else t.overwriteStamp version

/-- A table keeps its name when the stamp is written. -/
@[simp] theorem name_withStamp (t : VersionTable) (version : Cell) :
    (t.withStamp version).name = t.name := by
  unfold withStamp
  split <;> rfl

/-- The column of versions keeps its type when the stamp is written. -/
@[simp] theorem versionAffinity_withStamp (t : VersionTable) (version : Cell) :
    (t.withStamp version).versionAffinity = t.versionAffinity := by
  unfold withStamp
  split <;> rfl

/-- The ids are a key after the stamp is written exactly if they were before. -/
@[simp] theorem keyed_withStamp (t : VersionTable) (version : Cell) :
    (t.withStamp version).keyed = t.keyed := by
  unfold withStamp
  split <;> rfl

/-- Writes the stamp, which takes a key on the ids. -/
def setStamp (t : VersionTable) (version : Nat) : Except StorageFault VersionTable :=
  if t.keyed then .ok (t.withStamp (.integer version)) else .error .noKey

/-- The table without a stamp. -/
def withoutStamp (t : VersionTable) : VersionTable :=
  { t with
    rows := t.rows.filter fun row => !t.isStamp row
    distinct := fun keyed => List.Pairwise.filter _ (t.distinct keyed)
    stored := fun row member => t.stored row (List.mem_filter.mp member).1 }

/-- Once it is gone, the id of the stamp is new. -/
theorem hasId_withoutStamp (t : VersionTable) :
    hasId t.withoutStamp.rows t.withoutStamp.stampId = false := by
  rw [hasId_stampId, List.any_eq_false]
  intro row member
  change ¬ t.isStamp row = true
  simpa using (List.mem_filter.mp member).2

/-- Moves the stamp as another program does: the row of the stamp goes, and a new one comes unless it
would be empty. -/
def restamp (t : VersionTable) (version : Cell) : VersionTable :=
  if version = .null then t.withoutStamp
  else t.withoutStamp.append (.integer 1) version fun _ => t.hasId_withoutStamp

/-- A version table has a stamp exactly if a row has its id. -/
theorem stamp_eq_none_iff (t : VersionTable) :
    t.stamp? = none ↔ hasId t.rows t.stampId = false := by
  rw [stamp?, Option.map_eq_none_iff, List.find?_eq_none, hasId_stampId, List.any_eq_false]

/-- A row with the id of the stamp holds it. -/
@[simp] theorem isStamp_stampId (t : VersionTable) (version : Cell) :
    t.isStamp (t.stampId, version) = true := by
  have same (affinity : Affinity) :
      (affinity.apply (.integer 1)).same (affinity.apply (.integer 1)) = true := by
    cases affinity <;> decide +kernel
  exact same t.idAffinity

/-- A stamp that was written is there, as the column stores it. -/
@[simp] theorem stamp_withStamp (t : VersionTable) (version : Cell) :
    (t.withStamp version).stamp? = some (t.versionAffinity.apply version) := by
  let written : Cell := t.versionAffinity.apply version
  unfold withStamp
  split
  · next absent =>
    have missing : t.rows.find? t.isStamp = none :=
      Option.map_eq_none_iff.mp ((t.stamp_eq_none_iff).mpr absent)
    have last : (t.rows ++ [(t.stampId, written)]).find? t.isStamp = some (t.stampId, written) := by
      simp [List.find?_append, missing]
    exact congrArg (Option.map Prod.snd) last
  · next present =>
    obtain ⟨row, found⟩ : ∃ row, t.rows.find? t.isStamp = some row := by
      rw [← Option.ne_none_iff_exists']
      exact fun missing => present ((t.stamp_eq_none_iff).mp (Option.map_eq_none_iff.mpr missing))
    have sameIds : t.isStamp ∘ t.stampedRow version = t.isStamp := by
      funext row
      simp [isStamp]
    have moved : (t.rows.map (t.stampedRow version)).find? t.isStamp = some (row.1, written) := by
      rw [List.find?_map, sameIds, found]
      simp [stampedRow, List.find?_some found, written]
    exact congrArg (Option.map Prod.snd) moved

end VersionTable
end PushLedger
