import Mathlib.Data.List.DropRight
import PushLedger.Database.Migration
import PushLedger.Proofs.Replacement

/-!
# What a rebuild makes of a row

A rebuild copies every row of the old table. Here it is said which rows can be copied, and what the
copy of a row is in terms of the old one, column by column. Both hold whatever the old columns were
declared as, since a column without a type may hold anything in any of its rows.

Topics and endpoints are compared twice, as they stood in the old table and as text columns store
them. Neither comparison implies the other: an integer equals a real before and differs from it as
text, while an integer differs from its own digits before and equals them as text.
-/

namespace PushLedger

namespace Cell

/-- The text of a cell without the spaces at its ends; an empty cell has no text. -/
def trimmed? : Cell → Option (List Char)
  | .null => none
  | cell => some ((cell.looseChars.dropWhile (· = ' ')).rdropWhile (· = ' '))

/-- Nothing remains of a text without the spaces at its ends exactly if it consists of spaces. -/
theorem trim_eq_nil_iff (chars : List Char) :
    (chars.dropWhile (· = ' ')).rdropWhile (· = ' ') = [] ↔ chars.all (· = ' ') = true := by
  rw [List.rdropWhile_eq_nil_iff, List.all_eq_true]
  constructor
  · intro rest c member
    rw [← List.takeWhile_append_dropWhile (p := (· = ' ')) (l := chars)] at member
    rcases List.mem_append.mp member with front | back
    · exact List.mem_takeWhile_imp (p := fun c => c = ' ') front
    · exact rest c back
  · intro spaces c member
    exact spaces c (List.dropWhile_subset _ member)

/-- A cell consists of spaces exactly if trimming leaves nothing of its text. -/
theorem isSpaces_iff_trimmed (cell : Cell) : cell.isSpaces = true ↔ cell.trimmed? = some [] := by
  cases cell with
  | null => simp [isSpaces, trimmed?]
  | _ => simp only [isSpaces, trimmed?, Option.some.injEq, trim_eq_nil_iff]

/-- The order of byte strings finds two of them equal only if they are. -/
theorem orderBytes_eq_iff (a b : List UInt8) : orderBytes a b = .eq ↔ a = b := by
  induction a generalizing b with
  | nil => cases b <;> simp [orderBytes]
  | cons first rest inductionHypothesis =>
    cases b with
    | nil => simp [orderBytes]
    | cons other others =>
      by_cases less : first < other
      · have apart : first ≠ other := UInt8.ne_of_lt less
        simp [orderBytes, less, apart]
      · by_cases more : other < first
        · have apart : first ≠ other := (UInt8.ne_of_lt more).symm
          simp [orderBytes, less, more, apart]
        · have equal : first = other := UInt8.le_antisymm (UInt8.not_lt.mp more) (UInt8.not_lt.mp less)
          simp [orderBytes, equal, inductionHypothesis]

/-- What a text column stores is text, bytes or nothing, and of these the order tells apart whatever
is different. -/
theorem same_apply_text_iff (a b : Cell) :
    (Affinity.text.apply a).same (Affinity.text.apply b) = true ↔
      Affinity.text.apply a = Affinity.text.apply b := by
  cases a <;> cases b <;>
    simp [Affinity.apply, same, order, orderText_eq_iff, orderBytes_eq_iff]

end Cell

namespace Content

/-- None of the columns that identify a subscription or its keys is empty. -/
structure Complete (content : Content) : Prop where
  topic : content.topic ≠ .null
  endpoint : content.endpoint ≠ .null
  keyAuth : content.keyAuth ≠ .null
  keyP256dh : content.keyP256dh ≠ .null

/-- The topic and the endpoint as text columns store them. -/
def settledKey (content : Content) : Cell × Cell :=
  (Affinity.text.apply content.topic, Affinity.text.apply content.endpoint)

/-- The stamp that a rebuild writes is an integer. -/
theorem integer_rebuiltStamp (cell : Cell) :
    ∃ n, Affinity.numeric.apply cell.rebuiltStamp = .integer n := by
  cases cell with
  | text s =>
    cases found : Stamp.seconds? s with
    | none => exact ⟨0, by simp [Cell.rebuiltStamp, found, Affinity.apply]⟩
    | some seconds => exact ⟨seconds * 1000, by simp [Cell.rebuiltStamp, found, Affinity.apply]⟩
  | _ => exact ⟨_, rfl⟩

/-- A rebuild misses a required cell exactly if the old row missed it. -/
theorem firstMissing_rebuilt_iff (content : Content) :
    content.rebuilt.firstMissing? .epoch = none ↔ content.Complete := by
  obtain ⟨n, stamp⟩ := integer_rebuiltStamp content.updatedAt
  have filled : content.rebuilt.firstMissing? .epoch = none ↔
      content.topic ≠ .null ∧ content.endpoint ≠ .null ∧ content.keyAuth ≠ .null ∧
        content.keyP256dh ≠ .null := by
    simp [firstMissing?, rebuilt, cell, Layout.columns, Layout.required, Column.all, stamp]
  rw [filled]
  constructor
  · rintro ⟨topic, endpoint, keyAuth, keyP256dh⟩
    exact ⟨topic, endpoint, keyAuth, keyP256dh⟩
  · rintro ⟨topic, endpoint, keyAuth, keyP256dh⟩
    exact ⟨topic, endpoint, keyAuth, keyP256dh⟩

/-- Two rebuilt rows clash exactly if text columns store the same topic and endpoint for both. -/
theorem clashes_rebuilt_iff (a b : Content) (complete : a.Complete) :
    a.rebuilt.clashes b.rebuilt = true ↔ a.settledKey = b.settledKey := by
  simp [clashes, rebuilt, settledKey, Cell.same_apply_text_iff, complete.topic, complete.endpoint]

end Content

namespace Row

/-- The copy that a rebuild makes of a row. -/
def copied (row : Row) : Row := { row.toContent.rebuilt with id := row.id }

/-- A row is rebuilt as its copy, unless it misses a required cell. -/
theorem rebuilt_ok_iff (row copy : Row) :
    row.rebuilt = .ok copy ↔ row.Complete ∧ copy = row.copied := by
  cases missing : row.toContent.rebuilt.firstMissing? .epoch with
  | none =>
    have complete := (Content.firstMissing_rebuilt_iff row.toContent).mp missing
    simp only [rebuilt, missing, Except.ok.injEq, complete, true_and]
    exact eq_comm
  | some column =>
    have incomplete : ¬ row.Complete := fun complete => by
      rw [(Content.firstMissing_rebuilt_iff row.toContent).mpr complete] at missing
      exact nomatch missing
    simp [rebuilt, missing, incomplete]

/-- The rows of a table are rebuilt one after another exactly if none of them misses a cell. -/
theorem mapM_rebuilt_ok_iff (rows copies : List Row) :
    rows.mapM rebuilt = .ok copies ↔
      (∀ row ∈ rows, row.Complete) ∧ copies = rows.map copied := by
  have copying : List.Forall₂ (fun row copy => copy = row.copied) rows copies ↔
      copies = rows.map copied := by
    rw [eq_comm, ← List.forall₂_eq_eq_eq, List.forall₂_map_left_iff]
    simp only [eq_comm]
  simp only [mapM_eq_ok_iff, rebuilt_ok_iff, List.forall₂_and_left, copying]

/-- No two rows of a list clash. -/
theorem anyClash_eq_false_iff (rows : List Row) :
    anyClash rows = false ↔ rows.Pairwise fun a b => ¬ a.clashes b.toContent = true := by
  induction rows with
  | nil => simp [anyClash]
  | cons row rest inductionHypothesis =>
    simp only [anyClash, Bool.or_eq_false_iff, List.any_eq_false, inductionHypothesis,
      List.pairwise_cons]

/-- The copies of complete rows do not clash exactly if text columns store different topics or
endpoints for them. -/
theorem anyClash_copied_iff (rows : List Row) (complete : ∀ row ∈ rows, row.Complete) :
    anyClash (rows.map copied) = false ↔ (rows.map fun row => row.settledKey).Nodup := by
  rw [anyClash_eq_false_iff, List.pairwise_map, List.Nodup, List.pairwise_map]
  constructor
  · intro apart
    exact apart.imp_of_mem fun member _ unclashing same =>
      unclashing ((Content.clashes_rebuilt_iff _ _ (complete _ member)).mpr same)
  · intro distinct
    exact distinct.imp_of_mem fun member _ different clash =>
      different ((Content.clashes_rebuilt_iff _ _ (complete _ member)).mp clash)

end Row

/-- The new row says what the old one said: text columns hold the old values as text, an owner of
nothing but spaces is none, the stamp is in milliseconds, and the flag is a truth value. -/
structure Row.Carried (old new : Row) : Prop where
  id : new.id = old.id
  topic : new.topic = Affinity.text.apply old.topic
  endpoint : new.endpoint = Affinity.text.apply old.endpoint
  keyAuth : new.keyAuth = Affinity.text.apply old.keyAuth
  keyP256dh : new.keyP256dh = Affinity.text.apply old.keyP256dh
  userId : new.userId =
    if old.userId.trimmed? = some [] then .null else Affinity.text.apply old.userId
  updatedAt : new.updatedAt = match old.updatedAt with
    | .integer millis => .integer millis
    | .text date => .integer (1000 * (Stamp.seconds? date).getD 0)
    | _ => .integer 0
  warningSent : new.warningSent = .integer (if old.warningSent.isTrue then 1 else 0)

/-- The copy of a row says what the row said. -/
theorem Row.carried_copied (row : Row) : row.Carried row.copied where
  id := rfl
  topic := rfl
  endpoint := rfl
  keyAuth := rfl
  keyP256dh := rfl
  userId := by
    simp only [copied, Content.rebuilt, Cell.isSpaces_iff_trimmed]
  updatedAt := by
    cases stamp : row.updatedAt with
    | text date =>
      cases found : Stamp.seconds? date <;>
        simp [copied, Content.rebuilt, Cell.rebuiltStamp, stamp, found, Affinity.apply, Int.mul_comm]
    | _ => simp [copied, Content.rebuilt, Cell.rebuiltStamp, stamp, Affinity.apply]
  warningSent := rfl

end PushLedger
