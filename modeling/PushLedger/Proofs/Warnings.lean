import PushLedger.Proofs.Invariants

/-!
# No warning twice

A sweep sets the flags of the rows that are due and hands out their targets. Over the whole life of
a session, whatever its stores do and however its clock moves, no row is flagged twice: a flag that
is set stays set, and the id of a row that is gone is not given to another. The latter rests on the
counter of ids, so it says nothing of ids that stood above the counter from the start.

If the rows of each endpoint agree at the start, no endpoint is announced twice either, unless a
request to subscribe it was carried out in between, and a sweep that announces it names one target
for it.
-/

namespace PushLedger

namespace Table

/-- The id is spent: it is at most the counter, so no new row will get it, and the row that has it,
if there is one, is warned. -/
def Spent (t : Table) (id : Int) : Prop :=
  id ≤ t.counter ∧ ∀ row ∈ t.rows, row.id = id → row.IsWarned

/-- The endpoint is told: all of its rows are warned. -/
def Told (t : Table) (endpoint : String) : Prop :=
  ∀ row ∈ t.rows, row.endpoint = .text endpoint → row.IsWarned

end Table

namespace Transition

/-- The transition is a sweep that sets the flag of this row. -/
def Flips (x : Transition) (row : Row) : Prop :=
  x.IsSweep ∧ row ∈ x.before.rows ∧ ¬ row.IsWarned ∧ row.warned ∈ x.after.rows

/-- The transition hands out a target of the endpoint. -/
def Announces (x : Transition) (endpoint : String) : Prop :=
  ∃ target ∈ x.targets, target.endpoint = endpoint

section Changes

variable {x : Transition} {t changed : Table} (change : x.Changes t changed)

include change

/-- A sweep that sets the flag of a row hands out the target of that row. -/
theorem Changes.target_of_flip (serves : x.before.Serves t) (stillServes : x.after.Serves changed)
    (keyed : t.Keyed) (row : Row) (flips : x.Flips row) :
    ∃ target ∈ x.targets, Address.ofRow row = target.address := by
  obtain ⟨⟨warning, expiry, sweeps⟩, present, unwarned, flagged⟩ := flips
  rw [serves.rows_eq] at present
  rw [stillServes.rows_eq] at flagged
  rcases change.origin serves.current row.warned flagged with
    old | ⟨old, oldMember, same, handedOut⟩ | ⟨_, _, ⟨_, upserts, _⟩, _⟩
  · have same : row.warned = row := keyed.unique row.warned row old present rfl
    exact absurd (same ▸ row.isWarned_warned) unwarned
  · have sameId : old.id = row.id := (congrArg Row.id same).symm
    exact keyed.unique old row oldMember present sameId ▸ handedOut
  · rw [sweeps] at upserts
    exact nomatch upserts

/-- An id that is spent stays so: its row keeps its flag, and fresh rows lie above the counter. -/
theorem Changes.spent (current : t.Current) (id : Int) (spent : t.Spent id) :
    changed.Spent id := by
  obtain ⟨counted, warned⟩ := spent
  refine ⟨Int.le_trans counted (change.counter_le current), ?_⟩
  intro row member same
  rcases change.origin current row member with old | ⟨old, _, rfl, _⟩ | ⟨above, _⟩
  · exact warned row old same
  · exact old.isWarned_warned
  · omega

/-- A sweep that sets the flag of a row spends its id, unless the id lies above the counter. -/
theorem Changes.spent_of_flip (serves : x.before.Serves t) (stillServes : x.after.Serves changed)
    (keyed : t.Keyed) (row : Row) (counted : ∀ other ∈ t.rows, other.id = row.id →
      row.id ≤ t.counter) (flips : x.Flips row) : changed.Spent row.id := by
  obtain ⟨_, present, _, flagged⟩ := flips
  rw [serves.rows_eq] at present
  rw [stillServes.rows_eq] at flagged
  have below : row.id ≤ t.counter := counted row present rfl
  refine ⟨Int.le_trans below (change.counter_le serves.current), ?_⟩
  intro other member same
  have stillKeyed : changed.Keyed := change.keyed serves.current keyed
  exact stillKeyed.unique other row.warned member flagged same ▸ row.isWarned_warned

/-- An endpoint that is told stays so as long as no request to subscribe it is carried out. -/
theorem Changes.told (current : t.Current) (endpoint : String) (told : t.Told endpoint)
    (unrenewed : ¬ x.Renews endpoint) : changed.Told endpoint := by
  intro row member named
  rcases change.origin current row member with
    old | ⟨old, _, rfl, _⟩ | ⟨_, request, renews, fresh⟩
  · exact told row old named
  · exact old.isWarned_warned
  · obtain ⟨topic, _, content⟩ := List.mem_map.mp fresh
    have renewed : Cell.text request.endpoint = .text endpoint :=
      (congrArg Content.endpoint content).trans named
    exact absurd (Cell.text.inj renewed ▸ renews) unrenewed

/-- A target is handed out by a sweep that succeeded, for a row that is due. -/
theorem Changes.due_of_target (target : PushTarget) (announced : target ∈ x.targets) :
    ∃ warning expiry, x.operation = .sweep warning expiry ∧
      changed = t.swept (x.now.cutoff expiry) (x.now.cutoff warning) ∧
      ∃ row ∈ t.dueRows (x.now.cutoff expiry) (x.now.cutoff warning),
        Address.ofRow row = target.address := by
  cases change with
  | nothing silent => exact absurd announced (silent ▸ List.not_mem_nil)
  | deleted _ _ silent => exact absurd announced (silent ▸ List.not_mem_nil)
  | replaced _ _ silent => exact absurd announced (silent ▸ List.not_mem_nil)
  | swept warning expiry sweeps spelled =>
    exact ⟨warning, expiry, sweeps, rfl, Table.due_of_target spelled target announced⟩

/-- An endpoint that is told is not announced. -/
theorem Changes.silent_of_told (endpoint : String) (told : t.Told endpoint) :
    ¬ x.Announces endpoint := by
  rintro ⟨target, announced, rfl⟩
  obtain ⟨_, _, _, _, row, due, spelled⟩ := change.due_of_target target announced
  obtain ⟨present, _, unwarned⟩ := (Table.mem_dueRows_iff t _ _ row).mp due
  have warned : row.IsWarned := told row present (congrArg Address.endpoint spelled)
  rw [Row.not_due_of_warned row _ warned] at unwarned
  exact Bool.noConfusion unwarned

/-- A sweep that announces an endpoint whose rows agree flags all of them. -/
theorem Changes.told_of_announced (homogeneous : t.Homogeneous) (endpoint : String)
    (announces : x.Announces endpoint) : changed.Told endpoint := by
  obtain ⟨target, announced, rfl⟩ := announces
  obtain ⟨warning, expiry, _, rfl, row, due, spelled⟩ := change.due_of_target target announced
  obtain ⟨present, _, reached⟩ := (Table.mem_dueRows_iff t _ _ row).mp due
  have named : row.endpoint = .text target.endpoint := congrArg Address.endpoint spelled
  intro other member otherNamed
  obtain ⟨old, oldPresent, _, rfl⟩ := (Table.mem_swept_iff t _ _ other).mp member
  rw [Row.endpoint_swept] at otherNamed
  have agrees := homogeneous row present old oldPresent (named.trans otherNamed.symm)
  rw [old.swept_of_due _ (agrees.isDue_eq _ ▸ reached)]
  exact old.isWarned_warned

/-- If the rows of each endpoint agree, the targets with one endpoint are the same target. -/
theorem Changes.target_unique (homogeneous : t.Homogeneous) (a b : PushTarget)
    (first : a ∈ x.targets) (second : b ∈ x.targets) (same : a.endpoint = b.endpoint) : a = b := by
  obtain ⟨warning, expiry, sweeps, _, rowA, dueA, spelledA⟩ := change.due_of_target a first
  obtain ⟨_, _, again, _, rowB, dueB, spelledB⟩ := change.due_of_target b second
  obtain ⟨presentA, _, _⟩ := (Table.mem_dueRows_iff t _ _ rowA).mp dueA
  obtain ⟨presentB, _, _⟩ := (Table.mem_dueRows_iff t _ _ rowB).mp dueB
  have namedA : rowA.endpoint = .text a.endpoint := congrArg Address.endpoint spelledA
  have namedB : rowB.endpoint = .text b.endpoint := congrArg Address.endpoint spelledB
  have sameEndpoint : rowA.endpoint = rowB.endpoint := by rw [namedA, namedB, same]
  have agrees := homogeneous rowA presentA rowB presentB sameEndpoint
  exact PushTarget.address_injective
    (spelledA.symm.trans ((agrees.address_eq sameEndpoint).trans spelledB))

/-- If the rows of each endpoint agree, an endpoint that is announced is announced by one target. -/
theorem Changes.announced_once (homogeneous : t.Homogeneous) (endpoint : String)
    (announces : x.Announces endpoint) :
    (x.targets.filter fun target => target.endpoint = endpoint).length = 1 := by
  obtain ⟨target, announced, rfl⟩ := announces
  have distinct : (x.targets.filter fun other => other.endpoint = target.endpoint).Nodup := by
    cases change with
    | nothing silent => simp [silent]
    | deleted _ _ silent => simp [silent]
    | replaced _ _ silent => simp [silent]
    | swept _ _ _ spelled => exact (Table.targets_nodup spelled).filter _
  have repeated := List.eq_replicate_of_mem
    (l := x.targets.filter fun other => other.endpoint = target.endpoint) (a := target) <| by
      intro other member
      obtain ⟨given, same⟩ := List.mem_filter.mp member
      exact change.target_unique homogeneous other target given announced (of_decide_eq_true same)
  have atMostOnce : (x.targets.filter fun other => other.endpoint = target.endpoint).length ≤ 1 :=
    List.nodup_replicate.mp (repeated ▸ distinct)
  have atLeastOnce : 0 < (x.targets.filter fun other => other.endpoint = target.endpoint).length :=
    List.length_pos_of_mem (List.mem_filter.mpr ⟨announced, decide_eq_true rfl⟩)
  omega

end Changes

end Transition

section Linked

variable {db : Database} {t : Table} {xs : List Transition} (linked : Linked db xs)
  (serves : db.Serves t)

include linked serves

/-- Every transition of a linked list meets a table that has what all changes preserve. -/
theorem met_of_linked {P : Table → Prop}
    (preserved : ∀ x ∈ xs, ∀ t changed, t.Current → x.Changes t changed → P t → P changed)
    (holds : P t) (x : Transition) (member : x ∈ xs) :
    ∃ met changed, x.before.Serves met ∧ x.after.Serves changed ∧ x.Changes met changed ∧
      P met := by
  obtain ⟨first, last, rfl⟩ := List.append_of_mem member
  have earlier : ∀ y ∈ first, ∀ t changed, t.Current → y.Changes t changed → P t → P changed :=
    fun y early => preserved y (List.mem_append_left _ early)
  obtain ⟨met, stillServes, stillHolds⟩ :=
    linked_invariant first last x earlier db t linked serves holds
  obtain ⟨changed, after, change⟩ := x.changes met stillServes
  exact ⟨met, changed, stillServes, after, change, stillHolds⟩

/-- A row is flagged by at most one transition of a linked list, unless its id was above the counter
at the start. -/
theorem flipped_once (keyed : t.Keyed) (id : Int)
    (counted : ∀ row ∈ t.rows, row.id = id → id ≤ t.counter) (x : Transition)
    (middle : List Transition) (y : Transition) (apart : Between xs x middle y) (row other : Row)
    (flips : x.Flips row) (again : y.Flips other) (same : row.id = id) : other.id ≠ id := by
  intro reused
  obtain ⟨first, last, rfl⟩ := apart
  rw [List.append_assoc, List.cons_append] at linked
  obtain ⟨met, meets, stillKeyed, stillCounted⟩ :=
    linked_invariant (P := fun t => t.Keyed ∧ ∀ row ∈ t.rows, row.id = id → id ≤ t.counter)
      first (middle ++ y :: last) x
      (fun z _ t changed current change holds =>
        ⟨change.keyed current holds.1, change.counted current id holds.2⟩)
      db t linked serves ⟨keyed, counted⟩
  obtain ⟨changed, leaves, change⟩ := x.changes met meets
  -- The invariant changes here: up to `x` the id is counted, and from `x` on it is spent.
  have spent : changed.Spent id := by
    subst same
    exact change.spent_of_flip meets leaves stillKeyed row stillCounted flips
  obtain ⟨late, meetsLate, _, stillWarned⟩ :=
    linked_invariant middle last y (fun z _ t changed current change => change.spent current id)
      x.after changed (linked_after db first _ x linked) leaves spent
  obtain ⟨_, present, unwarned, _⟩ := again
  rw [meetsLate.rows_eq] at present
  exact unwarned (stillWarned other present reused)

/-- Between two announcements of an endpoint a request to subscribe it was carried out, if the rows
of each endpoint agree. -/
theorem announced_once_until_renewed (homogeneous : t.Homogeneous) (endpoint : String)
    (x : Transition) (middle : List Transition) (y : Transition) (apart : Between xs x middle y)
    (announces : x.Announces endpoint) (again : y.Announces endpoint) :
    ∃ z ∈ middle, z.Renews endpoint := by
  by_contra unrenewed
  obtain ⟨first, last, rfl⟩ := apart
  rw [List.append_assoc, List.cons_append] at linked
  obtain ⟨met, meets, stillHomogeneous⟩ :=
    linked_invariant first (middle ++ y :: last) x
      (fun z _ t changed current change => change.homogeneous current) db t linked serves
      homogeneous
  obtain ⟨changed, leaves, change⟩ := x.changes met meets
  -- Only a request for the endpoint could end what holds from `x` on, and there is none.
  obtain ⟨late, meetsLate, stillTold⟩ :=
    linked_invariant middle last y
      (fun z member t changed current change told =>
        change.told current endpoint told fun renews => unrenewed ⟨z, member, renews⟩)
      x.after changed (linked_after db first _ x linked) leaves
      (change.told_of_announced stillHomogeneous endpoint announces)
  obtain ⟨_, _, changeLate⟩ := y.changes late meetsLate
  exact changeLate.silent_of_told endpoint stillTold again

end Linked

namespace Session

/-- Over the whole history of a session no row is flagged twice, as long as its id was not above the
counter at the start, and each sweep that flags a row hands out its target. If the rows of each
endpoint agree at the start, an endpoint is announced again only after a request to subscribe it was
carried out, and each sweep that announces it names one target for it. -/
theorem warned_at_most_once (s : Session) (t : Table) (steps : List Step)
    (serves : s.database.Serves t) (keyed : t.Keyed) (own : ∀ step ∈ steps, step.IsOwn) :
    (∀ id, (∀ row ∈ t.rows, row.id = id → id ≤ t.counter) →
      ∀ x middle y, Between (s.history steps) x middle y →
        ∀ row other, x.Flips row → y.Flips other → row.id = id → other.id ≠ id) ∧
    (∀ x ∈ s.history steps, ∀ row, x.Flips row →
      ∃ target ∈ x.targets, Address.ofRow row = target.address) ∧
    (t.Homogeneous → ∀ endpoint,
      (∀ x middle y, Between (s.history steps) x middle y →
        x.Announces endpoint → y.Announces endpoint → ∃ z ∈ middle, z.Renews endpoint) ∧
      ∀ x ∈ s.history steps, x.Announces endpoint →
        (x.targets.filter fun target => target.endpoint = endpoint).length = 1) := by
  have linked : Linked s.database (s.history steps) := linked_history s t steps serves own
  refine ⟨fun id counted => flipped_once linked serves keyed id counted, ?_, ?_⟩
  · intro x member row flips
    obtain ⟨met, changed, meets, leaves, change, stillKeyed⟩ :=
      met_of_linked linked serves (fun y _ t changed current change => change.keyed current)
        keyed x member
    exact change.target_of_flip meets leaves stillKeyed row flips
  · intro homogeneous endpoint
    refine ⟨announced_once_until_renewed linked serves homogeneous endpoint, ?_⟩
    intro x member announces
    obtain ⟨met, changed, _, _, change, stillHomogeneous⟩ :=
      met_of_linked linked serves (fun y _ t changed current change => change.homogeneous current)
        homogeneous x member
    exact change.announced_once stillHomogeneous endpoint announces

end Session

/-! A store that meets one row sweeps, subscribes the endpoint of the row again and sweeps again.
The id of the row is a parameter, and so is the counter of ids: another program may have altered
the id, and then the counter has stayed behind. -/

namespace Resubscription

/-- The request to subscribe again. -/
def draft : NewSubscription.Draft :=
  ⟨"https://push.example/a", ["news"], some "ann", "auth", "p256dh"⟩

/-- The row that the store meets. -/
def row (id : Int) : Row where
  topic := .text "news"
  userId := .text "ann"
  endpoint := .text "https://push.example/a"
  keyAuth := .text "auth"
  keyP256dh := .text "p256dh"
  updatedAt := .integer 0
  warningSent := .integer 0
  id := id

/-- The table with the row. -/
def table (id : Int) (counter : Nat) : Table := ⟨.epoch, true, [row id], counter, none⟩

/-- The session that starts from the table, with a clock that is not moved. -/
def session (id : Int) (counter : Nat) : Session :=
  Session.start (Database.fresh.withTable (table id counter)) .epoch .epoch

/-- A sweep that warns at once. -/
def sweep : Operation := .sweep ⟨0⟩ ⟨1000000⟩

/-- What the store does. -/
def steps : List Step :=
  [.openShared 0, .operate 0 sweep, .operate 0 (.upsert draft), .operate 0 sweep]

section Transitions

variable (id : Int) (counter : Nat)

/-- The first sweep. -/
def first : Transition := ⟨(session id counter).database, .epoch, sweep⟩

/-- The request. -/
def second : Transition := ⟨(first id counter).after, .epoch, .upsert draft⟩

/-- The second sweep. -/
def third : Transition := ⟨(second id counter).after, .epoch, sweep⟩

/-- No update is due to the database of the session, and there is no guard. -/
theorem serves : (session id counter).database.Serves (table id counter) :=
  Database.serves_fresh.withTable ⟨rfl, rfl⟩

/-- These are the transitions of the session. -/
theorem history_eq : (session id counter).history steps =
    [first id counter, second id counter, third id counter] := by
  rw [steps, Session.history_openShared _ _ _ Database.latest_fresh,
    Session.history_operate _ _ _ _ rfl, Session.history_operate _ _ _ _ rfl,
    Session.history_operate _ _ _ _ rfl]
  rfl

/-- One row has an id of its own. -/
theorem keyed : (table id counter).Keyed := List.nodup_singleton id

/-- One row agrees with itself. -/
theorem homogeneous : (table id counter).Homogeneous := by
  intro a firstMember b secondMember _
  obtain rfl := List.mem_singleton.mp firstMember
  obtain rfl := List.mem_singleton.mp secondMember
  exact ⟨rfl, rfl, rfl, rfl, rfl⟩

/-- No other program acts. -/
theorem steps_own : ∀ step ∈ steps, step.IsOwn := by
  simp [steps, Step.IsOwn]

/-- The request comes between the sweeps. -/
theorem between : Between ((session id counter).history steps) (first id counter)
    [second id counter] (third id counter) := ⟨[], [], history_eq id counter⟩

end Transitions

/-- If the counter has kept up with the id, the first sweep flags the row and hands out its target.
The second one flags a row of another id, and its notice is owed to the request in between. -/
theorem notices_of_counted_row :
    (session 1 1).database.Serves (table 1 1) ∧ (table 1 1).Keyed ∧
    (∀ step ∈ steps, step.IsOwn) ∧ (table 1 1).Homogeneous ∧
    (first 1 1).Flips (row 1) ∧
    (∃ target ∈ (first 1 1).targets, Address.ofRow (row 1) = target.address) ∧
    (∀ other, (third 1 1).Flips other → other.id ≠ 1) ∧
    (∃ z ∈ [second 1 1], z.Renews draft.endpoint) ∧
    ((third 1 1).targets.filter fun target => target.endpoint = draft.endpoint).length = 1 := by
  have flips : (first 1 1).Flips (row 1) :=
    ⟨⟨_, _, rfl⟩, by decide +kernel, nofun, by decide +kernel⟩
  have announces : (first 1 1).Announces draft.endpoint := by
    unfold Transition.Announces
    decide +kernel
  have again : (third 1 1).Announces draft.endpoint := by
    unfold Transition.Announces
    decide +kernel
  have counted : ∀ row ∈ (table 1 1).rows, row.id = 1 → (1 : Int) ≤ (table 1 1).counter :=
    fun _ _ _ => Int.le_refl 1
  obtain ⟨once, handedOut, agreeing⟩ := Session.warned_at_most_once (session 1 1) (table 1 1) steps
    (serves 1 1) (keyed 1 1) steps_own
  obtain ⟨renewed, single⟩ := agreeing (homogeneous 1 1) draft.endpoint
  refine ⟨serves 1 1, keyed 1 1, steps_own, homogeneous 1 1, flips, ?_, ?_, ?_, ?_⟩
  · exact handedOut (first 1 1) (history_eq 1 1 ▸ List.mem_cons_self) (row 1) flips
  · exact fun other flipped => once 1 counted _ _ _ (between 1 1) (row 1) other flips flipped rfl
  · exact renewed _ _ _ (between 1 1) announces again
  · exact single (third 1 1) (by rw [history_eq]; simp) again

/-- If the counter has stayed behind the id, the fresh row of the request gets the same id, and the
second sweep flags it again: two sweeps flag a row of one id. -/
theorem id_flagged_twice :
    (session 2 1).database.Serves (table 2 1) ∧ (table 2 1).Keyed ∧
    (∀ row ∈ (table 2 1).rows, row.warningSent = .integer 0 ∨ row.warningSent = .integer 1) ∧
    (∀ step ∈ steps, step.IsOwn) ∧
    ¬ ∀ x middle y, Between ((session 2 1).history steps) x middle y →
      ∀ row other, x.Flips row → y.Flips other → other.id ≠ row.id := by
  refine ⟨serves 2 1, keyed 2 1, by decide, steps_own, ?_⟩
  intro once
  have flips : (first 2 1).Flips (row 2) :=
    ⟨⟨_, _, rfl⟩, by decide +kernel, nofun, by decide +kernel⟩
  have flipsAgain : (third 2 1).Flips (row 2) :=
    ⟨⟨_, _, rfl⟩, by decide +kernel, nofun, by decide +kernel⟩
  exact once _ _ _ (between 2 1) (row 2) (row 2) flips flipsAgain rfl

end Resubscription

end PushLedger
