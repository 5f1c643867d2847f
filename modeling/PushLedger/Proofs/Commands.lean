import PushLedger.Command.Run
import PushLedger.Proofs.Folders
import PushLedger.Proofs.Warnings

/-!
# The command and the databases

The command puts a database back at one place only, and only after its arguments, its configuration
and its log have been found in order. Whatever else it does to the disk leaves the databases as they
are: it makes folders, the file of the log, and an empty file where a new database is to be.

Each stage is described by its cases, with what it does to the databases in each of them. The effect
of a whole command is put together from these cases.
-/

namespace PushLedger

namespace Disk

/-- The database that a place holds; an empty one, if it holds none or is nowhere. -/
def held (d : Disk) (place : Option Place) : Database := (place.bind d.database?).getD .empty

namespace KeepsDatabases

variable {d changed : Disk}

/-- If nothing changes, the databases stay. -/
theorem refl (d : Disk) : d.KeepsDatabases d := by
  intro place
  rfl

/-- What leaves the files leaves the databases. -/
theorem of_files (same : ∀ place, changed.file? place = d.file? place) :
    d.KeepsDatabases changed := by
  intro place
  exact database?_congr (same place)

/-- Changes that leave the databases one after another leave them together. -/
theorem trans {last : Disk} (first : d.KeepsDatabases changed)
    (second : changed.KeepsDatabases last) : d.KeepsDatabases last := by
  intro place
  exact (second place).trans (first place)

/-- The same databases are held everywhere. -/
theorem held_eq (keeps : d.KeepsDatabases changed) (place : Option Place) :
    changed.held place = d.held place := by
  cases place with
  | none => rfl
  | some place =>
    rw [held, Option.bind_some, keeps place]
    rfl

end KeepsDatabases

/-- A file that is no database, put where nothing was, leaves the databases. -/
theorem keepsDatabases_put (d : Disk) (place : Place) (content : FileContent)
    (plain : ∀ db, content ≠ .database db) (absent : d.node? place = none) :
    d.KeepsDatabases (d.put place (.file content)) := by
  intro other
  rcases d.file?_put_of_absent (.file content) place rfl absent other with same | ⟨added, nothing⟩
  · exact database?_congr same
  · rw [database?, added, database?, nothing]
    cases content with
    | database db => exact absurd rfl (plain db)
    | text text => rfl
    | log lines => rfl

/-- What a file is taken for is the database that its place holds. -/
theorem held_of_databaseOf (d : Disk) (place : Place) (content : FileContent) (db : Database)
    (file : d.file? place = some content) (taken : databaseOf content = .ok db) :
    d.held (some place) = db := by
  rw [held, Option.bind_some, database?, file]
  cases content with
  | database kept => exact Except.ok.inj taken
  | text text =>
    rw [databaseOf] at taken
    split at taken
    · exact Except.ok.inj taken
    · cases taken
  | log lines =>
    rw [databaseOf] at taken
    split at taken
    · exact Except.ok.inj taken
    · cases taken

/-- Reaching for a database leads nowhere, or to a file that was there or is new and empty. -/
theorem reach_cases {d reached : Disk} {working : Place} {text : String} {reach : Reach}
    (done : d.reach working text = .ok (reached, reach)) :
    (reached = d ∧ reach.place = none ∧ reach.database = .ok .empty) ∨
    ∃ place content, d.KeepsDatabases reached ∧ reach.place = some place ∧
      reached.file? place = some content ∧
      ∀ db, reach.database = .ok db → databaseOf content = .ok db := by
  unfold Disk.reach at done
  obtain ⟨location, _, located⟩ := (bind_eq_ok_iff _ _ _).mp done
  dsimp only at located
  split at located
  · obtain ⟨rfl, rfl⟩ := Prod.mk.inj (Except.ok.inj located)
    exact .inl ⟨rfl, rfl, rfl⟩
  · right
    have unlocked {locked : Bool} {content : FileContent} (db : Database)
        (taken : (if locked = true then .error .unreadable else databaseOf content) = .ok db) :
        databaseOf content = .ok db := by
      split at taken
      · exact nomatch taken
      · exact taken
    split at located
    · rename_i trail found
      obtain ⟨faithful, below⟩ := faithful_databaseTrail found
      have looked := faithful.node?_place
      split at located
      · exact nomatch located
      · split at located
        · split at located <;> exact nomatch located
        · rename_i content reachedFile
          obtain ⟨rfl, rfl⟩ := Prod.mk.inj (Except.ok.inj located)
          refine ⟨trail.place, content, .refl _, rfl, ?_, unlocked⟩
          rw [file?, looked, reachedFile]
          rfl
        · rename_i missing
          split at located
          · rename_i permitted
            obtain ⟨rfl, rfl⟩ := Prod.mk.inj (Except.ok.inj located)
            have parent := (Bool.and_eq_true_iff.mp permitted).2
            refine ⟨trail.place, .text "", ?_, rfl, faithful.file?_put below parent (.text ""),
              unlocked⟩
            exact d.keepsDatabases_put trail.place (.text "") (by simp) (looked.trans missing)
          · exact nomatch located
    · exact nomatch located

/-- What is reached is the database that the place held before. All databases stay, and the place
has a file. -/
theorem reach_held {d reached : Disk} {working : Place} {text : String} {reach : Reach}
    (done : d.reach working text = .ok (reached, reach)) :
    d.KeepsDatabases reached ∧ (∀ db, reach.database = .ok db → db = d.held reach.place) ∧
      ∀ place, reach.place = some place → ∃ content, reached.file? place = some content := by
  rcases reach_cases done with ⟨rfl, nowhere, empty⟩ | ⟨place, content, keeps, named, file, taken⟩
  · refine ⟨.refl _, ?_, ?_⟩
    · intro db reads
      rw [nowhere, ← Except.ok.inj (empty.symm.trans reads)]
      rfl
    · intro place named
      exact nomatch nowhere.symm.trans named
  · refine ⟨keeps, ?_, ?_⟩
    · intro db reads
      rw [named, ← keeps.held_eq,
        reached.held_of_databaseOf place content db file (taken db reads)]
    · intro other alsoNamed
      obtain rfl := Option.some.inj (named.symm.trans alsoNamed)
      exact ⟨content, file⟩

end Disk

namespace FileStore

/-- A store is saved at its place, and all other databases stay. -/
theorem database?_save (store : FileStore) (d : Disk)
    (kept : ∀ place, store.place = some place → ∃ content, d.file? place = some content)
    (place : Place) : (store.save d).database? place =
      if store.place = some place then some store.database else d.database? place := by
  unfold save
  split
  · rename_i nowhere
    rw [nowhere, if_neg nofun]
  · rename_i own atOwn
    obtain ⟨content, file⟩ := kept own atOwn
    rw [atOwn]
    by_cases same : own = place
    · subst same
      rw [if_pos rfl]
      exact (Disk.database?_eq_some_iff _ _ _).mpr (d.file?_put_of_file own _ content file)
    · rw [if_neg fun equal => same (Option.some.inj equal)]
      refine Disk.database?_congr ?_
      exact d.file?_put_of_ne _ own rfl (d.bare_of_file own content file) place (Ne.symm same)

/-- An update that succeeds is the update of the database, for it had nothing to write where writes
are refused. -/
theorem update_of_ok (db : Database) (refusal : Option StorageFault)
    (done : (update db refusal).result = .ok ()) : update db refusal = db.update := by
  cases refusal with
  | none => rfl
  | some fault =>
    cases known : db.currentVersion with
    | error unread => simp only [update, known]
    | ok version =>
      by_cases old : version < latestVersion
      · simp [update, known, old] at done
      · simp only [update, known, old, if_false]

/-- Either the store cannot be opened, and all databases stay; or it holds what the opening makes of
the database that its place held, and this one is put back, and all others stay. -/
theorem openAt_cases (d : Disk) (working : Place) (text : String) :
    (∃ fault left events, openAt d working text = (.error fault, left, events) ∧
      d.KeepsDatabases left) ∨
    ∃ store opened events, openAt d working text = (.ok store, opened, events) ∧
      ((d.held store.place).openStore .file).result = .ok () ∧
      store.database = ((d.held store.place).openStore .file).database ∧
      ∀ place, opened.database? place =
        if store.place = some place then some store.database else d.database? place := by
  unfold openAt
  cases reached : d.reach working text with
  | error fault => exact .inl ⟨_, _, _, rfl, .refl _⟩
  | ok changed =>
    obtain ⟨left, reach⟩ := changed
    obtain ⟨keeps, held, kept⟩ := Disk.reach_held reached
    dsimp only
    cases read : reach.database with
    | error fault => exact .inl ⟨_, _, _, rfl, keeps⟩
    | ok db =>
      obtain rfl := held db read
      dsimp only
      cases done : (Database.reported .file (update (d.held reach.place) reach.refusal)).result with
      | error fault => exact .inl ⟨_, _, _, rfl, keeps⟩
      | ok _ =>
        have same := update_of_ok (d.held reach.place) reach.refusal done
        rw [same] at done ⊢
        refine .inr ⟨_, _, _, rfl, done, rfl, ?_⟩
        intro place
        rw [database?_save _ left kept place]
        split
        · rfl
        · exact keeps place

/-- A store is swept as its database is, and this is put back; or the sweep fails, and all databases
stay. Where writes are refused, a sweep that would succeed fails as well. -/
theorem sweep_cases (store : FileStore) (warning expiry : Span) (now : Instant) (d : Disk)
    (saved : ∀ place, store.place = some place → d.database? place = some store.database) :
    (∃ fault swept left, store.sweep warning expiry now d = (swept, left) ∧
      swept.result = .error fault ∧ d.KeepsDatabases left.2) ∨
    ∃ report swept left, store.sweep warning expiry now d = (swept, left) ∧
      swept.result = .ok report ∧ (store.database.sweep warning expiry now).result = .ok report ∧
      ∀ place, left.2.database? place =
        if store.place = some place then some (store.database.sweep warning expiry now).database
        else d.database? place := by
  have kept : ∀ place, store.place = some place → ∃ content, d.file? place = some content := by
    intro place named
    exact ⟨_, (d.database?_eq_some_iff place _).mp (saved place named)⟩
  unfold sweep
  split
  · exact .inl ⟨_, _, _, rfl, rfl, .refl _⟩
  · cases done : (store.database.sweep warning expiry now).result with
    | error fault =>
      refine .inl ⟨_, _, _, rfl, done, ?_⟩
      intro place
      have same : (store.database.sweep warning expiry now).database = store.database :=
        Outcome.transact_database_of_error done
      have settled := database?_save
        { store with database := (store.database.sweep warning expiry now).database } d kept place
      refine settled.trans ?_
      split
      · rename_i named
        rw [same]
        exact (saved place named).symm
      · rfl
    | ok report =>
      refine .inr ⟨_, _, _, rfl, done, rfl, ?_⟩
      intro place
      exact database?_save
        { store with database := (store.database.sweep warning expiry now).database } d kept place

/-- Where writes are not refused, a sweep of the store is one of its database. -/
theorem sweep_of_unrefused (store : FileStore) (warning expiry : Span) (now : Instant) (d : Disk)
    (unrefused : store.refusal = none) :
    (store.sweep warning expiry now d).1 = store.database.sweep warning expiry now := by
  unfold sweep
  rw [unrefused]
  rfl

/-- What comes of a sweep does not depend on the disk to which the database is put back. -/
theorem sweep_outcome (store : FileStore) (warning expiry : Span) (now : Instant) (d other : Disk) :
    (store.sweep warning expiry now d).1 = (store.sweep warning expiry now other).1 := by
  unfold sweep
  split <;> rfl

end FileStore

namespace Logger

variable (logger : Logger) (d : Disk)

/-- Records make the file of the log at most, where nothing was. -/
theorem keepsDatabases_write (elapsed : String) (events : List Event) :
    d.KeepsDatabases (logger.write d elapsed events).2 := by
  unfold write
  split
  · exact .refl _
  · exact .refl _
  · dsimp only
    split
    · exact .refl _
    · split
      · rename_i place located absent
        exact d.keepsDatabases_put place (.log []) (by simp) (Option.isNone_iff_eq_none.mp absent)
      · exact .refl _

/-- Lines are added to the file of the log, unless it is a database. -/
theorem keepsDatabases_flush : d.KeepsDatabases (logger.flush d).2 := by
  unfold flush
  dsimp only
  split
  · exact .refl _
  · rename_i place located
    split
    · exact .refl _
    · rename_i content file
      intro other
      by_cases same : other = place
      · subst same
        rw [Disk.database?, d.file?_put_of_file other _ content file, Disk.database?, file]
        cases content <;> rfl
      · exact Disk.database?_congr
          (d.file?_put_of_ne _ place rfl (d.bare_of_file place content file) other same)

/-- Without a log nothing is flushed. -/
theorem flush_inactive (inactive : logger.active = none) : (logger.flush d).2 = d := by
  simp [flush, place?, inactive]

/-- An attempt to start a log makes folders at most, so all files stay. -/
theorem file?_attempt (settings : LogSettings) (place : Place) :
    (logger.attempt d settings).1.file? place = d.file? place := by
  have made := d.file?_makeFolders settings.directory place
  unfold attempt
  split
  · rename_i fault failed
    rw [failed] at made
    exact made
  · rename_i done
    rw [done] at made
    exact made

/-- Without records nothing is written. -/
theorem write_nothing (elapsed : String) : logger.write d elapsed [] = (logger, d) := by
  unfold write lines
  cases logger.active <;> rfl

/-- Configuring a log makes folders and the file of the log at most. If it fails, the log is as
active as before, and all files stay. -/
theorem configure_keeps (elapsed level directory : String) :
    d.KeepsDatabases (logger.configure d elapsed level directory).2.2 ∧
    ∀ fault, (logger.configure d elapsed level directory).1 = .error fault →
      (logger.configure d elapsed level directory).2.1.active = logger.active ∧
      ∀ place, (logger.configure d elapsed level directory).2.2.file? place = d.file? place := by
  unfold configure
  cases LogPlan.ofRequest logger.active level directory with
  | refuse fault => exact ⟨.refl _, fun _ _ => ⟨rfl, fun _ => rfl⟩⟩
  | keep => exact ⟨.refl _, fun _ _ => ⟨rfl, fun _ => rfl⟩⟩
  | start settings =>
    have files := logger.file?_attempt d settings
    dsimp only
    constructor
    · exact (Disk.KeepsDatabases.of_files files).trans (keepsDatabases_write _ _ elapsed _)
    · intro fault failed
      cases attempted : (logger.attempt d settings).2 with
      | ok started => simp [attempted, LogPlan.settle] at failed
      | error unstarted =>
        simpa only [LogPlan.settle, Except.isOk, Except.toBool, Bool.false_eq_true, if_false,
          write_nothing, true_and] using files

end Logger

namespace Command

/-- The disk that a command leaves once the lines of its log have been brought into the file. -/
def Ending.left (ending : Ending) : Disk := (ending.logger.flush ending.disk).2

/-- The arguments and the configuration are in order, and so is the log, if one is asked for. What
comes to be of the log and the disk is what the command goes on with. -/
structure Ready (arguments : List String) (s : Surroundings) (configuration : Configuration)
    (logger : Logger) (disk : Disk) : Prop where
  parsed : ∃ logDirectory, Arguments.parse arguments = .ok ⟨configuration, logDirectory⟩ ∧
    match logDirectory with
    | none => logger = .idle ∧ disk = s.disk
    | some directory => Logger.idle.configure s.disk s.elapsed Logger.defaultLevel.name directory =
        (.ok (), logger, disk)
  sound : configuration.check = .ok ()

/-- The command stopped before it printed anything, and all files are what they were. -/
structure Ending.Untouched (ending : Ending) (d : Disk) : Prop where
  failed : ending.exitCode = 1
  silent : ending.output = ""
  files : ∀ place, ending.left.file? place = d.file? place

/-- A command that stops without a line leaves the files, if there is no log to be flushed. -/
theorem Ending.untouched_failure (message : String) (d left : Disk) (logger : Logger)
    (inactive : logger.active = none) (files : ∀ place, left.file? place = d.file? place) :
    (Ending.failure [] message left logger).Untouched d where
  failed := rfl
  silent := rfl
  files := by
    have flushed : (Ending.failure [] message left logger).left = left :=
      logger.flush_inactive left inactive
    rw [flushed]
    exact files

/-- If something is not in order, the command stops at once. -/
theorem untouched_of_unready (arguments : List String) (s : Surroundings)
    (unready : ∀ configuration logger disk, ¬ Ready arguments s configuration logger disk) :
    (run arguments s).Untouched s.disk := by
  unfold run
  cases parsed : Arguments.parse arguments with
  | error fault => exact Ending.untouched_failure _ _ _ _ rfl fun _ => rfl
  | ok asked =>
    obtain ⟨configuration, logDirectory⟩ := asked
    dsimp only
    cases checked : configuration.check with
    | error fault => exact Ending.untouched_failure _ _ _ _ rfl fun _ => rfl
    | ok _ =>
      cases logDirectory with
      | none => exact absurd ⟨⟨none, parsed, rfl, rfl⟩, checked⟩ (unready configuration .idle s.disk)
      | some directory =>
        have keeps := Logger.idle.configure_keeps s.disk s.elapsed Logger.defaultLevel.name directory
        dsimp only
        cases configured : Logger.idle.configure s.disk s.elapsed Logger.defaultLevel.name
          directory with
        | mk answer rest =>
          obtain ⟨logger, disk⟩ := rest
          rw [configured] at keeps
          cases answer with
          | error fault =>
            obtain ⟨inactive, files⟩ := keeps.2 fault rfl
            exact Ending.untouched_failure _ _ _ _ inactive files
          | ok _ =>
            exact absurd ⟨⟨some directory, parsed, configured⟩, checked⟩
              (unready configuration logger disk)

namespace Ready

variable {arguments : List String} {s : Surroundings} {configuration : Configuration}
  {logger : Logger} {disk : Disk} (ready : Ready arguments s configuration logger disk)

include ready

/-- If everything is in order, the command goes on to the store. -/
theorem run_eq : run arguments s = sweepStore configuration { s with disk } logger := by
  obtain ⟨⟨logDirectory, parsed, configured⟩, sound⟩ := ready
  cases logDirectory with
  | none =>
    obtain ⟨rfl, rfl⟩ := configured
    simp only [run, parsed, sound]
  | some directory =>
    dsimp only at configured
    simp only [run, parsed, sound, configured]

/-- The log has not touched any database. -/
theorem keeps : s.disk.KeepsDatabases disk := by
  obtain ⟨⟨logDirectory, _, configured⟩, _⟩ := ready
  cases logDirectory with
  | none =>
    obtain ⟨_, rfl⟩ := configured
    exact .refl _
  | some directory =>
    have keeps := (Logger.idle.configure_keeps s.disk s.elapsed Logger.defaultLevel.name directory).1
    dsimp only at configured
    rw [configured] at keeps
    exact keeps

end Ready

/-- Records that are written and then flushed leave the databases. -/
theorem keepsDatabases_log (logger : Logger) (d : Disk) (elapsed : String) (events : List Event) :
    d.KeepsDatabases
      ((logger.write d elapsed events).1.flush (logger.write d elapsed events).2).2 :=
  (logger.keepsDatabases_write d elapsed events).trans (Logger.keepsDatabases_flush _ _)

section Sweeping

variable (configuration : Configuration) (s : Surroundings) (logger : Logger)

/-- If the store cannot be opened, the version is all that is printed, and the databases stay. -/
theorem sweepStore_unopened {fault : LedgerFault} {left : Disk} {events : List Event}
    (failed : FileStore.openAt s.disk s.working configuration.path = (.error fault, left, events)) :
    (sweepStore configuration s logger).exitCode = 1 ∧
      (sweepStore configuration s logger).output = textOf [versionLine] ∧
      left.KeepsDatabases (sweepStore configuration s logger).left := by
  simp only [sweepStore, failed]
  exact ⟨rfl, rfl, keepsDatabases_log logger left s.elapsed events⟩

/-- If the store is opened, it is swept, and what is printed tells of a sweep that succeeded. Beside
the sweep only the log is written. -/
theorem sweepStore_opened {store : FileStore} {opened : Disk} {events : List Event}
    (done : FileStore.openAt s.disk s.working configuration.path = (.ok store, opened, events))
    (saved : ∀ place, store.place = some place →
      opened.database? place = some store.database) :
    (∀ fault, (store.sweep configuration.sweep.warning configuration.sweep.expiry s.now
        opened).1.result = .error fault →
      (sweepStore configuration s logger).exitCode = 1 ∧
      (sweepStore configuration s logger).output = textOf [versionLine] ∧
      opened.KeepsDatabases (sweepStore configuration s logger).left) ∧
    ∀ report, (store.sweep configuration.sweep.warning configuration.sweep.expiry s.now
        opened).1.result = .ok report →
      (store.database.sweep configuration.sweep.warning configuration.sweep.expiry s.now).result =
        .ok report ∧
      (sweepStore configuration s logger).exitCode = 0 ∧
      (sweepStore configuration s logger).output = textOf
        (versionLine :: summaryLine report :: report.targets.map targetLine) ∧
      ∀ place, (sweepStore configuration s logger).left.database? place =
        if store.place = some place then
          some (store.database.sweep configuration.sweep.warning configuration.sweep.expiry
            s.now).database
        else opened.database? place := by
  -- the records of the opening are written before the sweep, to the disk that it meets
  have noted := logger.keepsDatabases_write opened s.elapsed events
  have still : ∀ place, store.place = some place →
      (logger.write opened s.elapsed events).2.database? place = some store.database := by
    intro place named
    exact (noted place).trans (saved place named)
  rw [store.sweep_outcome _ _ _ opened (logger.write opened s.elapsed events).2]
  rcases store.sweep_cases configuration.sweep.warning configuration.sweep.expiry s.now _ still with
    ⟨fault, swept, left, sweeps, failed, keeps⟩ |
      ⟨report, swept, left, sweeps, succeeded, reported, places⟩
  · have written := Logger.keepsDatabases_write (logger.write opened s.elapsed events).1 left.2
      s.elapsed swept.events
    rw [sweeps]
    constructor
    · intro _ _
      simp only [sweepStore, done, sweeps, failed]
      exact ⟨rfl, rfl, ((noted.trans keeps).trans written).trans (Logger.keepsDatabases_flush _ _)⟩
    · intro report succeeded
      exact nomatch failed.symm.trans succeeded
  · have written := Logger.keepsDatabases_write (logger.write opened s.elapsed events).1 left.2
      s.elapsed swept.events
    rw [sweeps]
    constructor
    · intro fault failed
      exact nomatch succeeded.symm.trans failed
    · intro told same
      obtain rfl := Except.ok.inj (succeeded.symm.trans same)
      simp only [sweepStore, done, sweeps, succeeded]
      refine ⟨reported, rfl, rfl, ?_⟩
      intro place
      refine ((written.trans (keepsDatabases_log _ _ _ _)) place).trans ((places place).trans ?_)
      rw [noted place]

end Sweeping

/-- If the arguments, the configuration or the log are not in order, the command fails without a line
and leaves all files. Otherwise it opens the store and sweeps it, and prints the version in any case.
If the store cannot be opened, all databases stay. If it can, the database that its place held is
brought up to date, and swept if that succeeds too; no other database changes. Only then the outcome
of the sweep is printed, and only then the command succeeds. -/
theorem run_effect (arguments : List String) (s : Surroundings) :
    ((∀ configuration logger disk, ¬ Ready arguments s configuration logger disk) →
      (run arguments s).Untouched s.disk) ∧
    ∀ path ages logger disk, Ready arguments s ⟨path, ages⟩ logger disk →
      (∀ fault left events,
        FileStore.openAt disk s.working path = (.error fault, left, events) →
        (run arguments s).exitCode = 1 ∧ (run arguments s).output = textOf [versionLine] ∧
        ∀ place, (run arguments s).left.database? place = s.disk.database? place) ∧
      ∀ store opened events,
        FileStore.openAt disk s.working path = (.ok store, opened, events) →
        ((s.disk.held store.place).openStore .file).result = .ok () ∧
        store.database = ((s.disk.held store.place).openStore .file).database ∧
        (∀ fault,
          (store.sweep ages.warning ages.expiry s.now opened).1.result = .error fault →
          (store.refusal = none →
            (store.database.sweep ages.warning ages.expiry s.now).result = .error fault) ∧
          (run arguments s).exitCode = 1 ∧ (run arguments s).output = textOf [versionLine] ∧
          ∀ place, (run arguments s).left.database? place =
            if store.place = some place then some store.database
            else s.disk.database? place) ∧
        ∀ report,
          (store.sweep ages.warning ages.expiry s.now opened).1.result = .ok report →
          (store.database.sweep ages.warning ages.expiry s.now).result = .ok report ∧
          (run arguments s).exitCode = 0 ∧
          (run arguments s).output = textOf
            (versionLine :: summaryLine report :: report.targets.map targetLine) ∧
          ∀ place, (run arguments s).left.database? place =
            if store.place = some place then
              some (store.database.sweep ages.warning ages.expiry s.now).database
            else s.disk.database? place := by
  constructor
  · exact untouched_of_unready arguments s
  · intro path ages logger disk ready
    have start := ready.keeps
    rw [ready.run_eq]
    rcases FileStore.openAt_cases disk s.working path with
      ⟨fault, left, events, failed, keeps⟩ | ⟨store, opened, events, done, updated, holds, places⟩
    · constructor
      · intro _ other _ _
        obtain ⟨failure, printed, kept⟩ :=
          sweepStore_unopened ⟨path, ages⟩ { s with disk } logger failed
        exact ⟨failure, printed, (start.trans keeps).trans kept⟩
      · intro store opened events done
        exact nomatch failed.symm.trans done
    · constructor
      · intro fault left events failed
        exact nomatch done.symm.trans failed
      · intro other again records same
        obtain ⟨rfl, rfl, rfl⟩ : store = other ∧ opened = again ∧ events = records := by
          simpa [done] using same
        have found := start.held_eq store.place
        rw [found] at updated holds
        have saved : ∀ place, store.place = some place →
            opened.database? place = some store.database := by
          intro place named
          rw [places place, if_pos named]
        obtain ⟨fails, succeeds⟩ :=
          sweepStore_opened ⟨path, ages⟩ { s with disk } logger done saved
        refine ⟨updated, holds, ?_, ?_⟩
        · intro fault failed
          obtain ⟨failure, printed, kept⟩ := fails fault failed
          refine ⟨?_, failure, printed, ?_⟩
          · intro unrefused
            rw [← store.sweep_of_unrefused _ _ _ opened unrefused]
            exact failed
          · intro place
            rw [kept place, places place, start place]
        · intro report succeeded
          obtain ⟨reported, success, printed, put⟩ := succeeds report succeeded
          refine ⟨reported, success, printed, ?_⟩
          intro place
          rw [put place]
          split
          · rfl
          · rename_i elsewhere
            rw [places place, if_neg elsewhere, start place]

namespace Errand

/-- The folder with the store and another database. -/
def files : Disk := ⟨[("data", .folder
  [("store.db", .file (.database (Resubscription.session 1 1).database)),
    ("other.db", .file (.database .empty))])]⟩

/-- The files, the root as working folder, and a reading one second after the epoch. -/
def surroundings : Surroundings := ⟨files, [], .ofMillis 1000, "0"⟩

/-- A log is asked for, warnings after a second, and expiry after another one. -/
def arguments : List String := ["--log-dir", "/log", "/data/store.db", "1", "2"]

/-- What the arguments ask for. -/
def configuration : Configuration := ⟨"/data/store.db", ⟨1, 2⟩⟩

/-- The log as it is configured, with the disk. -/
def configured : Logger × Disk :=
  (Logger.idle.configure files "0" Logger.defaultLevel.name "/log").2

/-- The store. -/
def store : FileStore := ⟨(Resubscription.session 1 1).database, some ["data", "store.db"], none⟩

/-- The outcome of the sweep. -/
def report : SweepOutcome := ⟨0, 1, [⟨"https://push.example/a", "auth", "p256dh", some "ann"⟩]⟩

/-- The arguments, the configuration and the log are in order. -/
theorem ready : Ready arguments surroundings configuration configured.1 configured.2 where
  parsed := ⟨some "/log", by decide +kernel, Prod.ext (by decide +kernel) rfl⟩
  sound := by decide +kernel

/-- The store is swept and reported, and the other database is left. With the ages in the wrong order
nothing happens at all. -/
theorem errand_done :
    (run arguments surroundings).exitCode = 0 ∧
    (run arguments surroundings).output =
      "webpush_core version=0.1.0\nsweep expired_rows=0 warned_rows=1 targets=1\n" ++
        "warn endpoint=https://push.example/a user_id=ann\n" ∧
    (run arguments surroundings).left.database? ["data", "store.db"] =
      some (store.database.sweep (.ofSeconds 1) (.ofSeconds 2) (.ofMillis 1000)).database ∧
    (run arguments surroundings).left.database? ["data", "other.db"] = some .empty ∧
    (run ["/data/store.db", "2", "1"] surroundings).Untouched files := by
  obtain ⟨_, goesOn⟩ := run_effect arguments surroundings
  obtain ⟨stops, _⟩ := run_effect ["/data/store.db", "2", "1"] surroundings
  obtain ⟨_, opens⟩ := goesOn "/data/store.db" ⟨1, 2⟩ configured.1 configured.2 ready
  have opened : (FileStore.openAt configured.2 [] "/data/store.db").1 = .ok store := by
    decide +kernel
  obtain ⟨_, _, _, succeeds⟩ := opens store _ _ (Prod.ext opened rfl)
  have swept (d : Disk) : (store.sweep (.ofSeconds 1) (.ofSeconds 2) (.ofMillis 1000) d).1.result =
      .ok report := by
    rw [store.sweep_outcome _ _ _ d .empty]
    decide +kernel
  obtain ⟨_, success, printed, places⟩ := succeeds report (swept _)
  have literal : textOf (versionLine :: summaryLine report :: report.targets.map targetLine) =
      "webpush_core version=0.1.0\nsweep expired_rows=0 warned_rows=1 targets=1\n" ++
        "warn endpoint=https://push.example/a user_id=ann\n" := by
    decide +kernel
  refine ⟨success, printed.trans literal, (places _).trans (if_pos rfl), ?_, stops ?_⟩
  · refine (places _).trans ((if_neg ?_).trans ?_)
    · decide
    · decide +kernel
  · rintro other logger disk ⟨⟨directory, parsed, _⟩, sound⟩
    have asked : Arguments.parse ["/data/store.db", "2", "1"] =
        .ok ⟨⟨"/data/store.db", ⟨2, 1⟩⟩, none⟩ := by
      decide +kernel
    obtain ⟨rfl, _⟩ := Arguments.mk.inj (Except.ok.inj (asked.symm.trans parsed))
    exact nomatch sound

end Errand

end Command
end PushLedger
