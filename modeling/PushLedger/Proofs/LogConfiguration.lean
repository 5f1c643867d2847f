import PushLedger.Proofs.Commands

/-!
# One configuration of the log

A process can ask for its log as often as it likes. The first request that succeeds settles the level
and the directory, and no later one can change them: it either asks for the same and is accepted, or is
refused. What an attempt to start the log meets, on the disk and in the process, is left open here, and
so attempts may fail any number of times before one of them succeeds.
-/

namespace PushLedger

namespace LogSettings

variable {level directory : String} {known : LogLevel}

/-- A level that nobody knows is refused before the directory is looked at. -/
theorem ofText_unknown (unknown : LogLevel.ofSpelling? (LogLevel.normalSpelling level) = none) :
    ofText level directory = .error (.unsupportedLevel (LogLevel.normalSpelling level)) := by
  simp only [ofText, unknown]

section Known

variable (knows : LogLevel.ofSpelling? (LogLevel.normalSpelling level) = some known)

include knows

/-- An empty directory is refused as such. -/
theorem ofText_empty (empty : directory = "") :
    ofText level directory = .error .emptyDirectory := by
  subst empty
  simp only [ofText, knows]
  rfl

/-- A directory that does not start at the root is refused as such. -/
theorem ofText_relative (filled : directory ≠ "") (relative : Path.isAbsolute directory = false) :
    ofText level directory = .error (.relativeDirectory directory) := by
  simp [ofText, knows, filled, relative]

/-- A directory that starts at the root is taken as it is. -/
theorem ofText_absolute (absolute : Path.isAbsolute directory = true) :
    ofText level directory = .ok ⟨known, directory⟩ := by
  have filled : directory ≠ "" := by
    rintro rfl
    exact absurd absolute (by decide)
  simp [ofText, knows, filled, absolute]

end Known

/-- The settings that a text asks for have its level and its directory. -/
theorem ofText_ok_iff (requested : LogSettings) : ofText level directory = .ok requested ↔
    LogLevel.ofSpelling? (LogLevel.normalSpelling level) = some requested.level ∧
      directory = requested.directory ∧ Path.isAbsolute directory = true := by
  constructor
  · intro asked
    cases knows : LogLevel.ofSpelling? (LogLevel.normalSpelling level) with
    | none => exact nomatch (ofText_unknown knows).symm.trans asked
    | some known =>
      cases absolute : Path.isAbsolute directory with
      | true =>
        obtain rfl := Except.ok.inj ((ofText_absolute knows absolute).symm.trans asked)
        exact ⟨rfl, rfl, rfl⟩
      | false =>
        by_cases empty : directory = ""
        · exact nomatch (ofText_empty knows empty).symm.trans asked
        · exact nomatch (ofText_relative knows empty absolute).symm.trans asked
  · rintro ⟨knows, rfl, absolute⟩
    exact ofText_absolute knows absolute

end LogSettings

namespace Logger

/-- Configures the log of a process, where `attempt` says what an attempt to start it comes to. -/
def configureWith (attempt : Logger → Disk → LogSettings → Disk × Except LoggingFault Unit)
    (logger : Logger) (disk : Disk) (elapsed level directory : String) :
    Except LoggingFault Unit × Logger × Disk :=
  match LogPlan.ofRequest logger.active level directory with
  | .start settings =>
      let (disk, attempted) := attempt logger disk settings
      let (answer, active) := (LogPlan.start settings).settle logger.active attempted
      let logger := { logger with active }
      let started := if attempted.isOk then [Event.loggingStarted settings.level settings.directory]
        else []
      (answer, logger.write disk elapsed started)
  | plan =>
      let (answer, active) := plan.settle logger.active (.ok ())
      (answer, { logger with active }, disk)

/-- Records that are taken up do not change the settings. -/
theorem write_active (logger : Logger) (disk : Disk) (elapsed : String) (events : List Event) :
    (logger.write disk elapsed events).1.active = logger.active := by
  unfold write
  split <;> rfl

/-- A request for the log. -/
structure Request where
  level : String
  directory : String
  /-- How long the attempt takes, for the record of it. -/
  elapsed : String
  /-- What the attempt comes to, should it be made, and the disk that it leaves. -/
  attempt : Logger → Disk → LogSettings → Disk × Except LoggingFault Unit

namespace Request

/-- What the request is answered, and the log and the disk that it leaves. -/
def run (r : Request) (state : Logger × Disk) : Except LoggingFault Unit × Logger × Disk :=
  state.1.configureWith r.attempt state.2 r.elapsed r.level r.directory

/-- With the attempt that a process makes, a request is how it configures its log. -/
theorem run_attempt (state : Logger × Disk) (level directory elapsed : String) :
    run ⟨level, directory, elapsed, Logger.attempt⟩ state =
      state.1.configure state.2 elapsed level directory := rfl

/-- The level that the request names, if it names one. -/
def level? (r : Request) : Option LogLevel :=
  LogLevel.ofSpelling? (LogLevel.normalSpelling r.level)

variable {r : Request} {state : Logger × Disk} {requested : LogSettings}

/-- A request that means no settings is refused and does nothing else. -/
theorem run_unsound {fault : LoggingFault}
    (unsound : LogSettings.ofText r.level r.directory = .error fault) :
    r.run state = (.error fault, state) := by
  simp only [run, configureWith, LogPlan.ofRequest, unsound, LogPlan.settle]

section Sound

variable (sound : LogSettings.ofText r.level r.directory = .ok requested)

include sound

/-- Once a log is active, a request is compared with it and does nothing else. -/
theorem run_active {active : LogSettings} (running : state.1.active = some active) :
    r.run state = ((active.conflict? requested).elim (.ok ()) .error, state) := by
  have same : { state.1 with active := some active } = state.1 := by rw [← running]
  cases conflict : active.conflict? requested
  all_goals
    simp only [run, configureWith, LogPlan.ofRequest, sound, running, conflict, LogPlan.settle, same]
    rfl

/-- Until a log is active, a request is answered what the attempt comes to. If that fails, the log is
as it was. -/
theorem run_idle (idle : state.1.active = none) :
    (r.run state).1 = (r.attempt state.1 state.2 requested).2 ∧
    ((r.run state).1 = .ok () → (r.run state).2.1.active = some requested) ∧
    ∀ fault, (r.run state).1 = .error fault → (r.run state).2.1 = state.1 := by
  have same : { state.1 with active := none } = state.1 := by rw [← idle]
  simp only [run, configureWith, LogPlan.ofRequest, sound, idle]
  cases (r.attempt state.1 state.2 requested).2 with
  | ok _ => exact ⟨rfl, fun _ => write_active _ _ _ _, nofun⟩
  | error fault =>
    refine ⟨rfl, nofun, fun _ _ => ?_⟩
    simp only [LogPlan.settle, Except.isOk, Except.toBool, Bool.false_eq_true, if_false,
      write_nothing, same]

end Sound

/-- How a request is answered in a state, and what it changes. -/
structure Meets (r : Request) (state : Logger × Disk) : Prop where
  /-- In every state a level that nobody knows is refused. -/
  unknownLevel : r.level? = none →
    r.run state = (.error (.unsupportedLevel (LogLevel.normalSpelling r.level)), state)
  emptyDirectory : ∀ level, r.level? = some level → r.directory = "" →
    r.run state = (.error .emptyDirectory, state)
  relativeDirectory : ∀ level, r.level? = some level → r.directory ≠ "" →
    Path.isAbsolute r.directory = false →
    r.run state = (.error (.relativeDirectory r.directory), state)
  /-- Until a log is active, the answer to any other request is what the attempt comes to. -/
  attempted : state.1.active = none → ∀ level, r.level? = some level →
    Path.isAbsolute r.directory = true →
    (r.run state).1 = (r.attempt state.1 state.2 ⟨level, r.directory⟩).2
  /-- No request that fails touches the log. -/
  failed : ∀ fault, (r.run state).1 = .error fault → (r.run state).2.1 = state.1
  /-- Once a log is active, no request touches the log or the disk. -/
  settled : ∀ active, state.1.active = some active → (r.run state).2 = state
  accepted_iff : ∀ active, state.1.active = some active →
    ((r.run state).1 = .ok () ↔ r.level? = some active.level ∧
      Path.isAbsolute r.directory = true ∧ Path.same active.directory r.directory = true)
  otherDirectory : ∀ active, state.1.active = some active → ∀ level, r.level? = some level →
    Path.isAbsolute r.directory = true → Path.same active.directory r.directory = false →
    (r.run state).1 = .error (.conflict active.directory r.directory)
  otherLevel : ∀ active, state.1.active = some active → ∀ level, r.level? = some level →
    Path.isAbsolute r.directory = true → Path.same active.directory r.directory = true →
    level ≠ active.level → (r.run state).1 = .error (.conflict active.level.name level.name)

/-- This is how every request is answered in every state. -/
theorem meets (r : Request) (state : Logger × Disk) : r.Meets state where
  unknownLevel := fun unknown => run_unsound (LogSettings.ofText_unknown unknown)
  emptyDirectory := fun _ knows empty => run_unsound (LogSettings.ofText_empty knows empty)
  relativeDirectory := fun _ knows filled relative =>
    run_unsound (LogSettings.ofText_relative knows filled relative)
  attempted := fun idle _ knows absolute =>
    (run_idle (LogSettings.ofText_absolute knows absolute) idle).1
  failed := by
    intro fault refused
    cases asked : LogSettings.ofText r.level r.directory with
    | error cause => rw [run_unsound asked]
    | ok requested =>
      cases active : state.1.active with
      | none => exact (run_idle asked active).2.2 fault refused
      | some settings => rw [run_active asked active]
  settled := by
    intro settings active
    cases asked : LogSettings.ofText r.level r.directory with
    | error cause => rw [run_unsound asked]
    | ok requested => rw [run_active asked active]
  accepted_iff := by
    intro settings active
    cases asked : LogSettings.ofText r.level r.directory with
    | error cause =>
      rw [run_unsound asked]
      refine iff_of_false nofun ?_
      rintro ⟨knows, absolute, _⟩
      exact nomatch (LogSettings.ofText_absolute knows absolute).symm.trans asked
    | ok requested =>
      obtain ⟨knows, named, absolute⟩ := (LogSettings.ofText_ok_iff requested).mp asked
      rw [run_active asked active, level?, knows, named]
      rw [named] at absolute
      cases alike : Path.same settings.directory requested.directory with
      | false => simp [LogSettings.conflict?, alike]
      | true =>
        by_cases level : settings.level = requested.level
        · simp [LogSettings.conflict?, alike, level, absolute]
        · simp [LogSettings.conflict?, alike, level, Ne.symm level]
  otherDirectory := by
    intro settings active level knows absolute apart
    rw [run_active (LogSettings.ofText_absolute knows absolute) active]
    simp [LogSettings.conflict?, apart]
  otherLevel := by
    intro settings active level knows absolute alike apart
    rw [run_active (LogSettings.ofText_absolute knows absolute) active]
    simp [LogSettings.conflict?, alike, Ne.symm apart]

/-- A request that is accepted while no log is active settles its level and its directory. -/
theorem run_accepted (idle : state.1.active = none) (accepted : (r.run state).1 = .ok ()) :
    ∃ level, r.level? = some level ∧ (r.run state).2.1.active = some ⟨level, r.directory⟩ := by
  cases asked : LogSettings.ofText r.level r.directory with
  | error cause => exact nomatch (congrArg Prod.fst (run_unsound asked)).symm.trans accepted
  | ok requested =>
    obtain ⟨knows, named, _⟩ := (LogSettings.ofText_ok_iff requested).mp asked
    refine ⟨requested.level, knows, ?_⟩
    rw [named]
    exact (run_idle asked idle).2.1 accepted

end Request

/-- The log and the disk after a list of requests. -/
def after (start : Logger × Disk) (requests : List Request) : Logger × Disk :=
  requests.foldl (fun state r => (r.run state).2) start

/-- The first request of a list that is accepted. -/
def firstAccepted? (start : Logger × Disk) : List Request → Option Request
  | [] => none
  | r :: rest =>
      match (r.run start).1 with
      | .ok _ => some r
      | .error _ => firstAccepted? (r.run start).2 rest

/-- Once a log is active, requests have no effect. -/
theorem after_settled (state : Logger × Disk) (active : LogSettings)
    (running : state.1.active = some active) (requests : List Request) :
    after state requests = state := by
  induction requests with
  | nil => rfl
  | cons r rest inductionHypothesis =>
    have settled : (r.run state).2 = state := (r.meets state).settled active running
    rw [after, List.foldl_cons, settled]
    exact inductionHypothesis

/-- A process without a log has one as soon as a request has been accepted, and with the settings of
the first such request. -/
theorem after_idle (start : Logger × Disk) (idle : start.1.active = none) (requests : List Request) :
    (firstAccepted? start requests = none ∧ (after start requests).1.active = none) ∨
    ∃ first level, firstAccepted? start requests = some first ∧ first.level? = some level ∧
      (after start requests).1.active = some ⟨level, first.directory⟩ := by
  induction requests generalizing start with
  | nil => exact .inl ⟨rfl, idle⟩
  | cons r rest inductionHypothesis =>
    have next : after start (r :: rest) = after (r.run start).2 rest := rfl
    rw [next]
    cases answer : (r.run start).1 with
    | ok _ =>
      obtain ⟨level, knows, active⟩ := Request.run_accepted idle answer
      refine .inr ⟨r, level, by simp only [firstAccepted?, answer], knows, ?_⟩
      rw [after_settled _ _ active]
      exact active
    | error fault =>
      have stillIdle : (r.run start).2.1.active = none := by
        rw [(r.meets start).failed fault answer]
        exact idle
      simpa only [firstAccepted?, answer] using inductionHypothesis (r.run start).2 stillIdle

/-- A process that starts without a log has none until a request for it is accepted. From then on, and
whatever is asked for later, the log has the level and the directory of the first request that was
accepted. After any requests the next one is answered as it should be: texts that mean no settings are
refused as such, the settings in force are accepted, other ones are in conflict with them, and what
is refused changes nothing. -/
theorem configured_once (start : Logger × Disk) (idle : start.1.active = none)
    (requests : List Request) :
    (firstAccepted? start requests = none → (after start requests).1.active = none) ∧
    (∀ first, firstAccepted? start requests = some first →
      ∃ level, first.level? = some level ∧
        (after start requests).1.active = some ⟨level, first.directory⟩) ∧
    ∀ r : Request, r.Meets (after start requests) := by
  refine ⟨?_, ?_, fun r => r.meets _⟩
  · intro refused
    rcases after_idle start idle requests with ⟨_, stillIdle⟩ | ⟨first, _, accepted, _, _⟩
    · exact stillIdle
    · exact nomatch accepted.symm.trans refused
  · intro first accepted
    rcases after_idle start idle requests with ⟨refused, _⟩ | ⟨other, level, same, knows, active⟩
    · exact nomatch refused.symm.trans accepted
    · obtain rfl := Option.some.inj (same.symm.trans accepted)
      exact ⟨level, knows, active⟩

/-! A process asks for its log five times before it knows what it has got. -/

namespace Startup

/-- A request that makes the attempt of a process. -/
def request (level directory : String) : Request := ⟨level, directory, "0", Logger.attempt⟩

/-- A request whose attempt meets a folder that it may not write to. -/
def blocked (level directory : String) : Request where
  level := level
  directory := directory
  elapsed := "0"
  attempt := fun _ disk settings =>
    (disk, .error (.directoryNotMade settings.directory "Permission denied (os error 13)"))

/-- An unknown level, a relative directory, a failing attempt, and two that could succeed. -/
def requests : List Request :=
  [request "loud" "/var/log", request "info" "var/log", blocked "info" "/var/log",
    request " WARNING " "/var//log/", request "info" "/var/log"]

/-- The process as it starts, and as it has asked. -/
def start : Logger × Disk := (idle, Disk.empty)

/-- The fourth request settles the log. Afterwards the same folder may be spelled in another way, but
neither another folder nor another level is accepted, and nothing changes. -/
theorem fourth_request_settles :
    (after start requests).1.active = some ⟨.warn, "/var//log/"⟩ ∧
    (after start requests).1.configure (after start requests).2 "0" "warn" "/var/log/." =
      (.ok (), after start requests) ∧
    (after start requests).1.configure (after start requests).2 "0" "trace" "/tmp" =
      (.error (.conflict "/var//log/" "/tmp"), after start requests) ∧
    (after start requests).1.configure (after start requests).2 "0" "info" "/var/log" =
      (.error (.conflict "warn" "info"), after start requests) ∧
    (after start requests).1.configure (after start requests).2 "0" "warn" "" =
      (.error .emptyDirectory, after start requests) := by
  obtain ⟨_, settles, meets⟩ := configured_once start rfl requests
  have named : (firstAccepted? start requests).map (fun r => (r.level, r.directory)) =
      some (" WARNING ", "/var//log/") := by
    decide +kernel
  obtain ⟨first, accepted, texts⟩ := Option.map_eq_some_iff.mp named
  obtain ⟨level, directory⟩ := Prod.mk.inj texts
  obtain ⟨settled, knows, active⟩ := settles first accepted
  have warning : first.level? = some .warn := by
    rw [Request.level?, level]
    decide +kernel
  rw [directory, ← Option.some.inj (warning.symm.trans knows)] at active
  -- the state that has been reached need not be computed from here on
  generalize after start requests = met at meets active ⊢
  simp only [← Request.run_attempt]
  refine ⟨active, Prod.ext ?_ ((meets _).settled _ active),
    Prod.ext ?_ ((meets _).settled _ active), Prod.ext ?_ ((meets _).settled _ active), ?_⟩
  · exact ((meets _).accepted_iff _ active).mpr (by decide +kernel)
  · exact (meets _).otherDirectory _ active .trace (by decide +kernel) (by decide +kernel)
      (by decide +kernel)
  · exact (meets _).otherLevel _ active .info (by decide +kernel) (by decide +kernel)
      (by decide +kernel) (by decide +kernel)
  · exact (meets _).emptyDirectory .warn (by decide +kernel) rfl

end Startup

end Logger
end PushLedger
