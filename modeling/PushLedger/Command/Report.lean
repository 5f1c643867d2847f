import PushLedger.Ledger.Sweep
import PushLedger.Journal.Event

/-!
# The report of a sweep

One line says how many rows were touched, and one line follows for each target. An owner that is
missing is shown by a dash. Endpoints and owners are shown as they are stored.
-/

namespace PushLedger.Command

/-- The line that opens every report. -/
def versionLine : String := s!"webpush_core version={libraryVersion}"

/-- What stands for a missing owner. -/
def noOwner : String := "-"

/-- The line of a target. -/
def targetLine (target : PushTarget) : String :=
  s!"warn endpoint={target.endpoint} user_id={target.userId.getD noOwner}"

/-- The line that sums a sweep up. -/
def summaryLine (outcome : SweepOutcome) : String :=
  s!"sweep expired_rows={outcome.expired} warned_rows={outcome.warned} " ++
    s!"targets={outcome.targets.length}"

/-- The lines about a sweep. -/
def sweepLines (outcome : SweepOutcome) : List String :=
  summaryLine outcome :: outcome.targets.map targetLine

/-- Lines as text; each ends with a line break. -/
def textOf (lines : List String) : String :=
  lines.foldl (fun text line => text ++ line ++ "\n") ""

end PushLedger.Command
