import PushLedger.Table.Fault
import PushLedger.Table.Layout

/-!
# Statements in reports

Some faults are found while a statement is being read: a name in it stands for nothing, or for
something that exists already. The report of such a fault shows the statement, together with those
that follow it in its script, and the offset of the name in bytes. Only the statements that can be
shown in this way are kept here.
-/

namespace PushLedger

/-- A statement that was read up to a name and no further. -/
structure Excerpt where
  /-- The text before the name. -/
  before : String
  /-- The name and the text after it. -/
  after : String
deriving DecidableEq, Repr

namespace Excerpt

/-- The whole text. -/
def text (e : Excerpt) : String := e.before ++ e.after

/-- The place of the name. -/
def offset (e : Excerpt) : Nat := e.before.utf8ByteSize

/-- The same text at the first place of a name that was not reached yet. -/
def upTo (e : Excerpt) (name : String) : Excerpt :=
  match e.after.splitOn name with
  | passed :: rest@(_ :: _) => ⟨e.before ++ passed, name ++ name.intercalate rest⟩
  | _ => e

/-- Lines as text. -/
def ofLines (before after : List String) : Excerpt :=
  ⟨"\n".intercalate before, "\n".intercalate after⟩

end Excerpt

namespace Script

/-- The end of the script that creates what is missing, at the column of an index. -/
def missingIndex (name : String) : Excerpt :=
  let topic := "CREATE INDEX IF NOT EXISTS idx_topic ON subscriptions ("
  let endpoint := "CREATE INDEX IF NOT EXISTS idx_endpoint ON subscriptions ("
  let both := "CREATE UNIQUE INDEX IF NOT EXISTS idx_topic_endpoint ON subscriptions ("
  match name with
  | "idx_topic" =>
      .ofLines ["", "", topic] ["topic);", endpoint ++ "endpoint);", both ++ "topic, endpoint);", ""]
  | "idx_endpoint" => .ofLines ["", endpoint] ["endpoint);", both ++ "topic, endpoint);", ""]
  | _ => .ofLines ["", both] ["topic, endpoint);", ""]

/-- The end of the script of a rebuild, at the topic of the old rows. -/
def rowCopy : Excerpt := .ofLines
  [ "", "", "INSERT INTO subscriptions_next (",
    "    id, topic, user_id, endpoint, key_auth, key_p256dh, updated_at, warning_sent",
    ")", "SELECT", "    id,", "    " ]
  [ "topic,",
    "    CASE WHEN TRIM(user_id) = '' THEN NULL ELSE user_id END,",
    "    endpoint,", "    key_auth,", "    key_p256dh,",
    "    CASE typeof(updated_at)",
    "        WHEN 'integer' THEN updated_at",
    "        WHEN 'text' THEN COALESCE(CAST(strftime('%s', updated_at) AS INTEGER) * 1000, 0)",
    "        ELSE 0", "    END,", "    CASE WHEN warning_sent THEN 1 ELSE 0 END",
    "FROM subscriptions;", "",
    "DROP TABLE subscriptions;",
    "ALTER TABLE subscriptions_next RENAME TO subscriptions;", "",
    "CREATE INDEX idx_topic ON subscriptions (topic);",
    "CREATE INDEX idx_endpoint ON subscriptions (endpoint);",
    "CREATE UNIQUE INDEX idx_topic_endpoint ON subscriptions (topic, endpoint);",
    "" ]

/-- The whole script of a rebuild, at the name of the new table. -/
def rebuildTable : Excerpt := .ofLines
  [ "-- Version 1 stored `updated_at` as DATETIME text; ages are now computed from",
    "-- epoch milliseconds. Unparseable or missing timestamps become 0 (due).",
    "CREATE TABLE " ]
  [ "subscriptions_next (",
    "    id INTEGER PRIMARY KEY AUTOINCREMENT,",
    "    topic TEXT NOT NULL,", "    user_id TEXT,", "    endpoint TEXT NOT NULL,",
    "    key_auth TEXT NOT NULL,", "    key_p256dh TEXT NOT NULL,",
    "    updated_at INTEGER NOT NULL,",
    "    warning_sent INTEGER NOT NULL DEFAULT 0",
    ");" ++ rowCopy.text ]

/-- The statement that deletes expired rows, at their flag. -/
def expiredRows : Excerpt := .ofLines
  [ "DELETE FROM subscriptions", "             WHERE " ]
  [ "warning_sent = 1", "               AND updated_at <= ?1;" ]

end Script

namespace StorageFault

/-- Where a database that is brought up to date meets a fault. -/
def updateExcerpt? : StorageFault → Option Excerpt
  | tableExists _ => some Script.rebuildTable
  | viewExists _ => some Script.rebuildTable
  | noColumn _ (some (.index name)) => some (Script.missingIndex name)
  | noColumn column (some .rowCopy) => some (Script.rowCopy.upTo column)
  | _ => none

/-- Where a sweep meets a fault. -/
def sweepExcerpt? : StorageFault → Option Excerpt
  | noColumn _ _ => some Script.expiredRows
  | _ => none

/-- The wording of a fault in a report. -/
def reportIn (excerpt : Option Excerpt) (fault : StorageFault) : String :=
  match excerpt with
  | none => fault.message
  | some e => s!"{fault.message} in {e.text} at offset {e.offset}"

end StorageFault
end PushLedger
