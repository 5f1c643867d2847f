import PushLedger.Table.Layout

/-!
# Rows

A row is an id and seven cells. The cells without the id are a row's content; it is what a writer
supplies, and the table adds the id.
-/

namespace PushLedger

/-- The cells of a row, without its id. -/
structure Content where
  topic : Cell
  userId : Cell
  endpoint : Cell
  keyAuth : Cell
  keyP256dh : Cell
  updatedAt : Cell
  warningSent : Cell
deriving DecidableEq, Repr

/-- A row of the table. -/
structure Row extends Content where
  id : Int
deriving DecidableEq, Repr

namespace Content

/-- Content from a cell for each column. -/
def build (cell : Column → Cell) : Content where
  topic := cell .topic
  userId := cell .userId
  endpoint := cell .endpoint
  keyAuth := cell .keyAuth
  keyP256dh := cell .keyP256dh
  updatedAt := cell .updatedAt
  warningSent := cell .warningSent

/-- The cell of a column; the id is not part of the content. -/
def cell (content : Content) : Column → Cell
  | .id => .null
  | .topic => content.topic
  | .userId => content.userId
  | .endpoint => content.endpoint
  | .keyAuth => content.keyAuth
  | .keyP256dh => content.keyP256dh
  | .updatedAt => content.updatedAt
  | .warningSent => content.warningSent

/-- The content with one cell replaced. -/
def set (content : Content) (column : Column) (cell : Cell) : Content :=
  build fun other => if other = column then cell else content.cell other

/-- The content as a table of the layout stores it. -/
def stored (content : Content) (layout : Layout) : Content :=
  build fun column => (layout.affinity column).apply (content.cell column)

/-- The first required column that the content leaves empty. -/
def firstMissing? (content : Content) (layout : Layout) : Option Column :=
  layout.columns.find? fun column => layout.required column && content.cell column == .null

end Content

/-- The cell of a column of a row. -/
def Row.cell (row : Row) : Column → Cell
  | .id => .integer row.id
  | column => row.toContent.cell column

/-- Rows are kept by ascending id; a new one goes in front of the first with a greater id. -/
def Row.place (row : Row) (rows : List Row) : List Row :=
  rows.takeWhile (fun other => other.id < row.id) ++
    row :: rows.dropWhile (fun other => other.id < row.id)

/-- Two rows that agree in topic and endpoint, where an empty cell agrees with nothing. -/
def Content.clashes (a b : Content) : Bool :=
  a.topic != .null && a.endpoint != .null && a.topic.same b.topic && a.endpoint.same b.endpoint

/-- Some two rows of a list clash. -/
def Row.anyClash : List Row → Bool
  | [] => false
  | row :: rest => rest.any (fun other => row.clashes other.toContent) || anyClash rest

end PushLedger
