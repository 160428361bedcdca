import ColumnStore.Client.Handler

/-!
# Collecting rows

A handler that copies the rows it is given, and that gives up at a certain row or after a certain
number of rows.
-/

namespace ColumnStore

/-- Rows that were collected, and where to give up. -/
structure Collector where
  /-- The row that is refused. -/
  refusedRow : Option Bytes := none
  /-- The number of collected rows at which the next one is refused. -/
  capacity : Option Nat := none
  rows : List (Bytes × List OwnedCell) := []

namespace Collector

def refuses (c : Collector) (row : Bytes) : Bool :=
  c.refusedRow == some row || c.capacity == some c.rows.length

/-- Copy a row, or refuse it. -/
def accept : RowHandler Collector := fun c row records ↦
  if c.refuses row then (.error ("rejected " ++ records.length.repr ++ " cell(s)"), c)
  else (.ok (), { c with rows := c.rows ++ [(row, records.map CellRecord.toOwned)] })

end Collector

end ColumnStore
