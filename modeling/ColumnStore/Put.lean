import ColumnStore.Cell
import ColumnStore.OrderedMap

/-!
# Writes

A put writes any number of columns of one row. Writes that a caller gives one by one are grouped
into puts: one for each row, in the order in which the rows are first written, and in it one write
for each column, the last one counting.
-/

namespace ColumnStore

/-- One column in a put. Without a timestamp the store assigns one. -/
structure ColumnWrite where
  family : Bytes
  qualifier : Bytes
  timestamp : Option Timestamp
  value : Bytes
  tags : Bytes
  deriving DecidableEq

/-- Writes to columns of one row, in the order in which they were added. -/
structure Put where
  row : Bytes
  columns : List ColumnWrite
  deriving DecidableEq

namespace Put

def new (row : Bytes) : Put :=
  ⟨row, []⟩

def add (p : Put) (w : ColumnWrite) : Put :=
  { p with columns := p.columns ++ [w] }

def addColumn (p : Put) (family qualifier value : Bytes) : Put :=
  p.add ⟨family, qualifier, none, value, []⟩

def addColumnAt (p : Put) (family qualifier : Bytes) (timestamp : Timestamp) (value : Bytes) : Put :=
  p.add ⟨family, qualifier, some timestamp, value, []⟩

def addTaggedColumn (p : Put) (family qualifier value tags : Bytes) : Put :=
  p.add ⟨family, qualifier, none, value, tags⟩

def size (p : Put) : Nat :=
  p.columns.length

def isEmpty (p : Put) : Bool :=
  p.columns.isEmpty

def needsStamp (p : Put) : Bool :=
  p.columns.any (·.timestamp.isNone)

end Put

structure WriteRequest where
  row : String
  family : String
  qualifier : String
  value : Bytes
  deriving DecidableEq

namespace WriteRequest

def column (w : WriteRequest) : ColumnWrite :=
  ⟨Bytes.ofString w.family, Bytes.ofString w.qualifier, none, w.value, []⟩

end WriteRequest

/-! ## Grouping -/

namespace Put

/-- Give the first write to the same column the value of `w`, or add `w` at the end. -/
def setColumn (w : ColumnWrite) : List ColumnWrite → List ColumnWrite
  | [] => [w]
  | c :: cs =>
    if c.family = w.family ∧ c.qualifier = w.qualifier then { c with value := w.value } :: cs
    else c :: setColumn w cs

def write (p : Put) (w : ColumnWrite) : Put :=
  { p with columns := setColumn w p.columns }

/-- Puts that are being filled, and the place among them of the one for each row. -/
structure Batcher where
  puts : List Put := []
  places : OrderedMap String Nat := ∅

namespace Batcher

/-- The place of the put for a row. For a row without one, a new put is added at the end. -/
def enter (b : Batcher) (row : String) : Nat × Batcher :=
  match b.places.get? row with
  | some i => (i, b)
  | none =>
    (b.puts.length,
      ⟨b.puts ++ [Put.new (Bytes.ofString row)], b.places.insert row b.puts.length⟩)

def take (b : Batcher) (w : WriteRequest) : Batcher :=
  let (i, b) := b.enter w.row
  { b with puts := b.puts.modify i (·.write w.column) }

end Batcher

/-- One put for each row that is written. -/
def group (writes : List WriteRequest) : List Put :=
  (writes.foldl Batcher.take {}).puts

end Put

end ColumnStore
