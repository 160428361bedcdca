import ColumnStore.Filter
import ColumnStore.OrderedMap

/-!
# Scans

A scan describes what to read of a table: a range of timestamps, the families or columns, and a
filter. A family that is selected as a whole forgets earlier columns, and a column that is selected
after its family narrows the selection to that column.
-/

namespace ColumnStore

/-- The timestamps from `min` up to but not including `max`. -/
structure TimeRange where
  min : Timestamp
  max : Timestamp
  min_le_max : min ≤ max
  deriving DecidableEq

namespace TimeRange

/-- The timestamps from `min` on. The greatest of all is left out. -/
def startingAt (min : Timestamp) : TimeRange :=
  ⟨min, Int64.maxValue, Int64.le_maxValue min⟩

/-- All timestamps but the greatest. -/
def all : TimeRange :=
  startingAt Int64.minValue

/-- The timestamps from `min` up to `max`, if the bounds are in order. -/
def between? (min max : Timestamp) : Option TimeRange :=
  if h : min ≤ max then some ⟨min, max, h⟩ else none

def contains (r : TimeRange) (t : Timestamp) : Bool :=
  r.min ≤ t && t < r.max

end TimeRange

inductive FamilySelection where
  | all
  | columns (qualifiers : OrderedSet Bytes)
  deriving DecidableEq

namespace FamilySelection

def admits : FamilySelection → Bytes → Bool
  | all, _ => true
  | columns qualifiers, qualifier => qualifiers.contains qualifier

def addColumn (qualifier : Bytes) : Option FamilySelection → FamilySelection
  | some (columns qualifiers) => columns (OrderedSet.add qualifiers qualifier)
  | some all | none => columns (OrderedSet.singleton qualifier)

end FamilySelection

/-- What to read of a table. Without any selected family all are read. -/
structure Scan where
  timeRange : TimeRange := .all
  families : OrderedMap Bytes FamilySelection := ∅
  filter : Option Filter := none

namespace Scan

def addFamily (s : Scan) (family : Bytes) : Scan :=
  { s with families := s.families.insert family .all }

def addColumn (s : Scan) (family qualifier : Bytes) : Scan :=
  { s with
    families := s.families.insert family
      (FamilySelection.addColumn qualifier (s.families.get? family)) }

def selects (s : Scan) (family qualifier : Bytes) : Bool :=
  s.families.isEmpty || (s.families.get? family).any (·.admits qualifier)

def filtered (s : Scan) (cells : List Cell) : List Cell :=
  match s.filter with
  | some filter => filter.apply cells
  | none => cells

end Scan

/-- A family, or one column of a family, as a caller names it. -/
structure ColumnSelector where
  family : String
  qualifier : Option String
  deriving DecidableEq

namespace Scan

def select (s : Scan) (selector : ColumnSelector) : Scan :=
  match selector.qualifier with
  | some qualifier => s.addColumn (Bytes.ofString selector.family) (Bytes.ofString qualifier)
  | none => s.addFamily (Bytes.ofString selector.family)

/-- The scan of everything from a timestamp on, as far as the selectors and the filter go. -/
def build (selectors : List ColumnSelector) (filter : Option Filter) (minTime : Timestamp) : Scan :=
  selectors.foldl select { timeRange := .startingAt minTime, filter }

end Scan

/-- One row that a scan returns: its key, and its cells in the order of their columns. -/
structure RowResult where
  row : Bytes
  cells : List Cell
  deriving DecidableEq

end ColumnStore
