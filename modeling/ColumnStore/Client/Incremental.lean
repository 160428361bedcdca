import ColumnStore.Client.Handler
import ColumnStore.OrderedMap

/-!
# Incremental scans

An incremental scan starts at the greatest timestamp that an earlier one delivered. Cells with just
that timestamp come back, so those that were delivered are remembered and left out. A scan counts for
the next one when its progress is committed.
-/

namespace ColumnStore

/-- What tells a version of a cell from all others. -/
structure CellId where
  row : Bytes
  timestamp : Timestamp
  sequenceId : UInt64
  deriving DecidableEq, Repr

namespace CellId

open Std

instance : Ord CellId :=
  ⟨compareLex (compareOn CellId.row) (compareLex (compareOn CellId.timestamp)
    (compareOn CellId.sequenceId))⟩

instance : TransOrd CellId :=
  inferInstanceAs (TransCmp (compareLex (compareOn CellId.row)
    (compareLex (compareOn CellId.timestamp) (compareOn CellId.sequenceId))))

instance : LawfulEqOrd CellId where
  eq_of_compare {a b} h := by
    obtain ⟨hrow, h⟩ := compareLex_eq_eq.mp h
    obtain ⟨htimestamp, hsequenceId⟩ := compareLex_eq_eq.mp h
    cases a
    cases b
    cases LawfulEqOrd.eq_of_compare hrow
    cases LawfulEqOrd.eq_of_compare htimestamp
    cases LawfulEqOrd.eq_of_compare hsequenceId
    rfl

def ofRecord (r : CellRecord) : CellId :=
  ⟨r.row.bytes, r.timestamp, r.sequenceId⟩

end CellId

structure ScanProgress where
  /-- The greatest timestamp of a delivered cell. -/
  maxTimestamp : Option Timestamp := none
  /-- The delivered cells with that timestamp. -/
  atMax : OrderedSet CellId := ∅
  /-- How many rows were delivered. -/
  rows : Nat := 0
  /-- How many cells were left out. -/
  suppressed : Nat := 0
  deriving DecidableEq

namespace ScanProgress

def record (p : ScanProgress) (r : CellRecord) : ScanProgress :=
  match p.maxTimestamp with
  | some greatest =>
    if r.timestamp < greatest then p
    else if r.timestamp = greatest then { p with atMax := OrderedSet.add p.atMax (.ofRecord r) }
    else { p with maxTimestamp := some r.timestamp, atMax := OrderedSet.singleton (.ofRecord r) }
  | none =>
    { p with maxTimestamp := some r.timestamp, atMax := OrderedSet.singleton (.ofRecord r) }

def recordRow (p : ScanProgress) (records : List CellRecord) : ScanProgress :=
  let p := records.foldl record p
  { p with rows := p.rows + 1 }

end ScanProgress

/-- Where the next scan starts, and which cells with that timestamp were delivered before. -/
structure IncrementalScan where
  minTime : Timestamp := 0
  boundary : OrderedSet CellId := ∅
  deriving DecidableEq

namespace IncrementalScan

def hasSeen (s : IncrementalScan) (id : CellId) : Bool :=
  s.boundary.contains id

/-- The records that were not delivered before. -/
def fresh (s : IncrementalScan) (records : List CellRecord) : List CellRecord :=
  if s.boundary.isEmpty then records
  else records.filter fun r ↦ r.timestamp ≠ s.minTime || !s.hasSeen (.ofRecord r)

/-- Hand over what was not delivered before, and keep the progress. -/
def handler (s : IncrementalScan) (inner : RowHandler η) : RowHandler (η × ScanProgress) :=
  fun (h, p) row records ↦
    let fresh := s.fresh records
    let p := { p with suppressed := p.suppressed + (records.length - fresh.length) }
    if fresh.isEmpty then (.ok (), (h, p))
    else
      match inner h row fresh with
      | (.error reason, h) => (.error reason, (h, p))
      | (.ok (), h) => (.ok (), (h, p.recordRow fresh))

/-- Go on from what a scan has delivered. A greater timestamp starts a new boundary, the same one
extends it. -/
def commit (s : IncrementalScan) (p : ScanProgress) : IncrementalScan :=
  match p.maxTimestamp with
  | none => s
  | some greatest =>
    if s.minTime < greatest then { minTime := greatest, boundary := p.atMax }
    else if greatest = s.minTime then { s with boundary := s.boundary.union p.atMax }
    else s

end IncrementalScan

end ColumnStore
