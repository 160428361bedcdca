import ColumnStore.Cluster.Connection
import ColumnStore.Text.Utf8

/-!
# Writing

A batch is written as a whole or not at all: its table and families are checked, attempts that fail
are repeated, all its cells are laid out, and only then are they stored one after the other. A cell
takes the place of a version with the same timestamp, and only the newest versions are retained.
-/

namespace ColumnStore

namespace Cluster

/-! ## Storing one cell -/

def insertVersion (cell : Cell) : List Cell → List Cell
  | [] => [cell]
  | v :: vs => if v.timestamp < cell.timestamp then cell :: v :: vs else v :: insertVersion cell vs

/-- Add a version to those of a column and retain the newest. -/
def addVersion (retained : Nat) (cell : Cell) (versions : List Cell) : List Cell :=
  (insertVersion cell (versions.filter (·.timestamp ≠ cell.timestamp))).take retained

end Cluster

namespace Cell

def column (c : Cell) : Column :=
  ⟨c.family, c.qualifier⟩

end Cell

namespace StoredTable

def retained (t : StoredTable) (family : Bytes) : Nat :=
  match t.descriptor.family? family with
  | some f => f.maxVersions
  | none => 1

def store (t : StoredTable) (cell : Cell) : StoredTable :=
  { t with
    rows := t.rows.alter cell.row ∅ fun columns ↦
      columns.alter cell.column [] (Cluster.addVersion (t.retained cell.family) cell) }

/-- Store cells in order, each with the next sequence id, and return the last one. -/
def storeAll (t : StoredTable) (sequence : UInt64) : List Cell → StoredTable × UInt64
  | [] => (t, sequence)
  | cell :: cells => (t.store (cell.withSequenceId (sequence + 1))).storeAll (sequence + 1) cells

end StoredTable

namespace Put

def encodeColumn (now : Timestamp) (row : Bytes) (w : ColumnWrite) : Except Oversized Cell :=
  Cell.pack? {
    row
    family := w.family
    qualifier := w.qualifier
    timestamp := w.timestamp.getD now
    type := .put
    value := w.value
    tags := w.tags }

def writes (puts : List Put) : List (Bytes × ColumnWrite) :=
  puts.flatMap fun p ↦ p.columns.map (p.row, ·)

/-- Lay out writes, up to the first one that is too large. -/
def encodeAll (now : Timestamp) : List (Bytes × ColumnWrite) → Except Oversized (List Cell)
  | [] => .ok []
  | (row, w) :: rest =>
    match encodeColumn now row w with
    | .error fault => .error fault
    | .ok cell =>
      match encodeAll now rest with
      | .error fault => .error fault
      | .ok cells => .ok (cell :: cells)

end Put

namespace Cluster

/-! ## Writing a batch -/

/-- Store a batch in its table and record it. Nothing is stored when a write is too large. -/
def apply (c : Cluster) (now : Timestamp) (name : String) (t : StoredTable) (puts : List Put) :
    Except StoreError Cluster :=
  match Put.encodeAll now (Put.writes puts) with
  | .error fault => .error (.oversizedField fault)
  | .ok cells =>
    let (t, sequence) := t.storeAll c.sequence cells
    .ok { c with
      tables := c.tables.insert name t
      sequence := sequence
      batches := c.batches ++ [⟨name, puts.map (·.row)⟩] }

def checkFamilies (descriptor : TableDescriptor) (families : List Bytes) : Except StoreError Unit :=
  match descriptor.undeclared? families with
  | some family => .error (.noSuchColumnFamily descriptor.name (Utf8.lossy family))
  | none => .ok ()

def resetError : StoreError :=
  .io .connectionReset "region server reset the connection"

/-- Attempt something until an attempt does not fail, at most `left` times, and return the cluster
with the failures left over and what became of the first attempt that did not fail. -/
def attempt (c : Cluster) (action : Cluster → Except StoreError Cluster) :
    (left : Nat) → Cluster × Option (Except StoreError Cluster)
  | 0 => (c, none)
  | left + 1 =>
    if c.faults.puts = 0 then (c, some (action c))
    else attempt { c with faults.puts := c.faults.puts - 1 } action left

def put (c : Cluster) (handle : TableHandle) (now : Timestamp) (puts : List Put) :
    Step Cluster (Except StoreError Unit) :=
  match c.table? handle.name with
  | .error e => { result := .error e, state := c }
  | .ok t =>
    match checkFamilies t.descriptor ((Put.writes puts).map (·.2.family)) with
    | .error e => { result := .error e, state := c }
    | .ok () =>
      match c.attempt (·.apply now handle.name t puts) handle.attempts with
      | (c, none) =>
        { result := .error (.retriesExhausted handle.attempts resetError), state := c }
      | (c, some (.error e)) => { result := .error e, state := c }
      | (_, some (.ok c)) => { result := .ok (), state := c }

end Cluster

end ColumnStore
