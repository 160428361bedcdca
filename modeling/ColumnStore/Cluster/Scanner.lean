import ColumnStore.Cluster.Write
import ColumnStore.Scan

/-!
# Scanners

A scanner walks the rows of a table in ascending order of key, one row at a time. Each step looks at
the table as it is then, goes on after the last row it returned, and passes over rows of which the
scan leaves nothing. A scanner that has come to the end stays there.
-/

namespace ColumnStore

namespace Scan

/-- The version of a column that a scan reads: the newest in its range of timestamps. -/
def pick (s : Scan) (versions : List Cell) : Option Cell :=
  versions.find? fun cell ↦ s.timeRange.contains cell.timestamp

/-- What a scan reads of a row before filtering. -/
def candidates (s : Scan) (row : Row) : List Cell :=
  row.entries.filterMap fun (column, versions) ↦
    if s.selects column.family column.qualifier then s.pick versions else none

/-- What a scan returns of a row. -/
def contents (s : Scan) (row : Row) : List Cell :=
  s.filtered (s.candidates row)

def firstRow? (s : Scan) : List (Bytes × Row) → Option RowResult
  | [] => none
  | (key, row) :: rest =>
    if (s.contents row).isEmpty then s.firstRow? rest else some ⟨key, s.contents row⟩

theorem mem_of_firstRow? {s : Scan} {rows : List (Bytes × Row)} {r : RowResult}
    (h : s.firstRow? rows = some r) : ∃ row, (r.row, row) ∈ rows := by
  induction rows with
  | nil => cases h
  | cons entry rest ih =>
      obtain ⟨key, row⟩ := entry
      simp only [firstRow?] at h
      split at h
      · obtain ⟨row', hrow'⟩ := ih h
        exact ⟨row', List.mem_cons_of_mem _ hrow'⟩
      · cases h
        exact ⟨row, List.mem_cons_self⟩

end Scan

structure Scanner where
  table : String
  scan : Scan
  /-- After how many rows the scanner fails. -/
  failAfter : Option Nat
  /-- The key of the last row that was returned. -/
  position : Option Bytes := none
  delivered : Nat := 0
  exhausted : Bool := false
  closed : Bool := false

namespace Cluster

def openScanner (c : Cluster) (handle : TableHandle) (scan : Scan) :
    Step Cluster (Except StoreError Scanner) :=
  match c.table? handle.name with
  | .error e => { result := .error e, state := c }
  | .ok t =>
    match checkFamilies t.descriptor scan.families.keys with
    | .error e => { result := .error e, state := c }
    | .ok () =>
      { result := .ok { table := handle.name, scan, failAfter := c.faults.scans }
        state := { c with gauges.scanners := c.gauges.scanners + 1 } }

def ahead (c : Cluster) (s : Scanner) : List (Bytes × Row) :=
  (c.rows s.table).after s.position

def next (c : Cluster) (s : Scanner) : Except StoreError (Option RowResult) × Scanner :=
  if s.closed || s.exhausted then (.ok none, s)
  else if s.failAfter.any (· ≤ s.delivered) then
    (.error (.io .timedOut "scanner lease expired"), s)
  else
    match s.scan.firstRow? (c.ahead s) with
    | some r => (.ok (some r), { s with position := some r.row, delivered := s.delivered + 1 })
    | none => (.ok none, { s with exhausted := true })

/-- Close a scanner. Closing it again changes nothing, and neither does releasing it then. -/
def closeScanner (c : Cluster) (s : Scanner) : Cluster × Scanner :=
  if s.closed then (c, s)
  else ({ c with gauges.scanners := c.gauges.scanners - 1 }, { s with closed := true })

end Cluster

end ColumnStore
