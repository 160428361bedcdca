import ColumnStore.Cell.Record
import ColumnStore.Client.Error
import ColumnStore.Store

/-!
# Handing rows over

A row handler is called once for every row that has cells, in order. It has a state of its own and
may give up with a reason. `scanTable` opens a table and a scanner, feeds the rows to a handler one
at a time, and releases both whatever happens.
-/

namespace ColumnStore

/-- Takes a row with its records, and either accepts it or gives up with a reason. -/
abbrev RowHandler (η : Type) := η → Bytes → List CellRecord → Except String Unit × η

namespace RowHandler

/-- Hand over rows one after the other, whether they are accepted or not, and list what became of
each of them, with the state of the handler after it. -/
def feed (handler : RowHandler η) (h : η) :
    List (Bytes × List CellRecord) → List (Except String Unit × η)
  | [] => []
  | (row, records) :: rest =>
    let answer := handler h row records
    answer :: feed handler answer.2 rest

end RowHandler

def RowResult.records (r : RowResult) : List CellRecord :=
  r.cells.map CellRecord.ofCell

/-- What a scan that came to its end has done. -/
structure ScanSummary where
  /-- Rows that were handed over. -/
  rows : Nat := 0
  cells : Nat := 0
  /-- Rows without any cell. -/
  skipped : Nat := 0
  deriving DecidableEq, Repr

inductive ScanFault where
  | fetch (source : StoreError)
  | handler (reason : String)
  deriving DecidableEq

namespace ScanFault

def toError (table : String) : ScanFault → ClientError
  | fetch source => .scanIteration table source
  | handler reason => .handler table reason

end ScanFault

section

variable {σ η : Type} [Store σ]

/-- Fetch rows until the end or a fault, and hand over those that have cells. -/
def feedRows (store : σ) (handler : RowHandler η) (scanner : Store.Scanner σ) (h : η)
    (summary : ScanSummary) : Except ScanFault ScanSummary × Store.Scanner σ × η :=
  match hnext : (Store.next store scanner).1 with
  | .error e => (.error (.fetch e), (Store.next store scanner).2, h)
  | .ok none => (.ok summary, (Store.next store scanner).2, h)
  | .ok (some row) =>
    have : Store.remaining store (Store.next store scanner).2 < Store.remaining store scanner :=
      Store.remaining_next_lt hnext
    if row.cells.isEmpty then
      feedRows store handler (Store.next store scanner).2 h
        { summary with skipped := summary.skipped + 1 }
    else
      match handler h row.row row.records with
      | (.error reason, h) => (.error (.handler reason), (Store.next store scanner).2, h)
      | (.ok (), h) =>
        feedRows store handler (Store.next store scanner).2 h
          { summary with rows := summary.rows + 1, cells := summary.cells + row.cells.length }
termination_by Store.remaining store scanner

def scanTable (store : σ) (connection : Store.Connection σ) (table : String) (scan : Scan)
    (handler : RowHandler η) (h : η) : Step (σ × η) (Except ScanFault ScanSummary) :=
  let opened := Store.openTable store connection table
  match opened.result with
  | .error e => { result := .error (.fetch e), state := (opened.state, h), log := opened.log }
  | .ok handle =>
    let started := Store.openScanner opened.state handle scan
    match started.result with
    | .error e =>
      { result := .error (.fetch e)
        state := (Store.releaseTable started.state handle, h)
        log := opened.log ++ started.log }
    | .ok scanner =>
      let (result, scanner, h) := feedRows started.state handler scanner h {}
      { result
        state := (Store.releaseTable (Store.closeScanner started.state scanner) handle, h)
        log := opened.log ++ started.log }

end

end ColumnStore
