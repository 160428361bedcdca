import ColumnStore.Cell
import ColumnStore.StoreError

/-!
# Events

What stores and clients report while they work. An event belongs to a component, has a level and
carries fields. A `Step` is the outcome of an operation: its result, the state after it, and the
events on the way.
-/

namespace ColumnStore

inductive Level where
  | debug
  | info
  | warn
  deriving DecidableEq, Repr

namespace Level

def name : Level → String
  | debug => "DEBUG"
  | info => "INFO"
  | warn => "WARN"

end Level

inductive Event where
  | tableCreated (table : String) (families : Nat)
  | connectionOpened (quorum : String) (port : UInt16) (retries : UInt32)
  | connectionClosed
  | livenessChecked (tables : Nat)
  | serviceEnabled
  | serviceEnableFailed (error : StoreError)
  | serviceDisabled
  | closeFailed (error : StoreError)
  | batchSubmitted (table : String) (writes rows : Nat)
  | scanStarted (table : String) (minTime : Timestamp) (filtered : Bool)
  | scanFinished (table : String) (rows cells skipped : Nat)
  deriving DecidableEq

namespace Event

inductive Field where
  | text (s : String)
  | count (n : Nat)
  | time (t : Timestamp)
  | flag (b : Bool)
  deriving DecidableEq

def level : Event → Level
  | serviceEnabled | serviceDisabled => .info
  | serviceEnableFailed _ | closeFailed _ => .warn
  | _ => .debug

def component : Event → String
  | tableCreated .. | connectionOpened .. | connectionClosed => "memory"
  | livenessChecked _ | serviceEnabled | serviceEnableFailed _ | serviceDisabled | closeFailed _ =>
    "service"
  | batchSubmitted .. => "put"
  | scanStarted .. | scanFinished .. => "scan"

def name : Event → String
  | tableCreated .. => "table_created"
  | connectionOpened .. => "connection_opened"
  | connectionClosed => "connection_closed"
  | livenessChecked _ => "liveness_checked"
  | serviceEnabled => "service_enabled"
  | serviceEnableFailed _ => "service_enable_failed"
  | serviceDisabled => "service_disabled"
  | closeFailed _ => "connection_close_failed"
  | batchSubmitted .. => "batch_submitted"
  | scanStarted .. => "scan_started"
  | scanFinished .. => "scan_finished"

def fields : Event → List (String × Field)
  | tableCreated table families => [("table", .text table), ("families", .count families)]
  | connectionOpened quorum port retries =>
    [("quorum", .text quorum), ("port", .count port.toNat), ("retries", .count retries.toNat)]
  | livenessChecked tables => [("tables", .count tables)]
  | serviceEnableFailed error | closeFailed error => [("error", .text error.message)]
  | batchSubmitted table writes rows =>
    [("table", .text table), ("writes", .count writes), ("rows", .count rows)]
  | scanStarted table minTime filtered =>
    [("table", .text table), ("min_time", .time minTime), ("filtered", .flag filtered)]
  | scanFinished table rows cells skipped =>
    [("table", .text table), ("rows", .count rows), ("cells", .count cells),
      ("skipped", .count skipped)]
  | connectionClosed | serviceEnabled | serviceDisabled => []

end Event

/-- The outcome of an operation: its result, the state after it, and what was reported. -/
structure Step (σ α : Type) where
  result : α
  state : σ
  log : List Event := []

end ColumnStore
