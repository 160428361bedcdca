import ColumnStore.Client.Handler
import ColumnStore.Filter.Parser

/-!
# The client service

A service goes from disabled over enabling to enabled, and back over disabling. Enabling checks what
the client is given, connects, and makes sure that the cluster answers; a connection of which that
cannot be said is closed again. Writes and scans need a service that is enabled and has a connection,
but a filter expression is read first. Errors in closing are reported and otherwise ignored.
-/

namespace ColumnStore

inductive ServiceState where
  | disabled
  | enabling
  | enabled
  | disabling
  deriving DecidableEq, Repr

namespace ServiceState

def name : ServiceState → String
  | disabled => "disabled"
  | enabling => "enabling"
  | enabled => "enabled"
  | disabling => "disabling"

end ServiceState

structure Service (σ : Type) [Store σ] where
  /-- How filter expressions are read. -/
  parse : String → Except FilterError Filter := Filter.parse
  state : ServiceState := .disabled
  connection : Option (Store.Connection σ) := none

namespace Service

variable {σ η : Type} [Store σ]

def connected? (s : Service σ) : Option (Store.Connection σ) :=
  match s.state, s.connection with
  | .enabled, some connection => some connection
  | _, _ => none

/-! ## Connecting -/

def closeQuietly (store : σ) (connection : Store.Connection σ) : Step σ Unit :=
  let closed := Store.close store connection
  { result := ()
    state := closed.state
    log := closed.log ++
      match closed.result with
      | .ok () => []
      | .error e => [.closeFailed e] }

def establish (store : σ) (files : Files) (config : ClientConfig) :
    Step σ (Except StoreError (Store.Connection σ)) :=
  match config.resolve files with
  | .error e => { result := .error e, state := store }
  | .ok conf =>
    let opened := Store.connect store conf
    match opened.result with
    | .error e => { result := .error e, state := opened.state, log := opened.log }
    | .ok connection =>
      match Store.listTables opened.state connection with
      | .ok tables =>
        { result := .ok connection
          state := opened.state
          log := opened.log ++ [.livenessChecked tables.length] }
      | .error e =>
        let closed := closeQuietly opened.state connection
        { result := .error e, state := closed.state, log := opened.log ++ closed.log }

/-- Enable a disabled service. It is disabled again if no connection can be set up. -/
def enable (s : Service σ) (store : σ) (files : Files) (config : ClientConfig) :
    Step (Service σ × σ) (Except ClientError Unit) :=
  match config.validate with
  | .error fault => { result := .error (.configValidation fault), state := (s, store) }
  | .ok () =>
    if s.state ≠ .disabled then
      { result := .error (.invalidState "enable" s.state.name), state := (s, store) }
    else
      let enabling := { s with state := .enabling }
      let made := establish store files config
      match made.result with
      | .ok connection =>
        { result := .ok ()
          state := ({ enabling with state := .enabled, connection := some connection }, made.state)
          log := made.log ++ [.serviceEnabled] }
      | .error e =>
        { result := .error (.connection e)
          state := ({ enabling with state := .disabled }, made.state)
          log := made.log ++ [.serviceEnableFailed e] }

/-- Give a service up, and close its connection. -/
def release (s : Service σ) (store : σ) : Step σ Unit :=
  match s.connection with
  | none => { result := (), state := store }
  | some connection => closeQuietly store connection

/-- Disable a service. Nothing happens if it is disabled and without a connection. -/
def disable (s : Service σ) (store : σ) : Step (Service σ × σ) Unit :=
  if s.state = .disabled ∧ s.connection.isNone then { result := (), state := (s, store) }
  else
    let disabling := { s with state := .disabling, connection := none }
    let closed := s.release store
    { result := ()
      state := ({ disabling with state := .disabled }, closed.state)
      log := closed.log ++ [.serviceDisabled] }

/-! ## Writing -/

/-- Write requests at a given time, as one batch with one put for each row. -/
def put (s : Service σ) (store : σ) (now : Timestamp) (table : String) (requests : List WriteRequest) :
    Step σ (Except ClientError Unit) :=
  match s.connected? with
  | none => { result := .error .notEnabled, state := store }
  | some connection =>
    if requests.isEmpty then { result := .ok (), state := store }
    else
      let puts := Put.group requests
      let opened := Store.openTable store connection table
      match opened.result with
      | .error e =>
        { result := .error (.write table puts.length e), state := opened.state, log := opened.log }
      | .ok handle =>
        let written := Store.put opened.state handle now puts
        let released := Store.releaseTable written.state handle
        match written.result with
        | .error e =>
          { result := .error (.write table puts.length e)
            state := released
            log := opened.log ++ written.log }
        | .ok () =>
          { result := .ok ()
            state := released
            log := opened.log ++ written.log ++
              [.batchSubmitted table requests.length puts.length] }

/-! ## Scanning -/

/-- What a caller wants to scan: a table, perhaps some families and columns of it, perhaps a filter
expression, and the least timestamp. -/
structure Request where
  table : String
  columns : List ColumnSelector := []
  expression : Option String := none
  minTime : Timestamp := 0

/-- Read the filter expression of a request. A blank expression is none. -/
def readFilter (s : Service σ) (r : Request) : Except ClientError (Option Filter) :=
  match r.expression with
  | none => .ok none
  | some expression =>
    if Text.isAllBlank expression then .ok none
    else
      match s.parse expression with
      | .ok filter => .ok (some filter)
      | .error e => .error (.filterParse expression e)

def scan (s : Service σ) (store : σ) (r : Request) (handler : RowHandler η) (h : η) :
    Step (σ × η) (Except ClientError Unit) :=
  match s.readFilter r with
  | .error e => { result := .error e, state := (store, h) }
  | .ok filter =>
    match s.connected? with
    | none => { result := .error .notEnabled, state := (store, h) }
    | some connection =>
      let started := Event.scanStarted r.table r.minTime filter.isSome
      let scanned :=
        scanTable store connection r.table (Scan.build r.columns filter r.minTime) handler h
      match scanned.result with
      | .error fault =>
        { result := .error (fault.toError r.table)
          state := scanned.state
          log := started :: scanned.log }
      | .ok summary =>
        { result := .ok ()
          state := scanned.state
          log := started :: scanned.log ++
            [.scanFinished r.table summary.rows summary.cells summary.skipped] }

end Service

end ColumnStore
