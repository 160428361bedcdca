import ColumnStore.Client.Collector
import ColumnStore.Client.Incremental
import ColumnStore.Client.Service
import ColumnStore.Cluster.Store

/-!
# Sessions

A session works on a cluster with a client service and with handles that it keeps under names, one
command at a time. A new handle under a name that is in use takes the place of the old one, which is
released then. Time stands still but for the writes that need it: each of them that succeeds gets the
next moment.
-/

namespace ColumnStore

/-- A cluster, a service on it, and named handles. -/
structure Session where
  cluster : Cluster
  files : Files := ∅
  /-- How services read filter expressions. -/
  parse : String → Except FilterError Filter := Filter.parse
  service : Option (Service Cluster) := some { parse }
  incrementals : OrderedMap String IncrementalScan := ∅
  connections : OrderedMap String Connection := ∅
  admins : OrderedSet String := ∅
  tables : OrderedMap String TableHandle := ∅
  scanners : OrderedMap String Scanner := ∅
  /-- The moment of the last write that needed one. -/
  clock : Timestamp := 0

namespace Session

inductive Command where
  | createTable (descriptor : TableDescriptor)
  | tableNames
  | versions (table : String) (row : Bytes) (column : Column)
  | batches
  | describe
  | change (faults : FaultChange)
  | newService
  | dropService
  | enable (config : Except ConfigFault ClientConfig)
  | disable
  | write (table : String) (requests : List WriteRequest)
  | scan (request : Service.Request) (collector : Collector)
  | newIncremental (id : String) (minTime : Timestamp)
  /-- Scan from where an incremental scan stands, and commit what was delivered if told so. -/
  | scanIncremental (id : String) (request : Service.Request) (collector : Collector) (commit : Bool)
  | connect (id : String) (conf : Configuration)
  | closeConnection (id : String)
  | isClosed (id : String)
  | dropConnection (id : String)
  | openAdmin (id connection : String)
  | listTables (id : String)
  | tableExists (id table : String)
  | requestTable (id : String) (descriptor : TableDescriptor)
  | openTable (id connection table : String)
  | dropTable (id : String)
  | put (id : String) (puts : List Put)
  | openScanner (id table : String) (scan : Except FilterError Scan)
  | next (id : String)
  /-- Fetch rows up to the first answer that is none. -/
  | drain (id : String)
  | closeScanner (id : String)
  | dropScanner (id : String)

abbrev Fetched := Except StoreError (Option RowResult)

inductive Reply where
  | done
  | flag (b : Bool)
  | text (s : String)
  | names (names : List String)
  | cells (cells : List Cell)
  | batches (batches : List BatchRecord)
  | store (result : Except StoreError Unit)
  | client (result : Except ClientError Unit)
  | refused (error : FilterError)
  | failed (error : StoreError)
  | scanned (rows : List (Bytes × List OwnedCell)) (result : Except ClientError Unit)
  | standing (scan : IncrementalScan)
  | scannedFrom (rows : List (Bytes × List OwnedCell)) (result : Except ClientError Unit)
      (progress : ScanProgress) (scan : IncrementalScan)
  | row (fetched : Fetched)
  | rows (fetched : List Fetched)

/-! ## Scanning to the end -/

/-- Fetch rows up to the first answer that is none. -/
def drain (c : Cluster) (s : Scanner) : List Fetched × Scanner :=
  match hnext : (c.next s).1 with
  | .error e => ([.error e], (c.next s).2)
  | .ok none => ([.ok none], (c.next s).2)
  | .ok (some row) =>
    have : (c.ahead (c.next s).2).length < (c.ahead s).length := Cluster.ahead_next_lt hnext
    let (fetched, s) := drain c (c.next s).2
    (.ok (some row) :: fetched, s)
termination_by (c.ahead s).length

/-! ## Keeping handles -/

/-- Keep a connection under a name, and release the one that was there. -/
def keepConnection (s : Session) (id : String) (connection : Connection) : Session :=
  { s with
    cluster :=
      match s.connections.get? id with
      | some old => s.cluster.releaseConnection old
      | none => s.cluster
    connections := s.connections.insert id connection }

def keepTable (s : Session) (id : String) (handle : TableHandle) : Session :=
  { s with
    cluster := if s.tables.contains id then s.cluster.releaseTable else s.cluster
    tables := s.tables.insert id handle }

def keepScanner (s : Session) (id : String) (scanner : Scanner) : Session :=
  { s with
    cluster :=
      match s.scanners.get? id with
      | some old => (s.cluster.closeScanner old).1
      | none => s.cluster
    scanners := s.scanners.insert id scanner }

def now (s : Session) : Timestamp :=
  s.clock + 1

/-- Let the clock go on if a write succeeded that needed a moment. -/
def tick (s : Session) (needed : Bool) : Except ε Unit → Session
  | .ok () => if needed then { s with clock := s.now } else s
  | .error _ => s

/-! ## Commands -/

def answer (s : Session) (reply : Reply) : Step Session Reply :=
  { result := reply, state := s }

def ofCluster (s : Session) (step : Step Cluster α) (reply : α → Reply) : Step Session Reply :=
  { result := reply step.result, state := { s with cluster := step.state }, log := step.log }

def onCluster (s : Session) : Command → Option (Step Session Reply)
  | .createTable descriptor => some (s.ofCluster (s.cluster.createTable descriptor) .store)
  | .tableNames => some (s.answer (.names s.cluster.tableNames))
  | .versions table row column => some (s.answer (.cells (s.cluster.versions table row column)))
  | .batches => some (s.answer (.batches s.cluster.batches))
  | .describe => some (s.answer (.text s.cluster.describe))
  | .change faults => some { result := .done, state := { s with cluster := s.cluster.change faults } }
  | _ => none

def replaceService (s : Session) (service : Option (Service Cluster)) : Step Session Reply :=
  match s.service with
  | none => { result := .done, state := { s with service } }
  | some old =>
    let released := old.release s.cluster
    { result := .done
      state := { s with service, cluster := released.state }
      log := released.log }

def onService (s : Session) (service : Service Cluster) : Command → Option (Step Session Reply)
  | .enable (.error fault) => some (s.answer (.client (.error (.configValidation fault))))
  | .enable (.ok config) =>
    let step := service.enable s.cluster s.files config
    some {
      result := .client step.result
      state := { s with service := some step.state.1, cluster := step.state.2 }
      log := step.log }
  | .disable =>
    let step := service.disable s.cluster
    some {
      result := .flag (step.state.1.state = .enabled)
      state := { s with service := some step.state.1, cluster := step.state.2 }
      log := step.log }
  | .write table requests =>
    let step := service.put s.cluster s.now table requests
    some {
      result := .client step.result
      state := { s with cluster := step.state }.tick (!requests.isEmpty) step.result
      log := step.log }
  | .scan request collector =>
    let step := service.scan s.cluster request Collector.accept collector
    some {
      result := .scanned step.state.2.rows step.result
      state := { s with cluster := step.state.1 }
      log := step.log }
  | .scanIncremental id request collector commit =>
    match s.incrementals.get? id with
    | none => none
    | some start =>
      let step := service.scan s.cluster { request with minTime := start.minTime }
        (start.handler Collector.accept) (collector, {})
      let (collector, progress) := step.state.2
      let reached := if commit then start.commit progress else start
      some {
        result := .scannedFrom collector.rows step.result progress reached
        state := { s with
          cluster := step.state.1, incrementals := s.incrementals.insert id reached }
        log := step.log }
  | _ => none

/-- Commands on connections and on what is asked of a cluster through them. -/
def onConnection (s : Session) : Command → Option (Step Session Reply)
  | .connect id conf =>
    let step := s.cluster.connect conf
    let s' := { s with cluster := step.state }
    match step.result with
    | .error e => some { result := .failed e, state := s', log := step.log }
    | .ok connection =>
      some { result := .store (.ok ()), state := s'.keepConnection id connection, log := step.log }
  | .closeConnection id =>
    (s.connections.get? id).map fun connection ↦
      let step := s.cluster.closeConnection connection
      { result := .store step.result
        state := { s with
          cluster := step.state.1, connections := s.connections.insert id step.state.2 }
        log := step.log }
  | .isClosed id => (s.connections.get? id).map fun connection ↦ s.answer (.flag connection.closed)
  | .dropConnection id =>
    some (match s.connections.get? id with
      | none => s.answer .done
      | some connection =>
        { result := .done
          state := { s with
            cluster := s.cluster.releaseConnection connection
            connections := s.connections.erase id } })
  | .openAdmin id connection =>
    (s.connections.get? connection).map fun connection ↦
      match Cluster.ensureOpen connection with
      | .error e => s.answer (.failed e)
      | .ok () => { result := .store (.ok ()), state := { s with admins := OrderedSet.add s.admins id } }
  | .listTables id =>
    (s.admins.get? id).map fun _ ↦
      match s.cluster.listTables with
      | .error e => s.answer (.failed e)
      | .ok names => s.answer (.names names)
  | .tableExists id table =>
    (s.admins.get? id).map fun _ ↦
      match s.cluster.tableExists table with
      | .error e => s.answer (.failed e)
      | .ok found => s.answer (.flag found)
  | .requestTable id descriptor =>
    (s.admins.get? id).map fun _ ↦ s.ofCluster (s.cluster.requestTable descriptor) .store
  | _ => none

def onTable (s : Session) : Command → Option (Step Session Reply)
  | .openTable id connection table =>
    (s.connections.get? connection).map fun connection ↦
      let step := s.cluster.openTable connection table
      let s' := { s with cluster := step.state }
      match step.result with
      | .error e => { result := .failed e, state := s', log := step.log }
      | .ok handle => { result := .text handle.name, state := s'.keepTable id handle, log := step.log }
  | .dropTable id =>
    some (if s.tables.contains id then
        { result := .done
          state := { s with cluster := s.cluster.releaseTable, tables := s.tables.erase id } }
      else s.answer .done)
  | .put id puts =>
    (s.tables.get? id).map fun handle ↦
      let step := s.cluster.put handle s.now puts
      { result := .store step.result
        state := { s with cluster := step.state }.tick (puts.any (·.needsStamp)) step.result
        log := step.log }
  | _ => none

def onScanner (s : Session) : Command → Option (Step Session Reply)
  | .openScanner id table scan =>
    (s.tables.get? table).map fun handle ↦
      match scan with
      | .error e => s.answer (.refused e)
      | .ok scan =>
        let step := s.cluster.openScanner handle scan
        let s' := { s with cluster := step.state }
        match step.result with
        | .error e => { result := .failed e, state := s', log := step.log }
        | .ok scanner =>
          { result := .store (.ok ()), state := s'.keepScanner id scanner, log := step.log }
  | .next id =>
    (s.scanners.get? id).map fun scanner ↦
      let (fetched, scanner) := s.cluster.next scanner
      { result := .row fetched, state := { s with scanners := s.scanners.insert id scanner } }
  | .drain id =>
    (s.scanners.get? id).map fun scanner ↦
      let (fetched, scanner) := drain s.cluster scanner
      { result := .rows fetched, state := { s with scanners := s.scanners.insert id scanner } }
  | .closeScanner id =>
    (s.scanners.get? id).map fun scanner ↦
      let (cluster, scanner) := s.cluster.closeScanner scanner
      { result := .done, state := { s with cluster, scanners := s.scanners.insert id scanner } }
  | .dropScanner id =>
    some (match s.scanners.get? id with
      | none => s.answer .done
      | some scanner =>
        { result := .done
          state := { s with
            cluster := (s.cluster.closeScanner scanner).1, scanners := s.scanners.erase id } })
  | _ => none

/-- Carry out a command. There is no answer to a command on a service or a handle that the session
does not have. -/
def step (s : Session) (command : Command) : Option (Step Session Reply) :=
  match command with
  | .newService => some (s.replaceService (some { parse := s.parse }))
  | .dropService => some (s.replaceService none)
  | .newIncremental id minTime =>
    let scan : IncrementalScan := { minTime }
    some {
      result := .standing scan
      state := { s with incrementals := s.incrementals.insert id scan } }
  | _ =>
    (s.onCluster command).or <| (s.service.bind (s.onService · command)).or <|
      (s.onConnection command).or <| (s.onTable command).or (s.onScanner command)

end Session

end ColumnStore
