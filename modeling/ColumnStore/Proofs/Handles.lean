import ColumnStore.Proofs.Lifecycle
import ColumnStore.Session
import Mathlib.Data.Finset.Card

/-!
# Handles that are open

Which handles of a session are open can be told from its commands and the answers to them
(`Outstanding.after`), and the gauges of the cluster count just these (`gauges_eq_outstanding`). So no
handle is released twice, however often it is closed, and none is forgotten.
-/

namespace ColumnStore

/-- The names of the handles that were opened and have not been released since, and whether the service
has a connection. -/
structure Outstanding where
  connections : Finset String := ∅
  tables : Finset String := ∅
  scanners : Finset String := ∅
  service : Bool := false

namespace Outstanding

def held (o : Outstanding) : Int :=
  if o.service then 1 else 0

/-- A command that succeeds may open a handle, and drops the one of the same name then. A connection or
a scanner is released when it is closed or dropped, whichever is first, a handle on a table when it is
dropped, and the connection of the service when the service is disabled, dropped or replaced. -/
def after (o : Outstanding) : Session.Command → Session.Reply → Outstanding
  | .connect id _, .store (.ok _) => { o with connections := insert id o.connections }
  | .closeConnection id, _ | .dropConnection id, _ =>
    { o with connections := o.connections.erase id }
  | .openTable id _ _, .text _ => { o with tables := insert id o.tables }
  | .dropTable id, _ => { o with tables := o.tables.erase id }
  | .openScanner id _ _, .store (.ok _) => { o with scanners := insert id o.scanners }
  | .closeScanner id, _ | .dropScanner id, _ => { o with scanners := o.scanners.erase id }
  | .enable _, .client (.ok _) => { o with service := true }
  | .disable, _ | .newService, _ | .dropService, _ => { o with service := false }
  | _, _ => o

end Outstanding

/-! ## Counting handles -/

def released (closed : α → Bool) : Option α → Int
  | some handle => if closed handle then 0 else 1
  | none => 0

/-- Some names are those of the open handles, and a gauge shows how many they are. -/
structure Tally (closed : α → Bool) (handles : OrderedMap String α) (names : Finset String)
    (gauge : Int) : Prop where
  mem_iff : ∀ id, id ∈ names ↔ ∃ handle, handles.get? id = some handle ∧ closed handle = false
  gauge_eq : gauge = names.card

namespace Tally

variable {closed : α → Bool} {handles : OrderedMap String α} {names : Finset String}
  {gauge gauge' : Int} {id : String} {handle : α}

theorem released_eq (h : Tally closed handles names gauge) (id : String) :
    released closed (handles.get? id) = if id ∈ names then 1 else 0 := by
  cases hid : handles.get? id with
  | none => simp [released, h.mem_iff, hid]
  | some handle => cases hclosed : closed handle <;> simp [released, h.mem_iff, hid, hclosed]

/-- Opening a handle under a name releases the one that had it. -/
theorem insert_open (h : Tally closed handles names gauge) (hopen : closed handle = false)
    (hgauge : gauge' = gauge + 1 - released closed (handles.get? id)) :
    Tally closed (handles.insert id handle) (insert id names) gauge' where
  mem_iff other := by
    by_cases hother : other = id
    · subst hother
      simp [hopen]
    · simp [hother, h.mem_iff, OrderedMap.get?_insert_of_ne _ hother]
  gauge_eq := by
    rw [hgauge, h.released_eq, h.gauge_eq, Finset.card_insert_eq_ite]
    split <;> simp

theorem card_erase_eq (h : Tally closed handles names gauge)
    (hgauge : gauge' = gauge - released closed (handles.get? id)) :
    gauge' = (names.erase id).card := by
  rw [hgauge, h.released_eq, h.gauge_eq, Finset.card_erase_eq_ite]
  split
  · next hid =>
    have hpos := Finset.card_pos.mpr ⟨id, hid⟩
    omega
  · simp

/-- What closes a handle or drops it releases it, unless that has been done. -/
theorem insert_closed (h : Tally closed handles names gauge) (hclosed : closed handle = true)
    (hgauge : gauge' = gauge - released closed (handles.get? id)) :
    Tally closed (handles.insert id handle) (names.erase id) gauge' where
  mem_iff other := by
    by_cases hother : other = id
    · subst hother
      simp [hclosed]
    · simp [hother, h.mem_iff, OrderedMap.get?_insert_of_ne _ hother]
  gauge_eq := h.card_erase_eq hgauge

theorem erase (h : Tally closed handles names gauge)
    (hgauge : gauge' = gauge - released closed (handles.get? id)) :
    Tally closed (handles.erase id) (names.erase id) gauge' where
  mem_iff other := by
    by_cases hother : other = id
    · subst hother
      simp
    · simp [hother, h.mem_iff, OrderedMap.get?_erase_of_ne _ hother]
  gauge_eq := h.card_erase_eq hgauge

theorem erase_of_none (h : Tally closed handles names gauge) (hnone : handles.get? id = none) :
    Tally closed handles (names.erase id) gauge := by
  have hid : id ∉ names := by simp [h.mem_iff, hnone]
  rwa [Finset.erase_eq_of_notMem hid]

/-- Using a handle neither opens nor closes it. -/
theorem insert_same (h : Tally closed handles names gauge) {old : α}
    (hold : handles.get? id = some old) (hsame : closed handle = closed old) :
    Tally closed (handles.insert id handle) names gauge where
  mem_iff other := by
    by_cases hother : other = id
    · subst hother
      simp [hsame, h.mem_iff, hold]
    · simp [h.mem_iff, OrderedMap.get?_insert_of_ne _ hother]
  gauge_eq := h.gauge_eq

end Tally

/-! ## What operations release -/

namespace Cluster

theorem gauges_releaseConnection (c : Cluster) (connection : Connection) :
    (c.releaseConnection connection).gauges =
      { c.gauges with
        connections := c.gauges.connections - released Connection.closed (some connection) } := by
  cases hclosed : connection.closed <;>
    simp [releaseConnection, released, hclosed, connectionGone]

theorem gauges_closeScanner (c : Cluster) (scanner : Scanner) :
    (c.closeScanner scanner).1.gauges =
      { c.gauges with
        scanners := c.gauges.scanners - released Scanner.closed (some scanner) } := by
  cases hclosed : scanner.closed <;> simp [closeScanner, released, hclosed]

end Cluster

namespace Session

open Cluster

theorem gauges_keepConnection (s : Session) (id : String) (connection : Connection) :
    (s.keepConnection id connection).cluster.gauges =
      { s.cluster.gauges with
        connections := s.cluster.gauges.connections -
          released Connection.closed (s.connections.get? id) } := by
  unfold keepConnection
  cases s.connections.get? id with
  | none => simp [released]
  | some old => exact gauges_releaseConnection s.cluster old

theorem gauges_keepTable (s : Session) (id : String) (handle : TableHandle) :
    (s.keepTable id handle).cluster.gauges =
      { s.cluster.gauges with
        tables := s.cluster.gauges.tables - released (fun _ ↦ false) (s.tables.get? id) } := by
  unfold keepTable OrderedMap.contains
  cases s.tables.get? id with
  | none => simp [released]
  | some old => rfl

theorem gauges_keepScanner (s : Session) (id : String) (scanner : Scanner) :
    (s.keepScanner id scanner).cluster.gauges =
      { s.cluster.gauges with
        scanners := s.cluster.gauges.scanners -
          released Scanner.closed (s.scanners.get? id) } := by
  unfold keepScanner
  cases s.scanners.get? id with
  | none => simp [released]
  | some old => exact gauges_closeScanner s.cluster old

theorem closed_drain (c : Cluster) (scanner : Scanner) :
    (drain c scanner).2.closed = scanner.closed := by
  fun_induction drain c scanner with
  | case1 | case2 => exact c.closed_next _
  | case3 _ _ _ _ _ _ hdrain ih =>
      rw [hdrain] at ih
      exact ih.trans (c.closed_next _)

/-! ## One command -/

variable {s : Session} {o : Outstanding} {c : Cluster} {command : Command} {done : Step Session Reply}

/-- Those handles of a session that are outstanding are open, and the gauges count them. -/
structure Accounts (s : Session) (o : Outstanding) : Prop where
  service : (s.service = none ∧ o.held = 0) ∨
    ∃ service, s.service = some service ∧ service.Holds o.held
  connections : Tally Connection.closed s.connections o.connections
    (s.cluster.gauges.connections - o.held)
  tables : Tally (fun _ ↦ false) s.tables o.tables s.cluster.gauges.tables
  scanners : Tally Scanner.closed s.scanners o.scanners s.cluster.gauges.scanners

namespace Accounts

theorem cluster (h : s.Accounts o) (hgauges : c.gauges = s.cluster.gauges) :
    Accounts { s with cluster := c } o := by
  constructor
  case service => exact h.service
  case connections => rw [hgauges]; exact h.connections
  case tables => rw [hgauges]; exact h.tables
  case scanners => rw [hgauges]; exact h.scanners

theorem tick (h : s.Accounts o) (needed : Bool) (result : Except ε Unit) :
    (s.tick needed result).Accounts o := by
  unfold Session.tick
  split
  · split
    · exact ⟨h.service, h.connections, h.tables, h.scanners⟩
    · exact h
  · exact h

theorem withConnections (h : s.Accounts o) {handles : OrderedMap String Connection}
    {names : Finset String} {count : Int}
    (hgauges : c.gauges = { s.cluster.gauges with connections := count })
    (htally : Tally Connection.closed handles names (count - o.held)) :
    Accounts { s with cluster := c, connections := handles } { o with connections := names } := by
  constructor
  case service => exact h.service
  case connections => rw [hgauges]; exact htally
  case tables => rw [hgauges]; exact h.tables
  case scanners => rw [hgauges]; exact h.scanners

theorem withTables (h : s.Accounts o) {handles : OrderedMap String TableHandle}
    {names : Finset String} {count : Int}
    (hgauges : c.gauges = { s.cluster.gauges with tables := count })
    (htally : Tally (fun _ ↦ false) handles names count) :
    Accounts { s with cluster := c, tables := handles } { o with tables := names } := by
  constructor
  case service => exact h.service
  case connections => rw [hgauges]; exact h.connections
  case tables => rw [hgauges]; exact htally
  case scanners => rw [hgauges]; exact h.scanners

theorem withScanners (h : s.Accounts o) {handles : OrderedMap String Scanner}
    {names : Finset String} {count : Int}
    (hgauges : c.gauges = { s.cluster.gauges with scanners := count })
    (htally : Tally Scanner.closed handles names count) :
    Accounts { s with cluster := c, scanners := handles } { o with scanners := names } := by
  constructor
  case service => exact h.service
  case connections => rw [hgauges]; exact h.connections
  case tables => rw [hgauges]; exact h.tables
  case scanners => rw [hgauges]; exact htally

theorem keepConnection (h : s.Accounts o) (id : String) {connection : Connection}
    (hopen : connection.closed = false)
    (hgauges : c.gauges =
      { s.cluster.gauges with connections := s.cluster.gauges.connections + 1 }) :
    ({ s with cluster := c }.keepConnection id connection).Accounts
      { o with connections := insert id o.connections } := by
  have hkept := gauges_keepConnection { s with cluster := c } id connection
  simp only [hgauges] at hkept
  apply h.withConnections hkept
  apply h.connections.insert_open hopen
  omega

theorem keepTable (h : s.Accounts o) (id : String) (handle : TableHandle)
    (hgauges : c.gauges = { s.cluster.gauges with tables := s.cluster.gauges.tables + 1 }) :
    ({ s with cluster := c }.keepTable id handle).Accounts
      { o with tables := insert id o.tables } := by
  have hkept := gauges_keepTable { s with cluster := c } id handle
  simp only [hgauges] at hkept
  apply h.withTables hkept
  exact h.tables.insert_open rfl rfl

theorem keepScanner (h : s.Accounts o) (id : String) {scanner : Scanner}
    (hopen : scanner.closed = false)
    (hgauges : c.gauges = { s.cluster.gauges with scanners := s.cluster.gauges.scanners + 1 }) :
    ({ s with cluster := c }.keepScanner id scanner).Accounts
      { o with scanners := insert id o.scanners } := by
  have hkept := gauges_keepScanner { s with cluster := c } id scanner
  simp only [hgauges] at hkept
  apply h.withScanners hkept
  exact h.scanners.insert_open hopen rfl

theorem withService (h : s.Accounts o) {service : Option (Service Cluster)} (connected : Bool)
    (hgauges : c.gauges = { s.cluster.gauges with
      connections := s.cluster.gauges.connections - o.held + if connected then 1 else 0 })
    (hservice : (service = none ∧ connected = false) ∨
      ∃ new, service = some new ∧ new.Holds (if connected then 1 else 0)) :
    Accounts { s with service, cluster := c } { o with service := connected } := by
  constructor
  case service =>
    rcases hservice with ⟨rfl, rfl⟩ | hnew
    · exact .inl ⟨rfl, rfl⟩
    · exact .inr hnew
  case connections =>
    rw [hgauges]
    have hheld : ({ o with service := connected } : Outstanding).held =
        if connected then 1 else 0 := rfl
    rw [hheld]
    dsimp only
    rw [Int.add_sub_cancel]
    exact h.connections
  case tables => rw [hgauges]; exact h.tables
  case scanners => rw [hgauges]; exact h.scanners

theorem onCluster (h : s.Accounts o) (hdone : s.onCluster command = some done) :
    done.state.Accounts (o.after command done.result) := by
  cases command with
  | createTable descriptor =>
      cases hdone
      exact h.cluster (s.cluster.gauges_createTable descriptor)
  | tableNames | versions | batches | describe =>
      cases hdone
      exact h
  | change faults =>
      cases hdone
      exact h.cluster rfl
  | _ => cases hdone

theorem onService (h : s.Accounts o) {service : Service Cluster}
    (hservice : s.service = some service) (hholds : service.Holds o.held)
    (hdone : s.onService service command = some done) :
    done.state.Accounts (o.after command done.result) := by
  cases command with
  | enable config =>
      cases config with
      | error fault =>
          cases hdone
          exact h
      | ok config =>
          cases hdone
          rcases service.enable_cases s.cluster s.files config with
            ⟨e, hresult, hsame, hgauges⟩ | ⟨connection, hresult, hidle, hopen, hsome, hgauges⟩
          · rw [hresult, hsame, ← hservice]
            exact h.cluster hgauges
          · have hheld : o.held = 0 := by
              rcases hholds with ⟨-, -, hheld⟩ | ⟨henabled, -⟩
              · exact hheld
              · rw [hidle] at henabled
                cases henabled
            rw [hresult, hsome]
            apply h.withService true
            · rw [hgauges, hheld, Int.sub_zero]
              rfl
            · exact .inr ⟨_, rfl, .inr ⟨rfl, ⟨connection, rfl, hopen⟩, rfl⟩⟩
  | disable =>
      cases hdone
      obtain ⟨hstate, hnone⟩ := service.disable_disables s.cluster
      apply h.withService false
      · rw [Service.gauges_disable hholds]
        simp
      · exact .inr ⟨_, rfl, .inl ⟨hstate, hnone, rfl⟩⟩
  | write table requests =>
      cases hdone
      exact (h.cluster (gauges_service_put service s.cluster s.now table requests)).tick _ _
  | scan request collector =>
      cases hdone
      exact h.cluster (gauges_scan service s.cluster request Collector.accept collector)
  | scanIncremental id request collector commit =>
      simp only [Session.onService] at hdone
      split at hdone
      · cases hdone
      · next start _ =>
        cases hdone
        have hscan := h.cluster (gauges_scan service s.cluster
          { request with minTime := start.minTime } (start.handler Collector.accept) (collector, {}))
        exact ⟨hscan.service, hscan.connections, hscan.tables, hscan.scanners⟩
  | _ => cases hdone

theorem onConnection (h : s.Accounts o) (hdone : s.onConnection command = some done) :
    done.state.Accounts (o.after command done.result) := by
  cases command with
  | connect id conf =>
      rcases s.cluster.connect_cases conf with
        ⟨⟨e, hresult⟩, hstate⟩ | ⟨connection, hresult, hopen, hstate⟩
      · simp only [Session.onConnection, hresult, hstate] at hdone
        cases hdone
        exact h
      · simp only [Session.onConnection, hresult, hstate] at hdone
        cases hdone
        exact h.keepConnection id hopen rfl
  | closeConnection id =>
      obtain ⟨connection, hconnection, rfl⟩ := Option.map_eq_some_iff.mp hdone
      apply h.withConnections ((s.cluster.gauges_closeConnection connection).trans
        (s.cluster.gauges_releaseConnection connection))
      apply h.connections.insert_closed (s.cluster.closed_closeConnection connection)
      rw [hconnection]
      omega
  | isClosed id =>
      obtain ⟨connection, -, rfl⟩ := Option.map_eq_some_iff.mp hdone
      exact h
  | dropConnection id =>
      cases hconnection : s.connections.get? id with
      | none =>
          simp only [Session.onConnection, hconnection] at hdone
          cases hdone
          exact ⟨h.service, h.connections.erase_of_none hconnection, h.tables, h.scanners⟩
      | some connection =>
          simp only [Session.onConnection, hconnection] at hdone
          cases hdone
          apply h.withConnections (s.cluster.gauges_releaseConnection connection)
          apply h.connections.erase
          rw [hconnection]
          omega
  | openAdmin id connection =>
      obtain ⟨connection, -, rfl⟩ := Option.map_eq_some_iff.mp hdone
      split
      · exact h
      · exact ⟨h.service, h.connections, h.tables, h.scanners⟩
  | listTables id =>
      obtain ⟨admin, -, rfl⟩ := Option.map_eq_some_iff.mp hdone
      split <;> exact h
  | tableExists id table =>
      obtain ⟨admin, -, rfl⟩ := Option.map_eq_some_iff.mp hdone
      split <;> exact h
  | requestTable id descriptor =>
      obtain ⟨connection, -, rfl⟩ := Option.map_eq_some_iff.mp hdone
      exact h.cluster (s.cluster.gauges_requestTable descriptor)
  | _ => cases hdone

theorem onTable (h : s.Accounts o) (hdone : s.onTable command = some done) :
    done.state.Accounts (o.after command done.result) := by
  cases command with
  | openTable id connection table =>
      obtain ⟨connection, -, rfl⟩ := Option.map_eq_some_iff.mp hdone
      rcases s.cluster.openTable_cases connection table with
        ⟨⟨e, hresult⟩, hstate⟩ | ⟨handle, hresult, hstate⟩
      · simp only [hresult, hstate]
        exact h
      · simp only [hresult, hstate]
        exact h.keepTable id handle rfl
  | dropTable id =>
      cases hhandle : s.tables.get? id with
      | none =>
          simp only [Session.onTable, OrderedMap.contains, hhandle] at hdone
          cases hdone
          exact ⟨h.service, h.connections, h.tables.erase_of_none hhandle, h.scanners⟩
      | some handle =>
          simp only [Session.onTable, OrderedMap.contains, hhandle] at hdone
          cases hdone
          apply h.withTables s.cluster.gauges_releaseTable
          apply h.tables.erase
          rw [hhandle]
          rfl
  | put id puts =>
      obtain ⟨handle, -, rfl⟩ := Option.map_eq_some_iff.mp hdone
      exact (h.cluster (s.cluster.gauges_put handle s.now puts)).tick _ _
  | _ => cases hdone

theorem onScanner (h : s.Accounts o) (hdone : s.onScanner command = some done) :
    done.state.Accounts (o.after command done.result) := by
  cases command with
  | openScanner id table scan =>
      obtain ⟨handle, -, rfl⟩ := Option.map_eq_some_iff.mp hdone
      cases scan with
      | error e => exact h
      | ok scan =>
          rcases s.cluster.openScanner_opens handle scan with
            ⟨⟨e, hresult⟩, hstate⟩ | ⟨scanner, hresult, hopen, hstate⟩
          · simp only [hresult, hstate]
            exact h
          · simp only [hresult, hstate]
            exact h.keepScanner id hopen rfl
  | next id =>
      obtain ⟨scanner, hscanner, rfl⟩ := Option.map_eq_some_iff.mp hdone
      exact h.withScanners rfl (h.scanners.insert_same hscanner (s.cluster.closed_next scanner))
  | drain id =>
      obtain ⟨scanner, hscanner, rfl⟩ := Option.map_eq_some_iff.mp hdone
      exact h.withScanners rfl (h.scanners.insert_same hscanner (closed_drain s.cluster scanner))
  | closeScanner id =>
      obtain ⟨scanner, hscanner, rfl⟩ := Option.map_eq_some_iff.mp hdone
      apply h.withScanners (s.cluster.gauges_closeScanner scanner)
      apply h.scanners.insert_closed (s.cluster.closed_closeScanner scanner)
      rw [hscanner]
  | dropScanner id =>
      cases hscanner : s.scanners.get? id with
      | none =>
          simp only [Session.onScanner, hscanner] at hdone
          cases hdone
          exact ⟨h.service, h.connections, h.tables, h.scanners.erase_of_none hscanner⟩
      | some scanner =>
          simp only [Session.onScanner, hscanner] at hdone
          cases hdone
          apply h.withScanners (s.cluster.gauges_closeScanner scanner)
          apply h.scanners.erase
          rw [hscanner]
  | _ => cases hdone

/-- A service that is replaced gives back its connection, and the new one has none yet. -/
theorem replaceService (h : s.Accounts o) {new : Option (Service Cluster)}
    (hnew : ∀ service, new = some service → service.Holds 0) :
    (s.replaceService new).state.Accounts { o with service := false } := by
  have hholds : (new = none ∧ false = false) ∨ ∃ service, new = some service ∧ service.Holds 0 := by
    cases new with
    | none => exact .inl ⟨rfl, rfl⟩
    | some service => exact .inr ⟨service, rfl, hnew service rfl⟩
  unfold Session.replaceService
  rcases h.service with ⟨hnone, hheld⟩ | ⟨old, hsome, hold⟩
  · rw [hnone]
    apply h.withService false _ hholds
    rw [hheld]
    simp
  · rw [hsome]
    apply h.withService false _ hholds
    rw [Service.gauges_release hold]
    simp

/-- An answered command changes the gauges as it changes which handles are open. -/
theorem step (h : s.Accounts o) (hdone : s.step command = some done) :
    done.state.Accounts (o.after command done.result) := by
  unfold Session.step at hdone
  split at hdone
  · cases hdone
    apply h.replaceService
    rintro service ⟨⟩
    exact .inl ⟨rfl, rfl, rfl⟩
  · cases hdone
    apply h.replaceService
    rintro service ⟨⟩
  · cases hdone
    exact ⟨h.service, h.connections, h.tables, h.scanners⟩
  · rcases Option.or_eq_some_iff.mp hdone with hdone | ⟨-, hdone⟩
    · exact h.onCluster hdone
    rcases Option.or_eq_some_iff.mp hdone with hdone | ⟨-, hdone⟩
    · obtain ⟨service, hservice, hdone⟩ := Option.bind_eq_some_iff.mp hdone
      rcases h.service with ⟨hnone, -⟩ | ⟨service', hsome, hholds⟩
      · rw [hnone] at hservice
        cases hservice
      · cases hsome.symm.trans hservice
        exact h.onService hsome hholds hdone
    rcases Option.or_eq_some_iff.mp hdone with hdone | ⟨-, hdone⟩
    · exact h.onConnection hdone
    rcases Option.or_eq_some_iff.mp hdone with hdone | ⟨-, hdone⟩
    · exact h.onTable hdone
    · exact h.onScanner hdone

end Accounts

/-! ## Any number of commands -/

def start (quorum : String) (port : UInt16) (parent : String) (files : Files)
    (parse : String → Except FilterError Filter) : Session :=
  { cluster := .new quorum port parent, files, parse }

/-- Carry out a command and see which handles are open then. A command without an answer is passed
over. -/
def turn (t : Session × Outstanding) (command : Command) : Session × Outstanding :=
  match t.1.step command with
  | none => t
  | some done => (done.state, t.2.after command done.result)

def run (s : Session) (commands : List Command) : Session × Outstanding :=
  commands.foldl turn (s, {})

namespace Accounts

theorem start (quorum : String) (port : UInt16) (parent : String) (files : Files)
    (parse : String → Except FilterError Filter) :
    (start quorum port parent files parse).Accounts {} where
  service := .inr ⟨_, rfl, .inl ⟨rfl, rfl, rfl⟩⟩
  connections := ⟨by simp [Session.start], rfl⟩
  tables := ⟨by simp [Session.start], rfl⟩
  scanners := ⟨by simp [Session.start], rfl⟩

theorem turn (h : s.Accounts o) (command : Command) :
    (Session.turn (s, o) command).1.Accounts (Session.turn (s, o) command).2 := by
  unfold Session.turn
  split
  · exact h
  · next done hdone => exact h.step hdone

theorem foldl_turn (h : s.Accounts o) (commands : List Command) :
    (commands.foldl Session.turn (s, o)).1.Accounts (commands.foldl Session.turn (s, o)).2 := by
  induction commands generalizing s o with
  | nil => exact h
  | cons command commands ih => exact ih (h.turn command)

end Accounts

/-- After any commands the gauges show how many handles were opened and have not been released since,
and so they are never negative. Closing a scanner once more, as dropping it does, changes nothing. A
write or a scan of a service leaves all gauges as it found them, whatever comes of it. -/
theorem gauges_eq_outstanding (quorum : String) (port : UInt16) (parent : String)
    (files : Files) (parse : String → Except FilterError Filter) (commands : List Command)
    {s : Session} {o : Outstanding}
    (hrun : (start quorum port parent files parse).run commands = (s, o)) :
    (s.cluster.gauges.connections = o.connections.card + o.held ∧
      s.cluster.gauges.tables = o.tables.card ∧
      s.cluster.gauges.scanners = o.scanners.card) ∧
    (0 ≤ s.cluster.gauges.connections ∧ 0 ≤ s.cluster.gauges.tables ∧
      0 ≤ s.cluster.gauges.scanners) ∧
    (∀ (c : Cluster) (scanner : Scanner),
      (c.closeScanner scanner).1.closeScanner (c.closeScanner scanner).2 =
        c.closeScanner scanner) ∧
    (∀ (service : Service Cluster) (c : Cluster) now table requests,
      (service.put c now table requests).state.gauges = c.gauges) ∧
    ∀ (η : Type) (service : Service Cluster) (c : Cluster) request (handler : RowHandler η) h,
      (service.scan c request handler h).state.1.gauges = c.gauges := by
  have hstart := Accounts.start quorum port parent files parse
  have hsession : s.Accounts o := by
    have hall := hstart.foldl_turn commands
    rwa [← run, hrun] at hall
  have hconnections := hsession.connections.gauge_eq
  have htables := hsession.tables.gauge_eq
  have hscanners := hsession.scanners.gauge_eq
  have hheld : 0 ≤ o.held := by
    unfold Outstanding.held
    split <;> decide
  refine ⟨⟨by omega, htables, hscanners⟩, ⟨by omega, by omega, by omega⟩, ?_, ?_, ?_⟩
  · exact closeScanner_closeScanner
  · exact gauges_service_put
  · intro η service c request handler h
    exact gauges_scan service c request handler h

/-- A connection is closed twice and then dropped, another one is replaced under its name, a table is
read through a handle of the connection that is gone, and a scanner is closed and then dropped. -/
def sampleCommands : List Command :=
  let conf := Configuration.defaults.set Setting.quorum "localhost"
  [.createTable ⟨"t", [⟨[102], 1⟩]⟩, .connect "a" conf, .connect "b" conf, .openTable "x" "a" "t",
    .closeConnection "a", .closeConnection "a", .dropConnection "a", .connect "b" conf,
    .openScanner "y" "x" (.ok {}), .next "y", .closeScanner "y", .dropScanner "y",
    .openScanner "z" "x" (.ok {}), .enable (.ok Lifetime.sampleConfig)]

def sampleRun : Session × Outstanding :=
  (start "localhost" 2181 "/hbase" {} Filter.parse).run sampleCommands

theorem gauges_of_sampleCommands :
    (sampleRun.2.connections = {"b"} ∧ sampleRun.2.tables = {"x"} ∧ sampleRun.2.scanners = {"z"} ∧
      sampleRun.2.service = true) ∧
    sampleRun.1.cluster.gauges.connections = 2 ∧ sampleRun.1.cluster.gauges.tables = 1 ∧
      sampleRun.1.cluster.gauges.scanners = 1 := by
  have houtstanding : sampleRun.2.connections = {"b"} ∧ sampleRun.2.tables = {"x"} ∧
      sampleRun.2.scanners = {"z"} ∧ sampleRun.2.service = true := by decide +kernel
  have hrun : sampleRun = (sampleRun.1, sampleRun.2) := (Prod.eta sampleRun).symm
  obtain ⟨⟨hconnections, htables, hscanners⟩, -⟩ := gauges_eq_outstanding "localhost" 2181 "/hbase"
    {} Filter.parse sampleCommands hrun
  obtain ⟨hb, hx, hz, hservice⟩ := houtstanding
  rw [hb, Outstanding.held, hservice] at hconnections
  rw [hx] at htables
  rw [hz] at hscanners
  exact ⟨⟨hb, hx, hz, hservice⟩, hconnections, htables, hscanners⟩

end Session

end ColumnStore
