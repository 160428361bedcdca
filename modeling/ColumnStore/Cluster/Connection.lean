import ColumnStore.Cluster
import ColumnStore.Configuration

/-!
# Connections

A connection is opened with a configuration whose coordinates the cluster answers to, and counts as
open until it is closed or released. It opens handles on tables only while it is open; handles that
it opened before do not depend on it.
-/

namespace ColumnStore

structure Connection where
  retries : UInt32
  closed : Bool := false
  deriving DecidableEq, Repr

/-- A handle on a table, which need not exist. -/
structure TableHandle where
  name : String
  /-- How often a write is attempted: once, and as often again as the connection retries. -/
  attempts : Nat
  deriving DecidableEq, Repr

namespace Cluster

/-! ## Opening -/

structure Coordinates where
  quorum : String
  port : UInt16
  parent : String
  retries : UInt32

def coordinates (conf : Configuration) : Except StoreError Coordinates :=
  match conf.get? Setting.quorum with
  | none => .error noHosts
  | some quorum =>
    if Text.isAllBlank quorum then .error noHosts
    else
      match conf.port? Setting.clientPort with
      | .error e => .error e
      | .ok port =>
        match conf.count? Setting.retries with
        | .error e => .error e
        | .ok retries =>
          .ok {
            quorum
            port := port.getD defaultPort
            parent := (conf.get? Setting.znodeParent).getD defaultParent
            retries := retries.getD defaultRetries }
where
  /-- The error of a configuration without hosts. -/
  noHosts : StoreError :=
    .invalidConfig Setting.quorum "no quorum hosts configured"

def connect (c : Cluster) (conf : Configuration) : Step Cluster (Except StoreError Connection) :=
  match coordinates conf with
  | .error e => { result := .error e, state := c }
  | .ok place =>
    if c.answers place.quorum place.port place.parent then
      { result := .ok { retries := place.retries }
        state := { c with gauges.connections := c.gauges.connections + 1 }
        log := [.connectionOpened place.quorum place.port place.retries] }
    else
      { result := .error (.unreachable place.quorum place.port place.parent), state := c }

/-! ## Closing -/

def connectionGone (c : Cluster) : Cluster :=
  { c with gauges.connections := c.gauges.connections - 1 }

/-- Close a connection. It is closed even if an error is reported. -/
def closeConnection (c : Cluster) (connection : Connection) :
    Step (Cluster × Connection) (Except StoreError Unit) :=
  if connection.closed then { result := .ok (), state := (c, connection) }
  else
    { result :=
        if c.faults.close then
          .error (.io .brokenPipe "coordination session did not acknowledge close")
        else .ok ()
      state := ({ c.connectionGone with faults.close := false }, { connection with closed := true })
      log := [.connectionClosed] }

/-- Release a connection without closing it properly. -/
def releaseConnection (c : Cluster) (connection : Connection) : Cluster :=
  if connection.closed then c else c.connectionGone

/-! ## Handles on tables -/

def attemptLimit : Nat := UInt32.size - 1

def ensureOpen (connection : Connection) : Except StoreError Unit :=
  if connection.closed then .error .connectionClosed else .ok ()

def openTable (c : Cluster) (connection : Connection) (name : String) :
    Step Cluster (Except StoreError TableHandle) :=
  match ensureOpen connection with
  | .error e => { result := .error e, state := c }
  | .ok () =>
    { result := .ok { name, attempts := min (connection.retries.toNat + 1) attemptLimit }
      state := { c with gauges.tables := c.gauges.tables + 1 } }

def releaseTable (c : Cluster) : Cluster :=
  { c with gauges.tables := c.gauges.tables - 1 }

end Cluster

end ColumnStore
