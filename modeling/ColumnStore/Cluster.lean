import ColumnStore.Event
import ColumnStore.OrderedMap
import ColumnStore.Put
import ColumnStore.Table
import ColumnStore.Text.Blank
import ColumnStore.Text.Fields
import ColumnStore.Text.Integer
import ColumnStore.Text.Quoted

/-!
# Clusters

A cluster holds tables. A table maps row keys to rows, a row maps columns to versions, and the
versions of a column are cells with strictly descending timestamps. Beside the tables a cluster keeps
the last sequence id, the batches that were written, the faults it was told to show, and how many
handles on it are open.
-/

namespace ColumnStore

/-- A column of a row. Columns are ordered by family, then by qualifier. -/
structure Column where
  family : Bytes
  qualifier : Bytes
  deriving DecidableEq, Repr

namespace Column

open Std

instance : Ord Column :=
  ⟨compareLex (compareOn Column.family) (compareOn Column.qualifier)⟩

instance : TransOrd Column :=
  inferInstanceAs (TransCmp (compareLex (compareOn Column.family) (compareOn Column.qualifier)))

instance : LawfulEqOrd Column where
  eq_of_compare {a b} h := by
    obtain ⟨hfamily, hqualifier⟩ := compareLex_eq_eq.mp h
    cases a
    cases b
    cases LawfulEqOrd.eq_of_compare hfamily
    cases LawfulEqOrd.eq_of_compare hqualifier
    rfl

end Column

abbrev Row := OrderedMap Column (List Cell)

structure StoredTable where
  descriptor : TableDescriptor
  rows : OrderedMap Bytes Row := ∅

/-- A batch as a cluster received it: the table, and the row of each put. -/
structure BatchRecord where
  table : String
  rows : List Bytes
  deriving DecidableEq, Repr

structure Faults where
  unreachable : Bool := false
  /-- Whether listing the tables fails. -/
  liveness : Bool := false
  /-- Whether the next closing of a connection reports an error. -/
  close : Bool := false
  /-- How many attempts to write fail before one succeeds. -/
  puts : Nat := 0
  /-- After how many rows a scanner fails that is opened from now on. -/
  scans : Option Nat := none
  deriving DecidableEq, Repr

inductive FaultChange where
  | reachable (on : Bool)
  | liveness (on : Bool)
  | close
  | puts (attempts : Nat)
  | scans (rows : Option Nat)
  deriving DecidableEq, Repr

namespace Faults

def change (f : Faults) : FaultChange → Faults
  | .reachable on => { f with unreachable := !on }
  | .liveness on => { f with liveness := on }
  | .close => { f with close := true }
  | .puts attempts => { f with puts := attempts }
  | .scans rows => { f with scans := rows }

end Faults

structure Gauges where
  connections : Int := 0
  tables : Int := 0
  scanners : Int := 0
  deriving DecidableEq, Repr

structure Cluster where
  hosts : List String
  port : UInt16
  parent : String
  tables : OrderedMap String StoredTable := ∅
  /-- The last sequence id that was given to a cell. -/
  sequence : UInt64 := 0
  batches : List BatchRecord := []
  faults : Faults := {}
  gauges : Gauges := {}

namespace Cluster

/-! ## Hosts -/

/-- An entry of a quorum: a host, perhaps with a port of its own. What follows the last colon is a
port if it reads as one; otherwise it belongs to the host. -/
def hostEntry (entry : String) : String × Option UInt16 :=
  let reversed := entry.toList.reverse
  let port := (reversed.takeWhile (· ≠ ':')).reverse
  match reversed.dropWhile (· ≠ ':') with
  | [] => (entry, none)
  | _ :: host =>
    match Text.readUInt16 (String.ofList port) with
    | .ok n => (String.ofList host.reverse, some n)
    | .error _ => (entry, none)

/-- The entries of a quorum in order, blank ones left out. -/
def splitHosts (quorum : String) : List (String × Option UInt16) :=
  (((Text.split ',' quorum).map Text.trim).filter (!·.isEmpty)).map hostEntry

def defaultPort : UInt16 := 2181

def defaultParent : String := "/hbase"

def defaultRetries : UInt32 := 35

/-- An empty cluster that answers at the hosts of a quorum, a port and a path. -/
def new (quorum : String) (port : UInt16) (parent : String) : Cluster where
  hosts := (splitHosts quorum).map (·.1)
  port := port
  parent := parent

/-- An empty cluster where the default settings look for one. -/
def localhost : Cluster :=
  new "localhost" defaultPort defaultParent

def answers (c : Cluster) (quorum : String) (port : UInt16) (parent : String) : Bool :=
  !c.faults.unreachable && parent == c.parent &&
    (splitHosts quorum).any fun (host, hostPort) ↦
      hostPort.getD port == c.port && c.hosts.contains host

/-! ## Tables -/

def tableNames (c : Cluster) : List String :=
  c.tables.keys

def table? (c : Cluster) (name : String) : Except StoreError StoredTable :=
  match c.tables.get? name with
  | some t => .ok t
  | none => .error (.tableNotFound name)

/-- The rows of a table; there are none without the table. -/
def rows (c : Cluster) (name : String) : OrderedMap Bytes Row :=
  match c.tables.get? name with
  | some t => t.rows
  | none => ∅

def createTable (c : Cluster) (descriptor : TableDescriptor) : Step Cluster (Except StoreError Unit) :=
  if c.tables.contains descriptor.name then
    { result := .error (.tableExists descriptor.name), state := c }
  else
    { result := .ok ()
      state := { c with tables := c.tables.insert descriptor.name { descriptor } }
      log := [.tableCreated descriptor.name descriptor.families.length] }

/-- The stored versions of a column, newest first. -/
def versions (c : Cluster) (table : String) (row : Bytes) (column : Column) : List Cell :=
  match (c.rows table).get? row with
  | none => []
  | some columns => (columns.get? column).getD []

def describe (c : Cluster) : String :=
  let listed := fun names ↦ "[" ++ String.intercalate ", " (names.map Text.quoted) ++ "]"
  "MemoryCluster \x7b quorum: " ++ listed c.hosts ++ ", port: " ++ c.port.toNat.repr ++
    ", parent: " ++ Text.quoted c.parent ++ ", tables: " ++ listed c.tableNames ++ " \x7d"

def change (c : Cluster) (change : FaultChange) : Cluster :=
  { c with faults := c.faults.change change }

/-! ## Administration -/

def noResponse : StoreError :=
  .io .timedOut "master did not respond"

/-- Ask for the names of the tables, which also shows whether the cluster lives. -/
def listTables (c : Cluster) : Except StoreError (List String) :=
  if c.faults.unreachable then .error noResponse
  else if c.faults.liveness then .error (.io .connectionRefused "master refused metadata request")
  else .ok c.tableNames

def tableExists (c : Cluster) (name : String) : Except StoreError Bool :=
  if c.faults.unreachable then .error noResponse
  else .ok (c.tables.contains name)

def requestTable (c : Cluster) (descriptor : TableDescriptor) :
    Step Cluster (Except StoreError Unit) :=
  if c.faults.unreachable then { result := .error noResponse, state := c }
  else c.createTable descriptor

end Cluster

end ColumnStore
