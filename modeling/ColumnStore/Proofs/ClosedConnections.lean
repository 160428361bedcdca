import ColumnStore.Proofs.Delivery

/-!
# Closing a connection

A connection that is closed opens no more handles. Those that were obtained before do not notice:
whatever is done afterwards, the cluster differs from one where the connection stayed open only in how
many connections it counts and in whether the next closing reports an error (`Alike`), and no answer
that is given through a handle depends on either (`closing_unnoticed`).
-/

namespace ColumnStore

namespace Cluster

variable {c d : Cluster} {α : Type}

def recounted (c : Cluster) (connections : Int) (close : Bool) : Cluster :=
  { c with gauges.connections := connections, faults.close := close }

/-- One cluster differs from another at most in how many connections it counts and in whether the next
closing of one reports an error. -/
def Alike (c d : Cluster) : Prop :=
  ∃ connections close, d = c.recounted connections close

/-- An operation takes no account of the connections, and does nothing to them. -/
def Ignores (operation : Cluster → Step Cluster α) : Prop :=
  ∀ c connections close,
    (operation (c.recounted connections close)).result = (operation c).result ∧
      (operation (c.recounted connections close)).state =
        (operation c).state.recounted connections close

/-! ## One operation -/

namespace Ignores

variable {operation : Cluster → Step Cluster α}

theorem result_eq (h : Ignores operation) (hcd : c.Alike d) :
    (operation d).result = (operation c).result := by
  obtain ⟨connections, close, rfl⟩ := hcd
  exact (h c connections close).1

theorem alike (h : Ignores operation) (hcd : c.Alike d) :
    (operation c).state.Alike (operation d).state := by
  obtain ⟨connections, close, rfl⟩ := hcd
  exact ⟨connections, close, (h c connections close).2⟩

end Ignores

theorem ignores_createTable (descriptor : TableDescriptor) : Ignores (·.createTable descriptor) := by
  intro c connections close
  have htables : (c.recounted connections close).tables = c.tables := rfl
  simp only [createTable, htables]
  split <;> exact ⟨rfl, rfl⟩

theorem ignores_requestTable (descriptor : TableDescriptor) :
    Ignores (·.requestTable descriptor) := by
  intro c connections close
  have hfaults : (c.recounted connections close).faults.unreachable = c.faults.unreachable := rfl
  simp only [requestTable, hfaults]
  split
  · exact ⟨rfl, rfl⟩
  · exact ignores_createTable descriptor c connections close

theorem ignores_openTable (connection : Connection) (name : String) :
    Ignores (·.openTable connection name) := by
  intro c connections close
  unfold openTable
  cases ensureOpen connection with
  | error e => exact ⟨rfl, rfl⟩
  | ok _ => exact ⟨rfl, rfl⟩

theorem ignores_openScanner (handle : TableHandle) (scan : Scan) :
    Ignores (·.openScanner handle scan) := by
  intro c connections close
  have htables : (c.recounted connections close).table? handle.name = c.table? handle.name := rfl
  simp only [openScanner, htables]
  cases c.table? handle.name with
  | error e => exact ⟨rfl, rfl⟩
  | ok t =>
      dsimp only
      cases checkFamilies t.descriptor scan.families.keys with
      | error e => exact ⟨rfl, rfl⟩
      | ok _ => exact ⟨rfl, rfl⟩

theorem ignores_put (handle : TableHandle) (now : Timestamp) (puts : List Put) :
    Ignores (·.put handle now puts) := by
  intro c connections close
  have htables : (c.recounted connections close).table? handle.name = c.table? handle.name := rfl
  have hfaults : (c.recounted connections close).faults.puts = c.faults.puts := rfl
  simp only [put, htables, attempt_eq, hfaults]
  cases c.table? handle.name with
  | error e => exact ⟨rfl, rfl⟩
  | ok t =>
      dsimp only
      cases checkFamilies t.descriptor ((Put.writes puts).map (·.2.family)) with
      | error e => exact ⟨rfl, rfl⟩
      | ok _ =>
          by_cases hless : c.faults.puts < handle.attempts
          · simp only [if_pos hless, apply]
            cases Put.encodeAll now (Put.writes puts) <;> exact ⟨rfl, rfl⟩
          · simp only [if_neg hless]
            exact ⟨trivial, rfl⟩

theorem alike_closeConnection (c : Cluster) (connection : Connection) :
    c.Alike (c.closeConnection connection).state.1 := by
  unfold closeConnection
  split
  · exact ⟨c.gauges.connections, c.faults.close, rfl⟩
  · exact ⟨c.gauges.connections - 1, false, rfl⟩

namespace Alike

theorem listTables (h : c.Alike d) : d.listTables = c.listTables := by
  obtain ⟨connections, close, rfl⟩ := h
  rfl

theorem tableExists (h : c.Alike d) (name : String) : d.tableExists name = c.tableExists name := by
  obtain ⟨connections, close, rfl⟩ := h
  rfl

theorem next (h : c.Alike d) (s : Scanner) : d.next s = c.next s := by
  obtain ⟨connections, close, rfl⟩ := h
  rfl

theorem connect (h : c.Alike d) (conf : Configuration) :
    (c.connect conf).state.Alike (d.connect conf).state := by
  obtain ⟨connections, close, rfl⟩ := h
  unfold Cluster.connect
  cases coordinates conf with
  | error e => exact ⟨connections, close, rfl⟩
  | ok place =>
      have hanswers : (c.recounted connections close).answers place.quorum place.port place.parent =
          c.answers place.quorum place.port place.parent := rfl
      simp only [hanswers]
      split
      · exact ⟨connections + 1, close, rfl⟩
      · exact ⟨connections, close, rfl⟩

theorem closeConnection (h : c.Alike d) (connection : Connection) :
    (c.closeConnection connection).state.1.Alike (d.closeConnection connection).state.1 := by
  obtain ⟨connections, close, rfl⟩ := h
  unfold Cluster.closeConnection
  split
  · exact ⟨connections, close, rfl⟩
  · exact ⟨connections - 1, false, rfl⟩

theorem releaseConnection (h : c.Alike d) (connection : Connection) :
    (c.releaseConnection connection).Alike (d.releaseConnection connection) := by
  obtain ⟨connections, close, rfl⟩ := h
  unfold Cluster.releaseConnection
  split
  · exact ⟨connections, close, rfl⟩
  · exact ⟨connections - 1, close, rfl⟩

theorem closeScanner (h : c.Alike d) (s : Scanner) :
    (c.closeScanner s).1.Alike (d.closeScanner s).1 := by
  obtain ⟨connections, close, rfl⟩ := h
  unfold Cluster.closeScanner
  split <;> exact ⟨connections, close, rfl⟩

theorem change (h : c.Alike d) (faults : FaultChange) : (c.change faults).Alike (d.change faults) := by
  obtain ⟨connections, close, rfl⟩ := h
  cases faults with
  | close => exact ⟨connections, true, rfl⟩
  | reachable on => exact ⟨connections, close, rfl⟩
  | liveness on => exact ⟨connections, close, rfl⟩
  | puts attempts => exact ⟨connections, close, rfl⟩
  | scans rows => exact ⟨connections, close, rfl⟩

theorem releaseTable (h : c.Alike d) : c.releaseTable.Alike d.releaseTable := by
  obtain ⟨connections, close, rfl⟩ := h
  exact ⟨connections, close, rfl⟩

/-- Whatever is done to both of two clusters that are alike, they stay so. -/
theorem perform (h : c.Alike d) (operation : Operation) :
    (c.perform operation).Alike (d.perform operation) := by
  cases operation with
  | change faults => exact h.change faults
  | createTable descriptor => exact (ignores_createTable descriptor).alike h
  | requestTable descriptor => exact (ignores_requestTable descriptor).alike h
  | connect conf => exact h.connect conf
  | closeConnection connection => exact h.closeConnection connection
  | releaseConnection connection => exact h.releaseConnection connection
  | openTable connection name => exact (ignores_openTable connection name).alike h
  | releaseTable => exact h.releaseTable
  | put handle now puts => exact (ignores_put handle now puts).alike h
  | openScanner handle scan => exact (ignores_openScanner handle scan).alike h
  | closeScanner scanner => exact h.closeScanner scanner

end Alike

/-! ## All operations after the closing -/

def after (c : Cluster) (operations : List Operation) : Cluster :=
  operations.foldl perform c

theorem Alike.after (h : c.Alike d) (operations : List Operation) :
    (c.after operations).Alike (d.after operations) := by
  induction operations generalizing c d with
  | nil => exact h
  | cons operation operations ih => exact ih (h.perform operation)

/-- Two clusters with the same content, which nobody can tell apart by a handle. -/
structure Indistinct (c d : Cluster) : Prop where
  tables : d.tables = c.tables
  sequence : d.sequence = c.sequence
  batches : d.batches = c.batches
  put : ∀ handle now puts, (d.put handle now puts).result = (c.put handle now puts).result
  openScanner : ∀ handle scan, (d.openScanner handle scan).result = (c.openScanner handle scan).result
  next : ∀ s, d.next s = c.next s
  listTables : d.listTables = c.listTables
  tableExists : ∀ name, d.tableExists name = c.tableExists name
  requestTable : ∀ descriptor, (d.requestTable descriptor).result = (c.requestTable descriptor).result

theorem Alike.indistinct (h : c.Alike d) : c.Indistinct d := by
  have hput := fun handle now puts ↦ (ignores_put handle now puts).result_eq h
  have hopen := fun handle scan ↦ (ignores_openScanner handle scan).result_eq h
  have hrequest := fun descriptor ↦ (ignores_requestTable descriptor).result_eq h
  have htables := h.listTables
  have hexists := h.tableExists
  have hnext := h.next
  obtain ⟨connections, close, rfl⟩ := h
  exact ⟨rfl, rfl, rfl, hput, hopen, hnext, htables, hexists, hrequest⟩

/-- A closed connection opens no handle, however long ago it was closed and whether or not the closing
reported an error. Of what is done through the handles that there are, none depends on whether it was
closed: neither the answers nor what is left in the cluster. -/
theorem closing_unnoticed (c : Cluster) (connection : Connection) (operations : List Operation) :
    (∀ name, (((c.closeConnection connection).state.1.after operations).openTable
        (c.closeConnection connection).state.2 name).result = .error .connectionClosed) ∧
      (c.after operations).Indistinct
        ((c.closeConnection connection).state.1.after operations) := by
  have hclosed : (c.closeConnection connection).state.2.closed = true := by
    unfold closeConnection
    split
    · assumption
    · rfl
  have halike := (c.alike_closeConnection connection).after operations
  refine ⟨?_, halike.indistinct⟩
  intro name
  rw [openTable_of_closed hclosed]

/-- A handle writes although the connection that it was obtained from has been closed. -/
theorem put_after_closing :
    ¬∀ (c : Cluster) (connection : Connection) (handle : TableHandle) (now : Timestamp)
      (puts : List Put), (c.openTable connection handle.name).result = .ok handle →
        ∃ e, ((((c.openTable connection handle.name).state.closeConnection connection).state.1).put
          handle now puts).result = .error e := by
  intro hrevoked
  obtain ⟨e, herror⟩ := hrevoked sample { retries := 0 } ⟨"t", 1⟩ 9 sampleBatch rfl
  have hok : (((sample.openTable { retries := 0 } "t").state.closeConnection
      { retries := 0 }).state.1.put ⟨"t", 1⟩ 9 sampleBatch).result = .ok () := rfl
  rw [hok] at herror
  cases herror

end Cluster

end ColumnStore
