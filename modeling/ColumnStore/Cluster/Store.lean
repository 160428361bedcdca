import ColumnStore.Cluster.Scanner
import ColumnStore.Store

/-!
# Clusters as stores

A cluster is a store. A scanner can still return as many rows as its table has after the last one.
-/

namespace ColumnStore

namespace Cluster

theorem ahead_next_lt {c : Cluster} {s : Scanner} {r : RowResult}
    (h : (c.next s).1 = .ok (some r)) : (c.ahead (c.next s).2).length < (c.ahead s).length := by
  unfold next at h ⊢
  split at h
  · cases h
  · next hopen =>
    split at h
    · cases h
    · next hsound =>
      split at h
      · next hrow =>
        cases h
        obtain ⟨row, hmem⟩ := Scan.mem_of_firstRow? hrow
        simp only [hopen, hsound]
        exact OrderedMap.length_after_lt hmem
      · cases h

end Cluster

instance : Store Cluster where
  Connection := Connection
  Table := TableHandle
  Scanner := Scanner
  connect := Cluster.connect
  listTables c connection :=
    match Cluster.ensureOpen connection with
    | .error e => .error e
    | .ok () => c.listTables
  close c connection :=
    let closed := c.closeConnection connection
    { closed with state := closed.state.1 }
  openTable := Cluster.openTable
  releaseTable c _ := c.releaseTable
  put := Cluster.put
  openScanner := Cluster.openScanner
  next := Cluster.next
  closeScanner c scanner := (c.closeScanner scanner).1
  remaining c scanner := (c.ahead scanner).length
  remaining_next_lt := Cluster.ahead_next_lt

end ColumnStore
