import ColumnStore.Cluster.Store
import ColumnStore.Proofs.Writing

/-!
# The history of a cluster

A cluster is reached from a new one by operations, and the writes that it took on the way are its
history. The history accounts for everything that is stored (`Reached.accounted`): the versions of a
column are the newest that were ever written to it.
-/

namespace ColumnStore

/-- What can be done to a cluster. Asking a scanner for a row does nothing to it. -/
inductive Operation where
  | change (faults : FaultChange)
  | createTable (descriptor : TableDescriptor)
  | requestTable (descriptor : TableDescriptor)
  | connect (conf : Configuration)
  | closeConnection (connection : Connection)
  | releaseConnection (connection : Connection)
  | openTable (connection : Connection) (name : String)
  | releaseTable
  | put (handle : TableHandle) (now : Timestamp) (puts : List Put)
  | openScanner (handle : TableHandle) (scan : Scan)
  | closeScanner (scanner : Scanner)

/-- A write that a cluster took: its table, what it wrote, and the sequence id that it was given. -/
structure LoggedWrite where
  table : String
  fields : CellFields
  sequenceId : UInt64
  deriving DecidableEq

namespace LoggedWrite

def timestamp (w : LoggedWrite) : Timestamp :=
  w.fields.timestamp

def isAt (w : LoggedWrite) (table : String) (row : Bytes) (column : Column) : Bool :=
  w.table = table ∧ w.fields.isAt row column

def number (table : String) (sequence : UInt64) : List CellFields → List LoggedWrite
  | [] => []
  | f :: fs => ⟨table, f, sequence + 1⟩ :: number table (sequence + 1) fs

def ofCell (table : String) (cell : Cell) : LoggedWrite :=
  ⟨table, cell.fields, cell.sequenceId⟩

theorem ofCell_injective {table : String} {c d : Cell} (h : ofCell table c = ofCell table d) :
    c = d := by
  obtain ⟨-, hfields, hsequenceId⟩ := LoggedWrite.mk.inj h
  exact Cell.ext_fields hfields hsequenceId

theorem map_ofCell_numbered (table : String) (sequence : UInt64) (cells : List Cell) :
    (StoredTable.numbered sequence cells).map (ofCell table) =
      number table sequence (cells.map Cell.fields) := by
  induction cells generalizing sequence with
  | nil => rfl
  | cons cell cells ih =>
      rw [StoredTable.numbered, List.map_cons, ih]
      rfl

@[simp] theorem length_number (table : String) (sequence : UInt64) (fs : List CellFields) :
    (number table sequence fs).length = fs.length := by
  induction fs generalizing sequence with
  | nil => rfl
  | cons f fs ih => simp [number, ih]

theorem table_of_mem_number {table : String} {sequence : UInt64} {fs : List CellFields}
    {w : LoggedWrite} (h : w ∈ number table sequence fs) : w.table = table := by
  induction fs generalizing sequence with
  | nil => cases h
  | cons f fs ih =>
      rcases List.mem_cons.mp h with rfl | h
      · rfl
      · exact ih h

theorem map_fields_number (table : String) (sequence : UInt64) (fs : List CellFields) :
    (number table sequence fs).map LoggedWrite.fields = fs := by
  induction fs generalizing sequence with
  | nil => rfl
  | cons f fs ih => rw [number, List.map_cons, ih]

/-- If one of some writes goes to a column, then just one of them goes there under its number. -/
theorem filter_number {table : String} (sequence : UInt64) {fs : List CellFields} {row : Bytes}
    {column : Column} {f : CellFields} (h : fs.filter (·.isAt row column) = [f]) :
    ∃ w, (number table sequence fs).filter (·.isAt table row column) = [w] ∧ w.fields = f := by
  have hat : (number table sequence fs).filter (·.isAt table row column) =
      (number table sequence fs).filter (·.fields.isAt row column) := by
    apply List.filter_congr
    intro w hw
    simp [isAt, table_of_mem_number hw]
  have hfields : ((number table sequence fs).filter (·.fields.isAt row column)).map
      LoggedWrite.fields = [f] := by
    rw [← h, ← map_fields_number table sequence fs, List.filter_map, map_fields_number]
    rfl
  rw [hat]
  exact List.map_eq_singleton_iff.mp hfields

theorem sequenceId_number (table : String) (n : Nat) (fs : List CellFields) :
    (number table (UInt64.ofNat n) fs).map LoggedWrite.sequenceId =
      (List.range' n fs.length).map (fun i ↦ UInt64.ofNat (i + 1)) := by
  induction fs generalizing n with
  | nil => rfl
  | cons f fs ih =>
      have hnext : UInt64.ofNat n + 1 = UInt64.ofNat (n + 1) := by
        rw [UInt64.ofNat_add]
        rfl
      rw [number, hnext, List.map_cons, ih, List.length_cons, List.range'_succ, List.map_cons]

end LoggedWrite

namespace Cluster

/-- The cluster after an operation, whatever its result. -/
def perform (c : Cluster) : Operation → Cluster
  | .change faults => c.change faults
  | .createTable descriptor => (c.createTable descriptor).state
  | .requestTable descriptor => (c.requestTable descriptor).state
  | .connect conf => (c.connect conf).state
  | .closeConnection connection => (c.closeConnection connection).state.1
  | .releaseConnection connection => c.releaseConnection connection
  | .openTable connection name => (c.openTable connection name).state
  | .releaseTable => c.releaseTable
  | .put handle now puts => (c.put handle now puts).state
  | .openScanner handle scan => (c.openScanner handle scan).state
  | .closeScanner scanner => (c.closeScanner scanner).1

/-- The writes that a cluster takes in an operation: all of a batch that is written, in its order. -/
def accepted (c : Cluster) : Operation → List LoggedWrite
  | .put handle now puts =>
    match (c.put handle now puts).result with
    | .ok () => LoggedWrite.number handle.name c.sequence ((Put.writes puts).map (Put.fieldsOf now))
    | .error _ => []
  | _ => []

/-- A cluster is reached from a new one by operations, and has taken some writes on the way. -/
inductive Reached : Cluster → List LoggedWrite → Prop
  | new (quorum : String) (port : UInt16) (parent : String) : Reached (new quorum port parent) []
  | perform {c : Cluster} {log : List LoggedWrite} (h : Reached c log) (operation : Operation) :
    Reached (c.perform operation) (log ++ c.accepted operation)

def retained (c : Cluster) (table : String) (family : Bytes) : Nat :=
  match c.tables.get? table with
  | some t => t.retained family
  | none => 0

/-! ## One operation -/

/-- One cluster differs from another at most in the faults that it shows and in the handles on it. -/
def Quiet (c d : Cluster) : Prop :=
  ∃ faults gauges, d = { c with faults, gauges }

theorem Quiet.refl (c : Cluster) : c.Quiet c :=
  ⟨c.faults, c.gauges, rfl⟩

theorem Quiet.trans {b c d : Cluster} (hbc : b.Quiet c) (hcd : c.Quiet d) : b.Quiet d := by
  obtain ⟨faults, gauges, rfl⟩ := hbc
  obtain ⟨faults', gauges', rfl⟩ := hcd
  exact ⟨faults', gauges', rfl⟩

theorem Quiet.tables {c d : Cluster} (h : c.Quiet d) : d.tables = c.tables := by
  obtain ⟨faults, gauges, rfl⟩ := h
  rfl

theorem Quiet.sequence {c d : Cluster} (h : c.Quiet d) : d.sequence = c.sequence := by
  obtain ⟨faults, gauges, rfl⟩ := h
  rfl

theorem Quiet.rows {c d : Cluster} (h : c.Quiet d) (table : String) : d.rows table = c.rows table := by
  rw [Cluster.rows, h.tables, Cluster.rows]

theorem Quiet.versions {c d : Cluster} (h : c.Quiet d) (table : String) (row : Bytes)
    (column : Column) : d.versions table row column = c.versions table row column := by
  rw [Cluster.versions, h.rows, Cluster.versions]

theorem Quiet.retained {c d : Cluster} (h : c.Quiet d) (table : String) (family : Bytes) :
    d.retained table family = c.retained table family := by
  rw [Cluster.retained, h.tables, Cluster.retained]

theorem quiet_connect (c : Cluster) (conf : Configuration) : c.Quiet (c.connect conf).state := by
  unfold connect
  split
  · exact .refl c
  · split
    · exact ⟨_, _, rfl⟩
    · exact .refl c

theorem quiet_closeConnection (c : Cluster) (connection : Connection) :
    c.Quiet (c.closeConnection connection).state.1 := by
  unfold closeConnection
  split
  · exact .refl c
  · exact ⟨_, _, rfl⟩

theorem quiet_releaseConnection (c : Cluster) (connection : Connection) :
    c.Quiet (c.releaseConnection connection) := by
  unfold releaseConnection
  split
  · exact .refl c
  · exact ⟨_, _, rfl⟩

theorem quiet_openTable (c : Cluster) (connection : Connection) (name : String) :
    c.Quiet (c.openTable connection name).state := by
  unfold openTable
  split
  · exact .refl c
  · exact ⟨_, _, rfl⟩

theorem quiet_openScanner (c : Cluster) (handle : TableHandle) (scan : Scan) :
    c.Quiet (c.openScanner handle scan).state := by
  unfold openScanner
  split
  · exact .refl c
  · split
    · exact .refl c
    · exact ⟨_, _, rfl⟩

theorem quiet_closeScanner (c : Cluster) (scanner : Scanner) :
    c.Quiet (c.closeScanner scanner).1 := by
  unfold closeScanner
  split
  · exact .refl c
  · exact ⟨_, _, rfl⟩

/-- What an operation does to the tables: nothing, or it adds an empty table, or it stores a batch. -/
inductive Effect (c : Cluster) (operation : Operation) : Prop
  | quiet (same : c.Quiet (c.perform operation)) (accepted : c.accepted operation = [])
  | created (descriptor : TableDescriptor) (absent : c.tables.get? descriptor.name = none)
      (tables : (c.perform operation).tables = c.tables.insert descriptor.name { descriptor })
      (sequence : (c.perform operation).sequence = c.sequence)
      (accepted : c.accepted operation = [])
  | stored (name : String) (t : StoredTable) (cells : List Cell)
      (present : c.tables.get? name = some t)
      (tables : (c.perform operation).tables =
        c.tables.insert name ((StoredTable.numbered c.sequence cells).foldl StoredTable.store t))
      (sequence : (c.perform operation).sequence = c.sequence + UInt64.ofNat cells.length)
      (accepted : c.accepted operation =
        LoggedWrite.number name c.sequence (cells.map Cell.fields))

theorem effect_createTable (c : Cluster) (descriptor : TableDescriptor) :
    c.Effect (.createTable descriptor) := by
  cases hpresent : c.tables.contains descriptor.name with
  | true =>
      have hsame : c.perform (.createTable descriptor) = c := by
        simp [perform, createTable, hpresent]
      exact .quiet (by rw [hsame]; exact .refl c) rfl
  | false =>
      have hnone : c.tables.get? descriptor.name = none := by
        simpa [OrderedMap.contains] using hpresent
      have hstate : c.perform (.createTable descriptor) =
          { c with tables := c.tables.insert descriptor.name { descriptor } } := by
        simp [perform, createTable, hpresent]
      exact .created descriptor hnone (by rw [hstate]) (by rw [hstate]) rfl

theorem effect_put (c : Cluster) (handle : TableHandle) (now : Timestamp) (puts : List Put) :
    c.Effect (.put handle now puts) := by
  rcases c.put_cases handle now puts with ⟨e, left, hresult, -, hstate⟩ |
    ⟨t, cells, htable, -, hcells, hresult, hstate⟩
  · exact .quiet ⟨_, _, hstate⟩ (by rw [accepted, hresult])
  · refine .stored handle.name t cells htable ?_ ?_ ?_
    · rw [perform, hstate, StoredTable.storeAll_eq]
    · rw [perform, hstate, StoredTable.storeAll_eq]
    · rw [accepted, hresult, Put.fields_of_encodeAll hcells]

theorem effect (c : Cluster) (operation : Operation) : c.Effect operation := by
  cases operation with
  | createTable descriptor => exact c.effect_createTable descriptor
  | put handle now puts => exact c.effect_put handle now puts
  | requestTable descriptor =>
      by_cases hreach : c.faults.unreachable
      · have hsame : c.perform (.requestTable descriptor) = c := by
          simp [perform, requestTable, hreach]
        exact .quiet (by rw [hsame]; exact .refl c) rfl
      · have hsame : c.perform (.requestTable descriptor) = c.perform (.createTable descriptor) := by
          simp [perform, requestTable, hreach]
        cases c.effect_createTable descriptor with
        | quiet same _ => exact .quiet (hsame ▸ same) rfl
        | created d absent tables sequence _ =>
            exact .created d absent (hsame ▸ tables) (hsame ▸ sequence) rfl
        | stored name t cells present tables sequence accepted =>
            exact .stored name t cells present (hsame ▸ tables) (hsame ▸ sequence) accepted
  | change faults => exact .quiet ⟨_, _, rfl⟩ rfl
  | connect conf => exact .quiet (c.quiet_connect conf) rfl
  | closeConnection connection => exact .quiet (c.quiet_closeConnection connection) rfl
  | releaseConnection connection => exact .quiet (c.quiet_releaseConnection connection) rfl
  | openTable connection name => exact .quiet (c.quiet_openTable connection name) rfl
  | releaseTable => exact .quiet ⟨_, _, rfl⟩ rfl
  | openScanner handle scan => exact .quiet (c.quiet_openScanner handle scan) rfl
  | closeScanner scanner => exact .quiet (c.quiet_closeScanner scanner) rfl

/-! ## What the history says about the state -/

/-- A history accounts for a cluster: the sequence ids were given out one by one, and the versions of
every column are the newest ones written to it. -/
structure AccountedBy (c : Cluster) (log : List LoggedWrite) : Prop where
  sequence : c.sequence = UInt64.ofNat log.length
  sequenceIds : log.map LoggedWrite.sequenceId =
    (List.range log.length).map (fun i ↦ UInt64.ofNat (i + 1))
  present : ∀ w ∈ log, c.tables.get? w.table ≠ none
  versions : ∀ name t, c.tables.get? name = some t → ∀ row column,
    (versionsIn t.rows row column).map (LoggedWrite.ofCell name) =
      Versions.newest LoggedWrite.timestamp (t.retained column.family)
        (log.filter (·.isAt name row column))

namespace AccountedBy

variable {c d : Cluster} {log : List LoggedWrite}

theorem new (quorum : String) (port : UInt16) (parent : String) :
    AccountedBy (Cluster.new quorum port parent) [] where
  sequence := rfl
  sequenceIds := rfl
  present := by simp
  versions := by
    intro name t ht
    cases ht

theorem quiet (h : AccountedBy c log) (hsame : c.Quiet d) : AccountedBy d log where
  sequence := hsame.sequence ▸ h.sequence
  sequenceIds := h.sequenceIds
  present := hsame.tables ▸ h.present
  versions := hsame.tables ▸ h.versions

theorem filter_eq_nil (h : AccountedBy c log) {name : String} (hnone : c.tables.get? name = none)
    (row : Bytes) (column : Column) : log.filter (·.isAt name row column) = [] := by
  rw [List.filter_eq_nil_iff]
  intro w hw hat
  have hname : w.table = name := by
    simp only [LoggedWrite.isAt, decide_eq_true_eq] at hat
    exact hat.1
  exact h.present w hw (hname ▸ hnone)

theorem created (h : AccountedBy c log) {descriptor : TableDescriptor}
    (habsent : c.tables.get? descriptor.name = none)
    (htables : d.tables = c.tables.insert descriptor.name { descriptor })
    (hsequence : d.sequence = c.sequence) : AccountedBy d log where
  sequence := hsequence ▸ h.sequence
  sequenceIds := h.sequenceIds
  present := by
    intro w hw
    rw [htables, OrderedMap.get?_insert]
    split
    · simp
    · exact h.present w hw
  versions := by
    intro name t ht row column
    rw [htables, OrderedMap.get?_insert] at ht
    split at ht
    · next hname =>
      cases ht
      rw [h.filter_eq_nil (hname ▸ habsent), Versions.newest_nil]
      rfl
    · exact h.versions name t ht row column

/-- The versions of a column after a batch, from the versions before it. -/
theorem versions_foldl_store (h : AccountedBy c log) {name : String} {t : StoredTable}
    (ht : c.tables.get? name = some t) (cells : List Cell) (row : Bytes) (column : Column) :
    (versionsIn ((StoredTable.numbered c.sequence cells).foldl StoredTable.store t).rows
        row column).map (LoggedWrite.ofCell name) =
      Versions.newest LoggedWrite.timestamp (t.retained column.family)
        ((log ++ LoggedWrite.number name c.sequence (cells.map Cell.fields)).filter
          (·.isAt name row column)) := by
  have hold := h.versions name t ht row column
  have hdescending : Versions.Descending Cell.timestamp (versionsIn t.rows row column) := by
    have hmap := Versions.descending_newest LoggedWrite.timestamp
      (t.retained column.family) (log.filter (·.isAt name row column))
    rw [← hold] at hmap
    exact List.pairwise_map.mp hmap
  -- The cells of the batch that go to the column are the new writes of the history there.
  have hnew : ((StoredTable.numbered c.sequence cells).filter (·.fields.isAt row column)).map
        (LoggedWrite.ofCell name) =
      (LoggedWrite.number name c.sequence (cells.map Cell.fields)).filter
        (·.isAt name row column) := by
    rw [← LoggedWrite.map_ofCell_numbered, List.filter_map]
    congr 1
    apply List.filter_congr
    intro cell _
    simp [LoggedWrite.isAt, LoggedWrite.ofCell]
  rw [versionsIn_foldl_store, Versions.map_foldl_addVersion LoggedWrite.timestamp
    (fun _ ↦ rfl) _ _ _ hdescending, hnew, hold, Versions.foldl_newest, List.filter_append]

/-- Cells that are stored under the next sequence ids come last in the history of their columns. -/
theorem stored (h : AccountedBy c log) {name : String} {t : StoredTable} {cells : List Cell}
    (ht : c.tables.get? name = some t)
    (htables : d.tables =
      c.tables.insert name ((StoredTable.numbered c.sequence cells).foldl StoredTable.store t))
    (hsequence : d.sequence = c.sequence + UInt64.ofNat cells.length) :
    AccountedBy d (log ++ LoggedWrite.number name c.sequence (cells.map Cell.fields)) where
  sequence := by
    rw [hsequence, h.sequence, List.length_append, LoggedWrite.length_number, List.length_map,
      UInt64.ofNat_add]
  sequenceIds := by
    have hrange := List.range'_append_1 (s := 0) (m := log.length) (n := cells.length)
    rw [Nat.zero_add] at hrange
    rw [List.map_append, h.sequenceIds, h.sequence, LoggedWrite.sequenceId_number,
      List.length_append, LoggedWrite.length_number, List.length_map, List.range_eq_range',
      List.range_eq_range', ← hrange, List.map_append]
  present := by
    intro w hw
    rw [htables, OrderedMap.get?_insert]
    split
    · simp
    · next hne =>
      rcases List.mem_append.mp hw with hw | hw
      · exact h.present w hw
      · exact (hne (LoggedWrite.table_of_mem_number hw)).elim
  versions := by
    intro name' t' ht' row column
    rw [htables, OrderedMap.get?_insert] at ht'
    split at ht'
    · next hname =>
      subst hname
      cases ht'
      rw [StoredTable.retained_foldl_store]
      exact h.versions_foldl_store ht cells row column
    · next hne =>
      have hother : (LoggedWrite.number name c.sequence (cells.map Cell.fields)).filter
          (·.isAt name' row column) = [] := by
        rw [List.filter_eq_nil_iff]
        intro w hw hat
        simp only [LoggedWrite.isAt, decide_eq_true_eq] at hat
        exact hne (hat.1.symm.trans (LoggedWrite.table_of_mem_number hw))
      rw [List.filter_append, hother, List.append_nil]
      exact h.versions name' t' ht' row column

/-- The history goes on with what an operation accepted, and accounts for the cluster after it. -/
theorem perform (h : AccountedBy c log) (operation : Operation) :
    AccountedBy (c.perform operation) (log ++ c.accepted operation) := by
  cases c.effect operation with
  | quiet same accepted =>
      rw [accepted, List.append_nil]
      exact h.quiet same
  | created descriptor absent tables sequence accepted =>
      rw [accepted, List.append_nil]
      exact h.created absent tables sequence
  | stored name t cells present tables sequence accepted =>
      rw [accepted]
      exact h.stored present tables sequence

end AccountedBy

theorem Reached.accounted {c : Cluster} {log : List LoggedWrite} (h : Reached c log) :
    c.AccountedBy log := by
  induction h with
  | new quorum port parent => exact .new quorum port parent
  | perform _ operation ih => exact ih.perform operation

namespace AccountedBy

variable {c : Cluster} {log : List LoggedWrite}

theorem map_versions (h : AccountedBy c log) (table : String) (row : Bytes) (column : Column) :
    (c.versions table row column).map (LoggedWrite.ofCell table) =
      Versions.newest LoggedWrite.timestamp (c.retained table column.family)
        (log.filter (·.isAt table row column)) := by
  rw [versions_eq, rows, retained]
  cases ht : c.tables.get? table with
  | none =>
      rw [h.filter_eq_nil ht, Versions.newest_nil]
      rfl
  | some t => exact h.versions table t ht row column

theorem descending_versions (h : AccountedBy c log) (table : String) (row : Bytes)
    (column : Column) : Versions.Descending Cell.timestamp (c.versions table row column) := by
  have hmap := Versions.descending_newest LoggedWrite.timestamp
    (c.retained table column.family) (log.filter (·.isAt table row column))
  rw [← h.map_versions] at hmap
  exact List.pairwise_map.mp hmap

/-- A stored cell was written, and to the column where it is found. -/
theorem of_mem_versions (h : AccountedBy c log) {table : String} {row : Bytes} {column : Column}
    {cell : Cell} (hcell : cell ∈ c.versions table row column) :
    LoggedWrite.ofCell table cell ∈ log ∧ cell.row = row ∧ cell.column = column := by
  have hmem := List.mem_map_of_mem (f := LoggedWrite.ofCell table) hcell
  rw [h.map_versions] at hmem
  obtain ⟨hlog, hat⟩ := List.mem_filter.mp (Versions.mem_of_mem_newest hmem)
  obtain ⟨-, hat⟩ := of_decide_eq_true hat
  exact ⟨hlog, of_decide_eq_true hat⟩

/-- Before the sequence ids run out every write has a greater one than those before it. -/
theorem ascending_sequenceIds (h : AccountedBy c log) (hids : log.length < 2 ^ 64) :
    log.Pairwise (fun v w ↦ v.sequenceId < w.sequenceId) := by
  have hmap : (log.map LoggedWrite.sequenceId).Pairwise (fun m n ↦ m < n) := by
    rw [h.sequenceIds, List.pairwise_map]
    refine List.pairwise_lt_range.imp_of_mem fun {i j} hi hj hij ↦ ?_
    rw [List.mem_range] at hi hj
    rw [UInt64.lt_iff_toNat_lt, UInt64.toNat_ofNat', UInt64.toNat_ofNat',
      Nat.mod_eq_of_lt (by omega), Nat.mod_eq_of_lt (by omega)]
    omega
  exact List.pairwise_map.mp hmap

theorem eq_of_sequenceId_eq (h : AccountedBy c log) (hids : log.length < 2 ^ 64)
    {v w : LoggedWrite} (hv : v ∈ log) (hw : w ∈ log) (hvw : v.sequenceId = w.sequenceId) :
    v = w := by
  have hnodup : (log.map LoggedWrite.sequenceId).Nodup := by
    refine List.pairwise_map.mpr ((h.ascending_sequenceIds hids).imp fun {v w} hlt heq ↦ ?_)
    exact UInt64.ne_of_lt hlt heq
  exact List.inj_on_of_nodup_map hnodup hv hw hvw

/-- The versions of a column after an operation, from what was written up to then. -/
theorem versions_perform (h : AccountedBy c log) (operation : Operation) (table : String)
    (row : Bytes) (column : Column) :
    ((c.perform operation).versions table row column).map (LoggedWrite.ofCell table) =
      Versions.newest LoggedWrite.timestamp (c.retained table column.family)
        ((log ++ c.accepted operation).filter (·.isAt table row column)) := by
  rw [(h.perform operation).map_versions]
  cases c.effect operation with
  | quiet same accepted => rw [retained, retained, same.tables]
  | created descriptor absent tables sequence accepted =>
      by_cases hname : table = descriptor.name
      · subst hname
        rw [accepted, List.append_nil, h.filter_eq_nil absent, Versions.newest_nil,
          Versions.newest_nil]
      · rw [retained, retained, tables, OrderedMap.get?_insert_of_ne _ hname]
  | stored name t cells present tables sequence accepted =>
      by_cases hname : table = name
      · subst hname
        rw [retained, retained, tables, OrderedMap.get?_insert_self, present]
        dsimp only
        rw [StoredTable.retained_foldl_store]
      · rw [retained, retained, tables, OrderedMap.get?_insert_of_ne _ hname]

end AccountedBy

/-- The versions of a column are the newest of all that were ever written to it: the greatest times,
as many as the table retains, each with the last write at that time. Cutting after every write
keeps just what cutting once at the end would keep. -/
theorem Reached.versions_eq_newest {c : Cluster} {log : List LoggedWrite} (h : Reached c log)
    (table : String) (row : Bytes) (column : Column) :
    (c.versions table row column).map (LoggedWrite.ofCell table) =
        Versions.newest LoggedWrite.timestamp (c.retained table column.family)
          (log.filter (·.isAt table row column)) ∧
      (c.versions table row column).Pairwise (fun v w ↦ w.timestamp < v.timestamp) ∧
      ∀ (count : Nat) (cells : List Cell),
        cells.foldl (fun vs cell ↦ addVersion count cell vs) [] =
          (cells.foldl (fun vs cell ↦
            insertVersion cell (vs.filter (·.timestamp ≠ cell.timestamp))) []).take count := by
  refine ⟨h.accounted.map_versions table row column,
    h.accounted.descending_versions table row column, fun count cells ↦ ?_⟩
  exact Versions.foldl_addVersion count cells

/-- Writes of one column out of order, with a time that is written twice and one that has already
been cut off, and a write of another column. -/
def sampleBatch : List Put :=
  [⟨[114], [⟨[102], [97], some 5, [50], []⟩, ⟨[102], [97], some (-3), [30], []⟩,
    ⟨[102], [97], none, [40], []⟩, ⟨[102], [97], some (-3), [31], []⟩,
    ⟨[102], [97], some 5, [51], [7]⟩, ⟨[103], [], some 1, [], []⟩]⟩]

/-- A cluster with one table, of whose two families the first retains two versions. -/
def sample : Cluster :=
  (((Cluster.new "localhost" 2181 "/hbase").perform
    (.createTable ⟨"t", [⟨[102], 2⟩, ⟨[103], 1⟩]⟩)).perform (.put ⟨"t", 1⟩ 4 sampleBatch))

def sampleLog : List LoggedWrite :=
  LoggedWrite.number "t" 0 ((Put.writes sampleBatch).map (Put.fieldsOf 4))

theorem reached_sample : Reached sample sampleLog :=
  ((Reached.new "localhost" 2181 "/hbase").perform _).perform _

theorem versions_of_sample :
    (sample.versions "t" [114] ⟨[102], [97]⟩).map (LoggedWrite.ofCell "t") =
        Versions.newest LoggedWrite.timestamp 2
          (sampleLog.filter (·.isAt "t" [114] ⟨[102], [97]⟩)) ∧
      (sample.versions "t" [114] ⟨[102], [97]⟩).map
          (fun cell ↦ (cell.timestamp, cell.value, cell.tags, cell.sequenceId)) =
        [(5, [51], [7], 5), (4, [40], [], 3)] :=
  ⟨(reached_sample.versions_eq_newest "t" [114] ⟨[102], [97]⟩).1, rfl⟩

end Cluster

end ColumnStore
