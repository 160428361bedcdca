import ColumnStore.Proofs.CellLayout
import ColumnStore.Proofs.Scanning

/-!
# How a cluster keeps its cells

Every cell is found where its own octets say, in a family of its table and among no more versions than
the family retains, the newest first (`StoredTable.Orderly`). The sequence ids are given out in
ascending order, so that no two stored cells have the same one (`Reached.representation`).
-/

namespace ColumnStore

theorem OrderedMap.nodup_flatMap {κ : Type u} {α : Type v} {β : Type w} [Ord κ] [Std.TransOrd κ]
    {m : OrderedMap κ α} {f : κ × α → List β} (key : β → κ)
    (hkey : ∀ e ∈ m.entries, ∀ x ∈ f e, key x = e.1) (hf : ∀ e ∈ m.entries, (f e).Nodup) :
    (m.entries.flatMap f).Nodup := by
  refine List.pairwise_flatMap.mpr ⟨hf, m.ascending.imp_of_mem ?_⟩
  intro d e hd he hlt x hx y hy hxy
  have hkeys : d.1 = e.1 := by rw [← hkey d hd x hx, hxy, hkey e he y hy]
  simp [hkeys] at hlt

namespace StoredTable

/-- A table holds some versions in a column of a row. -/
def Holds (t : StoredTable) (key : Bytes) (column : Column) (versions : List Cell) : Prop :=
  ∃ row, (key, row) ∈ t.rows.entries ∧ (column, versions) ∈ row.entries

/-- Every cell is where its octets say, is a put and belongs to a family of the table, and every column
has its versions in order and no more of them than its family retains. -/
structure Orderly (t : StoredTable) : Prop where
  placed : ∀ key column versions, t.Holds key column versions → ∀ cell ∈ versions,
    cell.row = key ∧ cell.family = column.family ∧ cell.qualifier = column.qualifier
  put : ∀ key column versions, t.Holds key column versions → ∀ cell ∈ versions,
    cell.type? = some .put
  declared : ∀ key column versions, t.Holds key column versions → versions ≠ [] →
    ∃ family, t.descriptor.family? column.family = some family
  descending : ∀ key column versions, t.Holds key column versions →
    versions.Pairwise fun v w ↦ w.timestamp < v.timestamp
  retained : ∀ key column versions, t.Holds key column versions →
    ∀ family, t.descriptor.family? column.family = some family →
      versions.length ≤ family.maxVersions

def cells (t : StoredTable) : List Cell :=
  t.rows.entries.flatMap fun (_, row) ↦ row.entries.flatMap fun (_, versions) ↦ versions

theorem mem_cells {t : StoredTable} {cell : Cell} :
    cell ∈ t.cells ↔ ∃ key column versions, t.Holds key column versions ∧ cell ∈ versions := by
  simp only [cells, List.mem_flatMap, Holds]
  constructor
  · rintro ⟨⟨key, row⟩, hrow, ⟨column, versions⟩, hversions, hcell⟩
    exact ⟨key, column, versions, ⟨row, hrow, hversions⟩, hcell⟩
  · rintro ⟨key, column, versions, ⟨row, hrow, hversions⟩, hcell⟩
    exact ⟨(key, row), hrow, (column, versions), hversions, hcell⟩

theorem Orderly.nodup_cells {t : StoredTable} (h : t.Orderly) : t.cells.Nodup := by
  refine OrderedMap.nodup_flatMap Cell.row ?_ ?_
  · rintro ⟨key, row⟩ hrow cell hcell
    obtain ⟨⟨column, versions⟩, hversions, hcell⟩ := List.mem_flatMap.mp hcell
    exact (h.placed key column versions ⟨row, hrow, hversions⟩ cell hcell).1
  · rintro ⟨key, row⟩ hrow
    refine OrderedMap.nodup_flatMap Cell.column ?_ ?_
    · rintro ⟨column, versions⟩ hversions cell hcell
      obtain ⟨-, hfamily, hqualifier⟩ :=
        h.placed key column versions ⟨row, hrow, hversions⟩ cell hcell
      exact congrArg₂ Column.mk hfamily hqualifier
    · rintro ⟨column, versions⟩ hversions
      refine (h.descending key column versions ⟨row, hrow, hversions⟩).imp ?_
      rintro v w hlt rfl
      exact Int64.lt_irrefl hlt

end StoredTable

namespace Cluster

variable {c : Cluster} {log : List LoggedWrite}

/-- All cells of a cluster, each with the name of its table. -/
def stored (c : Cluster) : List (String × Cell) :=
  c.tables.entries.flatMap fun (name, t) ↦ t.cells.map (name, ·)

theorem mem_stored {name : String} {cell : Cell} :
    (name, cell) ∈ c.stored ↔ ∃ t, c.tables.get? name = some t ∧ cell ∈ t.cells := by
  simp only [stored, List.mem_flatMap, List.mem_map]
  constructor
  · rintro ⟨⟨name', t⟩, ht, cell', hcell, hsame⟩
    obtain ⟨rfl, rfl⟩ := Prod.mk.inj hsame
    exact ⟨t, OrderedMap.mem_entries_iff.mp ht, hcell⟩
  · rintro ⟨t, ht, hcell⟩
    exact ⟨(name, t), OrderedMap.mem_entries_iff.mpr ht, cell, hcell, rfl⟩

theorem nodup_stored (h : ∀ name t, c.tables.get? name = some t → t.Orderly) : c.stored.Nodup := by
  refine OrderedMap.nodup_flatMap Prod.fst ?_ ?_
  · rintro ⟨name, t⟩ - x hx
    obtain ⟨cell, -, rfl⟩ := List.mem_map.mp hx
    rfl
  · rintro ⟨name, t⟩ ht
    have hcells := (h name t (OrderedMap.mem_entries_iff.mp ht)).nodup_cells
    refine List.pairwise_map.mpr (hcells.imp ?_)
    intro v w hne hvw
    exact hne (Prod.mk.inj hvw).2

/-! ## What is written -/

/-- Every write of a history was a put, to a family that its table declares. -/
def Declares (c : Cluster) (log : List LoggedWrite) : Prop :=
  ∀ w ∈ log, w.fields.type = .put ∧
    ∃ t, c.tables.get? w.table = some t ∧ (t.descriptor.family? w.fields.family).isSome

/-- No operation drops a table or changes what it declares. -/
theorem descriptor_perform (operation : Operation) {name : String} {t : StoredTable}
    (ht : c.tables.get? name = some t) :
    ∃ t', (c.perform operation).tables.get? name = some t' ∧ t'.descriptor = t.descriptor := by
  cases c.effect operation with
  | quiet same accepted => exact ⟨t, by rw [same.tables, ht], rfl⟩
  | created descriptor absent tables sequence accepted =>
      have hne : name ≠ descriptor.name := by
        rintro rfl
        rw [ht] at absent
        cases absent
      exact ⟨t, by rw [tables, OrderedMap.get?_insert_of_ne _ hne, ht], rfl⟩
  | stored name' t' cells present tables sequence accepted =>
      by_cases hname : name = name'
      · subst hname
        cases ht.symm.trans present
        exact ⟨_, by rw [tables, OrderedMap.get?_insert_self],
          StoredTable.descriptor_foldl_store _ _⟩
      · exact ⟨t, by rw [tables, OrderedMap.get?_insert_of_ne _ hname, ht], rfl⟩

/-- What an operation writes goes to families that are declared before it. -/
theorem declares_accepted (c : Cluster) (operation : Operation) :
    c.Declares (c.accepted operation) := by
  intro w hw
  cases operation with
  | put handle now puts =>
      rcases c.put_cases handle now puts with ⟨e, -, herror, -⟩ |
        ⟨t, cells, htable, hdeclared, -, hok, -⟩
      · rw [accepted, herror] at hw
        cases hw
      · rw [accepted, hok] at hw
        have hfields := List.mem_map_of_mem (f := LoggedWrite.fields) hw
        rw [LoggedWrite.map_fields_number] at hfields
        obtain ⟨write, hwrite, hfields⟩ := List.mem_map.mp hfields
        rw [LoggedWrite.table_of_mem_number hw, ← hfields]
        exact ⟨rfl, t, htable, hdeclared write hwrite⟩
  | _ => cases hw

theorem Declares.perform (h : c.Declares log) (operation : Operation) :
    (c.perform operation).Declares (log ++ c.accepted operation) := by
  intro w hw
  have hbefore : c.Declares (log ++ c.accepted operation) :=
    List.forall_mem_append.mpr ⟨h, c.declares_accepted operation⟩
  obtain ⟨htype, t, ht, hfamily⟩ := hbefore w hw
  obtain ⟨t', ht', hdescriptor⟩ := descriptor_perform operation ht
  exact ⟨htype, t', ht', by rw [hdescriptor]; exact hfamily⟩

theorem Reached.declares (h : Reached c log) : c.Declares log := by
  induction h with
  | new quorum port parent => exact fun w hw ↦ absurd hw List.not_mem_nil
  | perform _ operation ih => exact ih.perform operation

/-! ## What is stored -/

theorem versions_of_holds {name : String} {t : StoredTable} (ht : c.tables.get? name = some t)
    {key : Bytes} {column : Column} {versions : List Cell} (h : t.Holds key column versions) :
    c.versions name key column = versions := by
  obtain ⟨row, hrow, hversions⟩ := h
  have hrows : c.rows name = t.rows := by rw [rows, ht]
  exact versions_of_mem (hrows ▸ hrow) hversions

/-- Whatever a table holds was written to it, so it has the form in which cells are written. -/
theorem Reached.orderly (h : Reached c log) {name : String} {t : StoredTable}
    (ht : c.tables.get? name = some t) : t.Orderly := by
  -- What a table holds are the versions that the history accounts for.
  have hmem : ∀ key column versions, t.Holds key column versions → ∀ cell ∈ versions,
      LoggedWrite.ofCell name cell ∈ log ∧ cell.row = key ∧ cell.column = column := by
    intro key column versions hholds cell hcell
    rw [← versions_of_holds ht hholds] at hcell
    exact h.accounted.of_mem_versions hcell
  constructor
  case placed =>
    intro key column versions hholds cell hcell
    obtain ⟨-, hrow, hcolumn⟩ := hmem key column versions hholds cell hcell
    exact ⟨hrow, Column.mk.inj hcolumn⟩
  case put =>
    intro key column versions hholds cell hcell
    obtain ⟨htype, -⟩ := h.declares _ (hmem key column versions hholds cell hcell).1
    rw [cell.holds_fields.type]
    exact congrArg some htype
  case declared =>
    intro key column versions hholds hne
    obtain ⟨cell, hcell⟩ := List.exists_mem_of_ne_nil versions hne
    obtain ⟨hlog, -, rfl⟩ := hmem key column versions hholds cell hcell
    obtain ⟨-, t', ht', hfamily⟩ := h.declares _ hlog
    cases ht.symm.trans ht'
    exact Option.isSome_iff_exists.mp hfamily
  case descending =>
    intro key column versions hholds
    rw [← versions_of_holds ht hholds]
    exact h.accounted.descending_versions name key column
  case retained =>
    intro key column versions hholds family hfamily
    have hlength := congrArg List.length (h.accounted.map_versions name key column)
    have hretained : c.retained name column.family = family.maxVersions := by
      simp only [Cluster.retained, ht, StoredTable.retained, hfamily]
    rw [List.length_map, versions_of_holds ht hholds, hretained] at hlength
    rw [hlength]
    exact Versions.length_newest_le _ _

theorem Reached.of_mem_stored (h : Reached c log) {name : String} {cell : Cell}
    (hcell : (name, cell) ∈ c.stored) : LoggedWrite.ofCell name cell ∈ log := by
  obtain ⟨t, ht, hcell⟩ := mem_stored.mp hcell
  obtain ⟨key, column, versions, hholds, hcell⟩ := StoredTable.mem_cells.mp hcell
  rw [← versions_of_holds ht hholds] at hcell
  exact (h.accounted.of_mem_versions hcell).1

theorem AccountedBy.sequenceId_le (h : AccountedBy c log) (hids : log.length < 2 ^ 64)
    {w : LoggedWrite} (hw : w ∈ log) : 0 < w.sequenceId ∧ w.sequenceId ≤ c.sequence := by
  have hmem := List.mem_map_of_mem (f := LoggedWrite.sequenceId) hw
  rw [h.sequenceIds] at hmem
  obtain ⟨i, hi, hid⟩ := List.mem_map.mp hmem
  rw [List.mem_range] at hi
  rw [← hid, h.sequence, UInt64.lt_iff_toNat_lt, UInt64.le_iff_toNat_le, UInt64.toNat_ofNat',
    UInt64.toNat_ofNat', Nat.mod_eq_of_lt (by omega), Nat.mod_eq_of_lt hids]
  exact ⟨Nat.succ_pos i, hi⟩

theorem Reached.eq_of_sequenceId_eq (h : Reached c log) (hids : log.length < 2 ^ 64) :
    ∀ v ∈ c.stored, ∀ w ∈ c.stored, v.2.sequenceId = w.2.sequenceId → v = w := by
  rintro ⟨name, v⟩ hv ⟨name', w⟩ hw hsame
  have hwrite : LoggedWrite.ofCell name v = LoggedWrite.ofCell name' w :=
    h.accounted.eq_of_sequenceId_eq hids (h.of_mem_stored hv) (h.of_mem_stored hw) hsame
  obtain rfl : name = name' := congrArg LoggedWrite.table hwrite
  rw [LoggedWrite.ofCell_injective hwrite]

/-- Whatever is done to a cluster, its tables are orderly. As long as the sequence ids do not run out,
those of all stored cells are different, positive and not greater than the last one that was given
out, and so a cell is told from all others by its identity. A later write has a greater sequence id
than all before it, in the same batch or in another, and every stored cell is one of these writes. -/
theorem Reached.representation (h : Reached c log) (hids : log.length < 2 ^ 64) :
    (∀ name t, c.tables.get? name = some t → t.Orderly) ∧
      (∀ e ∈ c.stored, 0 < e.2.sequenceId ∧ e.2.sequenceId ≤ c.sequence) ∧
      (c.stored.map (·.2.sequenceId)).Nodup ∧
      (∀ v ∈ c.stored, ∀ w ∈ c.stored,
        CellId.ofRecord (.ofCell v.2) = CellId.ofRecord (.ofCell w.2) → v = w) ∧
      (∀ e ∈ c.stored, LoggedWrite.ofCell e.1 e.2 ∈ log) ∧
      log.Pairwise fun v w ↦ v.sequenceId < w.sequenceId := by
  have horderly : ∀ name t, c.tables.get? name = some t → t.Orderly := fun name t ht ↦ h.orderly ht
  have hlogged : ∀ e ∈ c.stored, LoggedWrite.ofCell e.1 e.2 ∈ log := fun e he ↦ h.of_mem_stored he
  refine ⟨horderly, ?_, ?_, ?_, hlogged, h.accounted.ascending_sequenceIds hids⟩
  · intro e he
    exact h.accounted.sequenceId_le hids (hlogged e he)
  · exact (nodup_stored horderly).map_on (h.eq_of_sequenceId_eq hids)
  · intro v hv w hw hid
    exact h.eq_of_sequenceId_eq hids v hv w hw (congrArg CellId.sequenceId hid)

theorem representation_of_sample :
    sampleLog.length < 2 ^ 64 ∧
      sample.stored.map (fun e ↦ (e.1, e.2.sequenceId)) = [("t", 5), ("t", 3), ("t", 6)] ∧
      sample.sequence = 6 ∧ (sample.stored.map (·.2.sequenceId)).Nodup ∧
      ∀ e ∈ sample.stored, 0 < e.2.sequenceId ∧ e.2.sequenceId ≤ 6 := by
  have hids : sampleLog.length < 2 ^ 64 := by decide
  obtain ⟨-, hbounds, hnodup, -⟩ := reached_sample.representation hids
  exact ⟨hids, rfl, rfl, hnodup, hbounds⟩

end Cluster

end ColumnStore
