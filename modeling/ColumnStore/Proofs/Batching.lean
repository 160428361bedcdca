import ColumnStore.Proofs.Atomicity
import ColumnStore.Proofs.Grouping

/-!
# One by one or grouped

Requests that are grouped are written in another order, and only the last of those for a column.
Requests that are put one by one are all written, but under one timestamp, so that each takes the
place of the one before it. Both ways leave the same versions (`contents_foldl_store`), which differ at
most in their sequence ids (`put_group`).
-/

namespace ColumnStore

theorem CellFields.any_row_iff {fs : List CellFields} {row : Bytes} :
    fs.any (fun f ↦ row = f.row) ↔ ∃ column, fs.any (·.isAt row column) := by
  simp only [List.any_eq_true, decide_eq_true_eq, isAt]
  constructor
  · rintro ⟨f, hf, hrow⟩
    exact ⟨f.column, f, hf, hrow.symm, rfl⟩
  · rintro ⟨column, f, hf, hrow, -⟩
    exact ⟨f, hf, hrow.symm⟩

/-! ## What is stored -/

/-- The versions of each column of each row, apart from their sequence ids. -/
def StoredTable.contents (t : StoredTable) :
    OrderedMap Bytes (OrderedMap Column (List CellFields)) :=
  t.rows.mapValues fun row ↦ row.mapValues fun versions ↦ versions.map Cell.fields

/-- The descriptor of each table, and what is stored in it apart from sequence ids. -/
def Cluster.contents (c : Cluster) :
    OrderedMap String
      (TableDescriptor × OrderedMap Bytes (OrderedMap Column (List CellFields))) :=
  c.tables.mapValues fun t ↦ (t.descriptor, t.contents)

namespace StoredTable

open Cluster (versionsIn addVersion versionsIn_foldl_store)

variable {t : StoredTable} {cells cells' : List Cell} {row : Bytes} {column : Column}

theorem contents_eq {t u : StoredTable}
    (hrows : ∀ row, t.rows.contains row = u.rows.contains row)
    (hcolumns : ∀ row column, ((t.rows.get? row).getD ∅).contains column =
      ((u.rows.get? row).getD ∅).contains column)
    (hversions : ∀ row column, (versionsIn t.rows row column).map Cell.fields =
      (versionsIn u.rows row column).map Cell.fields) :
    t.contents = u.contents := by
  apply OrderedMap.mapValues_eq ∅ hrows
  intro row
  apply OrderedMap.mapValues_eq [] (hcolumns row)
  intro column
  exact hversions row column

theorem contains_row_store (t : StoredTable) (cell : Cell) (row : Bytes) :
    (t.store cell).rows.contains row = (t.rows.contains row || row = cell.row) := by
  rw [store, OrderedMap.contains_alter, Bool.or_comm]

theorem contains_column_store (t : StoredTable) (cell : Cell) (row : Bytes) (column : Column) :
    (((t.store cell).rows.get? row).getD ∅).contains column =
      (((t.rows.get? row).getD ∅).contains column || cell.fields.isAt row column) := by
  rw [store, OrderedMap.get?_alter]
  by_cases hrow : row = cell.row
  · subst hrow
    have hat : cell.fields.isAt cell.row column = decide (column = cell.column) :=
      decide_eq_decide.mpr ⟨fun h ↦ h.2.symm, fun h ↦ ⟨rfl, h.symm⟩⟩
    rw [if_pos rfl, Option.getD_some, OrderedMap.contains_alter, hat, Bool.or_comm]
  · have hat : cell.fields.isAt row column = false := decide_eq_false fun h ↦ hrow h.1.symm
    rw [if_neg hrow, hat, Bool.or_false]

/-- What each cell may bring about is there if it was before or if one of the cells does so. -/
theorem foldl_store_or (seen : StoredTable → Bool) {brings : CellFields → Bool}
    (hstore : ∀ t cell, seen (t.store cell) = (seen t || brings cell.fields)) (t : StoredTable)
    (cells : List Cell) :
    seen (cells.foldl store t) = (seen t || (cells.map Cell.fields).any brings) := by
  induction cells generalizing t with
  | nil => exact (Bool.or_false _).symm
  | cons cell cells ih => rw [List.foldl_cons, ih, hstore, List.map_cons, List.any_cons, Bool.or_assoc]

theorem contains_row_foldl_store (t : StoredTable) (cells : List Cell) (row : Bytes) :
    (cells.foldl store t).rows.contains row =
      (t.rows.contains row || (cells.map Cell.fields).any fun f ↦ row = f.row) :=
  foldl_store_or (fun t ↦ t.rows.contains row)
    (fun t cell ↦ contains_row_store t cell row) t cells

theorem contains_column_foldl_store (t : StoredTable) (cells : List Cell) (row : Bytes)
    (column : Column) :
    (((cells.foldl store t).rows.get? row).getD ∅).contains column =
      (((t.rows.get? row).getD ∅).contains column ||
        (cells.map Cell.fields).any (·.isAt row column)) :=
  foldl_store_or (fun t ↦ ((t.rows.get? row).getD ∅).contains column)
    (fun t cell ↦ contains_column_store t cell row column) t cells

theorem fields_numbered (sequence : UInt64) (cells : List Cell) :
    (numbered sequence cells).map Cell.fields = cells.map Cell.fields := by
  induction cells generalizing sequence with
  | nil => rfl
  | cons cell cells ih =>
      rw [numbered, List.map_cons, ih, Cell.fields_withSequenceId, List.map_cons]

theorem fields_versions_foldl_store
    (hdescending : Versions.Descending Cell.timestamp (versionsIn t.rows row column)) :
    (versionsIn (cells.foldl store t).rows row column).map Cell.fields =
      ((cells.map Cell.fields).filter (·.isAt row column)).foldl
        (fun fs f ↦ (Versions.place CellFields.timestamp f fs).take (t.retained column.family))
        ((versionsIn t.rows row column).map Cell.fields) := by
  rw [versionsIn_foldl_store, Versions.map_foldl_addVersion CellFields.timestamp (fun _ ↦ rfl) _ _ _
    hdescending, List.filter_map]
  rfl

/-- Two ways of storing cells come to the same if they write to the same columns and leave the same
versions in each of them. -/
theorem contents_foldl_store_eq
    (hcolumn : ∀ row column, (cells'.map Cell.fields).any (·.isAt row column) =
      (cells.map Cell.fields).any (·.isAt row column))
    (hversions : ∀ row column, (versionsIn (cells'.foldl store t).rows row column).map Cell.fields =
      (versionsIn (cells.foldl store t).rows row column).map Cell.fields) :
    (cells'.foldl store t).contents = (cells.foldl store t).contents := by
  apply contents_eq
  · intro row
    have hrow : (cells'.map Cell.fields).any (fun f ↦ row = f.row) =
        (cells.map Cell.fields).any fun f ↦ row = f.row := by
      rw [Bool.eq_iff_iff, CellFields.any_row_iff, CellFields.any_row_iff]
      simp only [hcolumn]
    rw [contains_row_foldl_store, contains_row_foldl_store, hrow]
  · intro row column
    rw [contains_column_foldl_store, contains_column_foldl_store, hcolumn]
  · exact hversions

/-- Storing just the last of the cells for each column comes to the same as storing all of them,
provided that they have one timestamp. -/
theorem contents_foldl_store (now : Timestamp)
    (hdescending : ∀ row column, Versions.Descending Cell.timestamp (versionsIn t.rows row column))
    (htime : ∀ f ∈ cells.map Cell.fields, f.timestamp = now)
    (hlast : ∀ row column, (cells'.map Cell.fields).filter (·.isAt row column) =
      ((cells.map Cell.fields).filter (·.isAt row column)).getLast?.toList) :
    (cells'.foldl store t).contents = (cells.foldl store t).contents := by
  apply contents_foldl_store_eq
  · intro row column
    have hfound : (cells'.map Cell.fields).find? (·.isAt row column) =
        (cells.map Cell.fields).reverse.find? (·.isAt row column) := by
      rw [← List.head?_filter, hlast, List.getLast?_filter, Option.head?_toList]
    rw [← List.isSome_find?, hfound, List.isSome_find?, List.any_reverse]
  · intro row column
    rw [fields_versions_foldl_store (hdescending row column), hlast,
      fields_versions_foldl_store (hdescending row column)]
    apply Versions.foldl_place_getLast? (t := now)
    intro f hf
    exact htime f (List.mem_of_mem_filter hf)

end StoredTable

/-! ## Putting one by one -/

namespace Put

def singly (requests : List WriteRequest) : List Put :=
  requests.map fun w ↦ (new (Bytes.ofString w.row)).add w.column

theorem writes_singly (requests : List WriteRequest) :
    writes (singly requests) = requests.map fun w ↦ (Bytes.ofString w.row, w.column) := by
  induction requests with
  | nil => rfl
  | cons w ws ih =>
      have hwrites : writes (singly (w :: ws)) =
          (Bytes.ofString w.row, w.column) :: writes (singly ws) := rfl
      rw [hwrites, ih, List.map_cons]

/-- The fields of all requests, as the store stamps them. -/
theorem fields_singly (now : Timestamp) (requests : List WriteRequest) :
    (writes (singly requests)).map (fieldsOf now) =
      requests.map fun w ↦ fieldsOf now (Bytes.ofString w.row, w.column) := by
  rw [writes_singly, List.map_map]
  rfl

theorem timestamp_singly {now : Timestamp} {requests : List WriteRequest} {f : CellFields}
    (h : f ∈ (writes (singly requests)).map (fieldsOf now)) : f.timestamp = now := by
  rw [fields_singly] at h
  obtain ⟨w, -, rfl⟩ := List.mem_map.mp h
  rfl

/-- Grouping leaves the last of the writes to each column. -/
theorem filter_group_eq_getLast? (now : Timestamp) (requests : List WriteRequest) (row : Bytes)
    (column : Column) :
    ((writes (group requests)).map (fieldsOf now)).filter (·.isAt row column) =
      (((writes (singly requests)).map (fieldsOf now)).filter
        (·.isAt row column)).getLast?.toList := by
  have hat : (fun f : CellFields ↦ f.isAt row column) ∘
      (fun w : WriteRequest ↦ fieldsOf now (Bytes.ofString w.row, w.column)) =
        fun w ↦ w.isAt row column := rfl
  rw [filter_group, fields_singly, List.filter_map, hat, List.getLast?_map, List.getLast?_filter,
    ← List.findRev?_eq_find?_reverse]
  congr 1
  apply Option.map_congr
  intro w hw
  rw [(WriteRequest.of_findRev? hw).2.1]

/-- What is written of grouped requests is written of single ones. -/
theorem mem_writes_singly {requests : List WriteRequest} {write : Bytes × ColumnWrite}
    (h : write ∈ writes (group requests)) : write ∈ writes (singly requests) := by
  obtain ⟨row, c⟩ := write
  have hmem : (row, c) ∈ (writes (group requests)).filter
      (fun e ↦ e.1 = row ∧ e.2.column = c.column) :=
    List.mem_filter.mpr ⟨h, decide_eq_true ⟨rfl, rfl⟩⟩
  rw [filter_writes (grouped_group requests), find_group, Option.mem_toList, Option.map_map,
    Option.map_eq_some_iff] at hmem
  obtain ⟨w, hfound, hw⟩ := hmem
  obtain ⟨hmem, hrow, -⟩ := WriteRequest.of_findRev? hfound
  cases hw
  rw [writes_singly, ← hrow]
  exact List.mem_map_of_mem hmem

end Put

theorem StoredTable.descriptor_storeAll (t : StoredTable) (sequence : UInt64) (cells : List Cell) :
    (t.storeAll sequence cells).1.descriptor = t.descriptor := by
  rw [storeAll_eq, descriptor_foldl_store]

theorem StoredTable.contents_storeAll {t : StoredTable} {now : Timestamp}
    {requests : List WriteRequest} {single grouped : List Cell} (sequence : UInt64)
    (hdescending : ∀ row column,
      Versions.Descending Cell.timestamp (Cluster.versionsIn t.rows row column))
    (hsingle : Put.encodeAll now (Put.writes (Put.singly requests)) = .ok single)
    (hgrouped : Put.encodeAll now (Put.writes (Put.group requests)) = .ok grouped) :
    (t.storeAll sequence grouped).1.contents = (t.storeAll sequence single).1.contents := by
  rw [storeAll_eq, storeAll_eq]
  apply contents_foldl_store now hdescending
  · intro f hf
    rw [fields_numbered, Put.fields_of_encodeAll hsingle] at hf
    exact Put.timestamp_singly hf
  · intro row column
    rw [fields_numbered, fields_numbered, Put.fields_of_encodeAll hgrouped,
      Put.fields_of_encodeAll hsingle]
    exact Put.filter_group_eq_getLast? now requests row column

/-! ## The same batch -/

namespace Cluster

variable {c : Cluster} {handle : TableHandle} {now : Timestamp} {requests : List WriteRequest}

theorem Takes.group (h : c.Takes handle now (Put.singly requests)) :
    c.Takes handle now (Put.group requests) := by
  obtain ⟨⟨t, htable, hdeclared⟩, hpatient, hfits⟩ := h
  refine ⟨⟨t, htable, ?_⟩, hpatient, ?_⟩
  · intro write hwrite
    exact hdeclared write (Put.mem_writes_singly hwrite)
  · intro write hwrite
    exact hfits write (Put.mem_writes_singly hwrite)

/-- Two clusters may differ in the sequence ids of their cells and in their records of batches, and
agree in everything else. -/
structure Agrees (c d : Cluster) : Prop where
  contents : c.contents = d.contents
  others : d = { c with tables := d.tables, sequence := d.sequence, batches := d.batches }

/-- If all requests can be put one by one in a batch, then their groups can as well, and they leave the
same rows, columns and versions in every table. -/
theorem Reached.put_group {log : List LoggedWrite} (h : Reached c log) (handle : TableHandle)
    (now : Timestamp) (requests : List WriteRequest)
    (hput : (c.put handle now (Put.singly requests)).result = .ok ()) :
    (c.put handle now (Put.group requests)).result = .ok () ∧
      (c.put handle now (Put.group requests)).state.Agrees
        (c.put handle now (Put.singly requests)).state ∧
      ∀ puts ∈ [Put.singly requests, Put.group requests],
        (c.put handle now puts).state.batches =
          c.batches ++ [⟨handle.name, puts.map Put.row⟩] := by
  have hgroup : (c.put handle now (Put.group requests)).result = .ok () :=
    put_of_takes (takes_of_put hput).group
  refine ⟨hgroup, ?_, ?_⟩
  · rcases c.put_cases handle now (Put.singly requests) with ⟨e, left, herror, -⟩ |
      ⟨t, cells, htable, -, hcells, -, hstate⟩
    · cases hput.symm.trans herror
    rcases c.put_cases handle now (Put.group requests) with ⟨e, left, herror, -⟩ |
      ⟨t', cells', htable', -, hcells', -, hstate'⟩
    · cases hgroup.symm.trans herror
    cases htable.symm.trans htable'
    have hdescending : ∀ row column,
        Versions.Descending Cell.timestamp (versionsIn t.rows row column) := by
      intro row column
      have hversions := h.accounted.descending_versions handle.name row column
      rwa [versions_eq, rows, htable] at hversions
    have hstored := StoredTable.contents_storeAll c.sequence hdescending hcells hcells'
    rw [hstate, hstate']
    constructor
    · simp only [contents, OrderedMap.mapValues_insert, StoredTable.descriptor_storeAll, hstored]
    · rfl
  · simp only [List.forall_mem_cons, List.not_mem_nil, false_imp_iff, implies_true, and_true]
    exact ⟨(wrote_of_put hput).batches, (wrote_of_put hgroup).batches⟩

/-- Requests for three columns of two rows, in turns. One column is asked for twice and has a version of
the same time already, and another one of later. -/
def sampleTurns : List WriteRequest :=
  [⟨"r", "f", "a", [1]⟩, ⟨"s", "g", "", [3]⟩, ⟨"r", "f", "b", [4]⟩, ⟨"r", "f", "a", [2]⟩]

theorem put_group_sampleTurns :
    (sample.put ⟨"t", 1⟩ 4 (Put.group sampleTurns)).state.Agrees
        (sample.put ⟨"t", 1⟩ 4 (Put.singly sampleTurns)).state ∧
      ((sample.put ⟨"t", 1⟩ 4 (Put.singly sampleTurns)).state.versions "t" [114] ⟨[102], [97]⟩).map
          (fun cell ↦ (cell.timestamp, cell.value, cell.sequenceId)) =
        [(5, [51], 5), (4, [2], 10)] ∧
      ((sample.put ⟨"t", 1⟩ 4 (Put.group sampleTurns)).state.versions "t" [114] ⟨[102], [97]⟩).map
          (fun cell ↦ (cell.timestamp, cell.value, cell.sequenceId)) =
        [(5, [51], 5), (4, [2], 7)] :=
  ⟨(reached_sample.put_group ⟨"t", 1⟩ 4 sampleTurns rfl).2.1, rfl, rfl⟩

end Cluster

end ColumnStore
