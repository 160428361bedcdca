import ColumnStore.Proofs.Versions

/-!
# What a write does

A batch that is written goes to the versions of its columns and nowhere else
(`versionsIn_foldl_store`), and a write either stores its whole batch or changes no table (`put_cases`).
-/

namespace ColumnStore

def CellFields.column (f : CellFields) : Column :=
  ⟨f.family, f.qualifier⟩

theorem Cell.column_eq (c : Cell) : c.column = c.fields.column := rfl

def CellFields.isAt (f : CellFields) (row : Bytes) (column : Column) : Bool :=
  f.row = row ∧ f.column = column

/-! ## Storing -/

namespace StoredTable

def numbered (sequence : UInt64) : List Cell → List Cell
  | [] => []
  | cell :: cells => cell.withSequenceId (sequence + 1) :: numbered (sequence + 1) cells

theorem storeAll_eq (t : StoredTable) (sequence : UInt64) (cells : List Cell) :
    t.storeAll sequence cells =
      ((numbered sequence cells).foldl store t, sequence + UInt64.ofNat cells.length) := by
  induction cells generalizing t sequence with
  | nil => simp [storeAll, numbered]
  | cons cell cells ih =>
      have hnext : sequence + 1 + UInt64.ofNat cells.length =
          sequence + UInt64.ofNat (cell :: cells).length := by
        rw [List.length_cons, UInt64.ofNat_add, UInt64.add_assoc]
        congr 1
        exact UInt64.add_comm _ _
      rw [storeAll, ih, hnext, numbered, List.foldl_cons]

@[simp] theorem descriptor_foldl_store (t : StoredTable) (cells : List Cell) :
    (cells.foldl store t).descriptor = t.descriptor := by
  induction cells generalizing t with
  | nil => rfl
  | cons cell cells ih => rw [List.foldl_cons, ih, store]

theorem retained_foldl_store (t : StoredTable) (cells : List Cell) (family : Bytes) :
    (cells.foldl store t).retained family = t.retained family := by
  rw [retained, descriptor_foldl_store, retained]

end StoredTable

namespace Cluster

/-- The versions of a column that some rows hold, newest first. -/
def versionsIn (rows : OrderedMap Bytes Row) (row : Bytes) (column : Column) : List Cell :=
  (((rows.get? row).getD ∅).get? column).getD []

theorem versions_eq (c : Cluster) (table : String) (row : Bytes) (column : Column) :
    c.versions table row column = versionsIn (c.rows table) row column := by
  unfold versions versionsIn
  split
  · next hrow => simp [hrow]
  · next columns hrow => rw [hrow, Option.getD_some]

theorem versionsIn_store (t : StoredTable) (cell : Cell) (row : Bytes) (column : Column) :
    versionsIn (t.store cell).rows row column =
      if cell.fields.isAt row column then
        addVersion (t.retained column.family) cell (versionsIn t.rows row column)
      else versionsIn t.rows row column := by
  simp only [versionsIn, StoredTable.store, OrderedMap.get?_alter, CellFields.isAt,
    decide_eq_true_eq]
  by_cases hrow : row = cell.row
  · subst hrow
    by_cases hcolumn : column = cell.column
    · subst hcolumn
      have hat : cell.fields.row = cell.row ∧ cell.fields.column = cell.column := ⟨rfl, rfl⟩
      simp only [if_true, Option.getD_some, OrderedMap.get?_alter, hat, and_self]
      rfl
    · have hat : ¬cell.fields.column = column := fun h ↦ hcolumn h.symm
      simp [OrderedMap.get?_alter, hcolumn, hat]
  · have hat : ¬cell.fields.row = row := fun h ↦ hrow h.symm
    simp [hrow, hat]

theorem versionsIn_foldl_store (t : StoredTable) (cells : List Cell) (row : Bytes)
    (column : Column) :
    versionsIn (cells.foldl StoredTable.store t).rows row column =
      (cells.filter (·.fields.isAt row column)).foldl
        (fun vs cell ↦ addVersion (t.retained column.family) cell vs)
        (versionsIn t.rows row column) := by
  induction cells generalizing t with
  | nil => rfl
  | cons cell cells ih =>
      have hretained : (t.store cell).retained column.family = t.retained column.family := rfl
      rw [List.foldl_cons, ih, hretained, versionsIn_store]
      by_cases hat : cell.fields.isAt row column <;> simp [hat]

end Cluster

/-! ## Laying out a batch -/

namespace Put

def fieldsOf (now : Timestamp) (write : Bytes × ColumnWrite) : CellFields where
  row := write.1
  family := write.2.family
  qualifier := write.2.qualifier
  timestamp := write.2.timestamp.getD now
  type := .put
  value := write.2.value
  tags := write.2.tags

theorem fields_of_encodeAll {now : Timestamp} {writes : List (Bytes × ColumnWrite)}
    {cells : List Cell} (h : encodeAll now writes = .ok cells) :
    cells.map Cell.fields = writes.map (fieldsOf now) := by
  induction writes generalizing cells with
  | nil =>
      cases h
      rfl
  | cons write writes ih =>
      obtain ⟨row, w⟩ := write
      simp only [encodeAll] at h
      split at h
      · cases h
      · next cell hcell =>
        split at h
        · cases h
        · next cells' hcells =>
          cases h
          rw [List.map_cons, List.map_cons, ih hcells, (Cell.fields_of_pack? hcell).1]
          rfl

end Put

/-! ## Writing a batch -/

namespace Cluster

theorem attempt_eq (c : Cluster) (action : Cluster → Except StoreError Cluster) (left : Nat) :
    c.attempt action left =
      if c.faults.puts < left then
        ({ c with faults.puts := 0 }, some (action { c with faults.puts := 0 }))
      else ({ c with faults.puts := c.faults.puts - left }, none) := by
  induction left generalizing c with
  | zero => rfl
  | succ left ih =>
      rw [attempt]
      by_cases hnone : c.faults.puts = 0
      · have hsame : { c with faults.puts := 0 } = c := by rw [← hnone]
        rw [if_pos hnone, hsame, if_pos (by omega)]
      · rw [if_neg hnone, ih]
        by_cases hless : c.faults.puts < left + 1
        · rw [if_pos (by simp only; omega), if_pos hless]
        · rw [if_neg (by simp only; omega), if_neg hless]
          have hleft : c.faults.puts - 1 - left = c.faults.puts - (left + 1) := by omega
          simp only [hleft]

theorem checkFamilies_eq_ok_iff {d : TableDescriptor} {families : List Bytes} :
    checkFamilies d families = .ok () ↔ ∀ family ∈ families, (d.family? family).isSome := by
  have hnone : checkFamilies d families = .ok () ↔ d.undeclared? families = none := by
    unfold checkFamilies
    split <;> simp_all
  rw [hnone, TableDescriptor.undeclared?, List.find?_eq_none]
  simp [Option.isSome_iff_ne_none]

/-- A write that succeeds finds its table and all its families, and stores its whole batch. Any other
write uses up failures and changes nothing else. -/
theorem put_cases (c : Cluster) (handle : TableHandle) (now : Timestamp) (puts : List Put) :
    (∃ e left, (c.put handle now puts).result = .error e ∧ left ≤ c.faults.puts ∧
      (c.put handle now puts).state = { c with faults.puts := left }) ∨
    ∃ t cells, c.tables.get? handle.name = some t ∧
      (∀ write ∈ Put.writes puts, (t.descriptor.family? write.2.family).isSome) ∧
      Put.encodeAll now (Put.writes puts) = .ok cells ∧
      (c.put handle now puts).result = .ok () ∧
      (c.put handle now puts).state = { c with
        tables := c.tables.insert handle.name (t.storeAll c.sequence cells).1
        sequence := (t.storeAll c.sequence cells).2
        batches := c.batches ++ [⟨handle.name, puts.map (·.row)⟩]
        faults.puts := 0 } := by
  unfold put table?
  cases htable : c.tables.get? handle.name with
  | none => exact .inl ⟨_, c.faults.puts, rfl, Nat.le_refl _, rfl⟩
  | some t =>
      cases hfamilies : checkFamilies t.descriptor ((Put.writes puts).map (·.2.family)) with
      | error e => exact .inl ⟨e, c.faults.puts, by simp [hfamilies], Nat.le_refl _, by simp [hfamilies]⟩
      | ok _ =>
          simp only [hfamilies, attempt_eq]
          by_cases hless : c.faults.puts < handle.attempts
          · simp only [if_pos hless, apply]
            cases hcells : Put.encodeAll now (Put.writes puts) with
            | error fault => exact .inl ⟨_, 0, rfl, Nat.zero_le _, rfl⟩
            | ok cells =>
                have hdeclared := checkFamilies_eq_ok_iff.mp hfamilies
                refine .inr ⟨t, cells, rfl, fun write hwrite ↦ ?_, rfl, rfl, rfl⟩
                exact hdeclared _ (List.mem_map_of_mem hwrite)
          · simp only [if_neg hless]
            exact .inl ⟨_, _, rfl, Nat.sub_le _ _, rfl⟩

end Cluster

end ColumnStore
