import ColumnStore.Proofs.History
import ColumnStore.Session

/-!
# What a scanner returns

A scanner that is asked for rows until it has none returns what one pass over the table finds
(`Fetches.rows_eq`), and without a limit it does come to that end (`Fetches.ending_eq`). The version
that it picks of a column is the one with the greatest time in the range (`pick_eq`).
-/

namespace ColumnStore

namespace Scan

/-! ## One pass over a table -/

/-- Of the versions of a column that are in the range of timestamps, the one with the greatest. -/
def newestInRange (s : Scan) (versions : List Cell) : Option Cell :=
  (versions.filter (fun cell ↦ s.timeRange.contains cell.timestamp)).maxOn? Cell.timestamp

/-- For every selected column of a row, in the order of columns, its newest version in the range. -/
def selected (s : Scan) (row : Row) : List Cell :=
  row.entries.filterMap fun (column, versions) ↦
    if s.selects column.family column.qualifier then s.newestInRange versions else none

def keep (key : Bytes) (cells : List Cell) : Option RowResult :=
  if cells.isEmpty then none else some ⟨key, cells⟩

/-- What a scan of a table is to return: in the order of keys what the filter leaves of each row,
unless it leaves nothing. -/
def returned (s : Scan) (rows : OrderedMap Bytes Row) : List RowResult :=
  rows.entries.filterMap fun (key, row) ↦ keep key (s.filtered (s.selected row))

def unfiltered (s : Scan) : Scan :=
  { s with filter := none }

/-- What a scanner that is still to see some rows can return of them. -/
def walk (s : Scan) (rows : List (Bytes × Row)) : List RowResult :=
  rows.filterMap fun (key, row) ↦ keep key (s.contents row)

theorem mem_keep {key : Bytes} {cells : List Cell} {r : RowResult} (h : keep key cells = some r) :
    r = ⟨key, cells⟩ ∧ cells ≠ [] := by
  unfold keep at h
  split at h
  · cases h
  · next hcells =>
    cases h
    exact ⟨rfl, fun hnil ↦ hcells (by rw [hnil]; rfl)⟩

theorem keep_of_mem {key : Bytes} {cells : List Cell} {cell : Cell} (h : cell ∈ cells) :
    keep key cells = some ⟨key, cells⟩ := by
  have hne : cells.isEmpty = false := by
    cases cells with
    | nil => cases h
    | cons _ _ => rfl
  rw [keep, hne]
  rfl

theorem maxOn?_of_descending {xs : List Cell} (h : Versions.Descending Cell.timestamp xs) :
    xs.maxOn? Cell.timestamp = xs.head? := by
  cases xs with
  | nil => rfl
  | cons x xs =>
      obtain ⟨hx, -⟩ := List.pairwise_cons.mp h
      rw [List.maxOn?_cons, List.head?_cons]
      cases hmax : xs.maxOn? Cell.timestamp with
      | none => rfl
      | some y =>
          have hle : y.timestamp ≤ x.timestamp := Int64.le_of_lt (hx y (List.maxOn?_mem hmax))
          rw [Option.elim_some, maxOn_eq_left hle]

theorem mem_of_newestInRange {s : Scan} {versions : List Cell} {cell : Cell}
    (h : s.newestInRange versions = some cell) :
    cell ∈ versions ∧ s.timeRange.contains cell.timestamp := by
  rw [newestInRange] at h
  exact List.mem_filter.mp (List.maxOn?_mem h)

theorem pick_eq (s : Scan) {versions : List Cell}
    (h : Versions.Descending Cell.timestamp versions) : s.pick versions = s.newestInRange versions := by
  have hrange : Versions.Descending Cell.timestamp
      (versions.filter fun cell ↦ s.timeRange.contains cell.timestamp) := h.filter _
  rw [newestInRange, maxOn?_of_descending hrange, List.head?_filter, pick]

theorem newestInRange_of_head? {s : Scan} {versions : List Cell}
    (h : Versions.Descending Cell.timestamp versions) {cell : Cell}
    (hhead : versions.head? = some cell) (hrange : s.timeRange.contains cell.timestamp) :
    s.newestInRange versions = some cell := by
  rw [← s.pick_eq h]
  cases versions with
  | nil => cases hhead
  | cons v vs =>
      cases hhead
      simp [pick, hrange]

theorem candidates_eq (s : Scan) {row : Row}
    (h : ∀ e ∈ row.entries, Versions.Descending Cell.timestamp e.2) :
    s.candidates row = s.selected row := by
  apply List.filterMap_congr
  rintro ⟨column, versions⟩ he
  have hpick := s.pick_eq (h _ he)
  simp only [hpick]

theorem walk_eq (s : Scan) {rows : OrderedMap Bytes Row}
    (h : ∀ e ∈ rows.entries, ∀ v ∈ e.2.entries, Versions.Descending Cell.timestamp v.2) :
    s.walk rows.entries = s.returned rows := by
  apply List.filterMap_congr
  intro e he
  simp only [contents, s.candidates_eq (h e he)]

theorem mem_returned {s : Scan} {rows : OrderedMap Bytes Row} {r : RowResult}
    (h : r ∈ s.returned rows) :
    r.cells ≠ [] ∧ ∃ row, (r.row, row) ∈ rows.entries ∧ r.cells = s.filtered (s.selected row) := by
  obtain ⟨⟨key, row⟩, hrow, hkeep⟩ := List.mem_filterMap.mp h
  obtain ⟨rfl, hcells⟩ := mem_keep hkeep
  exact ⟨hcells, row, hrow, rfl⟩

theorem ascending_returned (s : Scan) (rows : OrderedMap Bytes Row) :
    (s.returned rows).Pairwise (fun r r' ↦ compare r.row r'.row = .lt) := by
  refine List.pairwise_filterMap.mpr (rows.ascending.imp fun hlt r hr r' hr' ↦ ?_)
  rw [(mem_keep hr).1, (mem_keep hr').1]
  exact hlt

theorem nodup_returned (s : Scan) (rows : OrderedMap Bytes Row) :
    ((s.returned rows).map RowResult.row).Nodup := by
  apply OrderedMap.nodup_of_ascending
  exact List.pairwise_map.mpr (s.ascending_returned rows)

/-- Filtering is done row by row, after the cells are picked. -/
theorem returned_eq_filterMap (s : Scan) (rows : OrderedMap Bytes Row) :
    s.returned rows =
      (s.unfiltered.returned rows).filterMap (fun r ↦ keep r.row (s.filtered r.cells)) := by
  unfold returned
  rw [List.filterMap_filterMap]
  apply List.filterMap_congr
  rintro ⟨key, row⟩ -
  have hselected : s.unfiltered.filtered (s.unfiltered.selected row) = s.selected row := rfl
  simp only [hselected]
  cases hcells : s.selected row with
  | nil =>
      have hnil : s.filtered [] = [] := by
        unfold filtered
        split <;> rfl
      rw [hnil]
      rfl
  | cons cell cells => rfl

theorem mem_selected {s : Scan} {row : Row} {cell : Cell} :
    cell ∈ s.selected row ↔ ∃ column versions, (column, versions) ∈ row.entries ∧
      s.selects column.family column.qualifier ∧ s.newestInRange versions = some cell := by
  constructor
  · intro h
    obtain ⟨⟨column, versions⟩, he, hpick⟩ := List.mem_filterMap.mp h
    simp only at hpick
    split at hpick
    · next hselects => exact ⟨column, versions, he, hselects, hpick⟩
    · cases hpick
  · rintro ⟨column, versions, he, hselects, hpick⟩
    exact List.mem_filterMap.mpr ⟨(column, versions), he, (if_pos hselects).trans hpick⟩

theorem columns_filtered (s : Scan) (cells : List Cell) :
    ((s.filtered cells).map Cell.column).Sublist (cells.map Cell.column) := by
  unfold filtered
  split
  · next filter _ =>
    have hcolumn : ∀ cell : Cell,
        (if filter.stripsValues then cell.withoutValue else cell).column = cell.column := by
      intro cell
      split
      · rw [Cell.column_eq, cell.withoutValue_eq.1]
        rfl
      · rfl
    rw [Filter.apply, List.map_map, funext (f := Cell.column ∘ _) hcolumn]
    exact (filter.kept_sublist cells).map Cell.column
  · exact .refl _

/-! ## The first row and the rows after it -/

theorem walk_cons (s : Scan) (key : Bytes) (row : Row) (rows : List (Bytes × Row)) :
    s.walk ((key, row) :: rows) = (keep key (s.contents row)).toList ++ s.walk rows := by
  unfold walk
  cases hkeep : keep key (s.contents row) <;> simp [hkeep]

theorem firstRow?_eq_none {s : Scan} {rows : List (Bytes × Row)} (h : s.firstRow? rows = none) :
    s.walk rows = [] := by
  induction rows with
  | nil => rfl
  | cons e rows ih =>
      obtain ⟨key, row⟩ := e
      simp only [firstRow?] at h
      split at h
      · next hempty =>
        rw [walk_cons, keep, if_pos hempty, ih h]
        rfl
      · cases h

/-- The first row that is returned, and then those that are returned of the rows after it. -/
theorem walk_of_firstRow? {s : Scan} {rows : List (Bytes × Row)} {r : RowResult}
    (hrows : rows.Pairwise (fun a b ↦ compare a.1 b.1 = .lt)) (h : s.firstRow? rows = some r) :
    s.walk rows = r :: s.walk (rows.filter fun e ↦ compare e.1 r.row = .gt) := by
  induction rows with
  | nil => cases h
  | cons e rows ih =>
      obtain ⟨key, row⟩ := e
      obtain ⟨hkey, hrows⟩ := List.pairwise_cons.mp hrows
      simp only [firstRow?] at h
      split at h
      · next hempty =>
        -- A row of which nothing is left adds nothing, wherever it stands.
        have hnone : keep key (s.contents row) = none := if_pos hempty
        rw [walk_cons, hnone, ih hrows h, List.filter_cons]
        split
        · rw [walk_cons, hnone]
          rfl
        · rfl
      · next hsome =>
        cases h
        have hrest : rows.filter (fun e ↦ compare e.1 key = .gt) = rows := by
          rw [List.filter_eq_self]
          intro e he
          have hgt : compare e.1 key = .gt := Std.OrientedCmp.gt_of_lt (hkey e he)
          simp [hgt]
        rw [walk_cons, keep, if_neg hsome, List.filter_cons_of_neg (by simp), hrest]
        rfl

end Scan

/-! ## Asking for rows to the end -/

/-- Asking for rows again and again gives these ones, and then the end or an error. -/
inductive Fetches {S : Type} (next : S → Except StoreError (Option RowResult) × S) :
    S → List RowResult → Except StoreError Unit → S → Prop
  | done {s : S} (h : (next s).1 = .ok none) : Fetches next s [] (.ok ()) (next s).2
  | failed {s : S} {e : StoreError} (h : (next s).1 = .error e) :
    Fetches next s [] (.error e) (next s).2
  | row {s last : S} {r : RowResult} {rows : List RowResult} {ending : Except StoreError Unit}
    (h : (next s).1 = .ok (some r)) (rest : Fetches next (next s).2 rows ending last) :
    Fetches next s (r :: rows) ending last

/-- Any scanner of a store comes to an end. -/
theorem exists_fetches {σ : Type} [Store σ] (store : σ) (s : Store.Scanner σ) :
    ∃ rows ending last, Fetches (Store.next store) s rows ending last := by
  induction hn : Store.remaining store s using Nat.strongRecOn generalizing s with
  | ind n ih =>
      subst hn
      cases hnext : (Store.next store s).1 with
      | error e => exact ⟨_, _, _, .failed hnext⟩
      | ok found =>
          cases found with
          | none => exact ⟨_, _, _, .done hnext⟩
          | some r =>
              obtain ⟨rows, ending, last, hrest⟩ :=
                ih _ (Store.remaining_next_lt hnext) (Store.next store s).2 rfl
              exact ⟨_, _, _, .row hnext hrest⟩

namespace Cluster

variable {c : Cluster} {s : Scanner}

theorem next_of_row {r : RowResult} (h : (c.next s).1 = .ok (some r)) :
    s.scan.firstRow? (c.ahead s) = some r ∧
      (c.next s).2 = { s with position := some r.row, delivered := s.delivered + 1 } := by
  unfold next at h ⊢
  split at h
  · cases h
  · next hopen =>
    split at h
    · cases h
    · next hsound =>
      split at h
      · next hrow =>
        cases h
        exact ⟨hrow, by simp [hopen, hsound]⟩
      · cases h

/-- After a call that returns a row, the rows ahead give what they gave before without that row. -/
theorem walk_ahead_of_row {r : RowResult} (h : (c.next s).1 = .ok (some r)) :
    s.scan.walk (c.ahead s) = r :: s.scan.walk (c.ahead (c.next s).2) := by
  obtain ⟨hrow, hnext⟩ := next_of_row h
  obtain ⟨row, hmem⟩ := Scan.mem_of_firstRow? hrow
  have hascending := (c.rows s.table).ascending_after s.position
  have hahead : c.ahead (c.next s).2 = (c.ahead s).filter fun e ↦ compare e.1 r.row = .gt := by
    rw [hnext]
    exact OrderedMap.after_of_mem hmem
  rw [hahead]
  exact Scan.walk_of_firstRow? hascending hrow

theorem next_of_end (hopen : s.closed = false) (hmore : s.exhausted = false)
    (h : (c.next s).1 = .ok none) :
    s.scan.firstRow? (c.ahead s) = none ∧ (c.next s).2 = { s with exhausted := true } := by
  have hgo : ¬(s.closed || s.exhausted) = true := by simp [hopen, hmore]
  unfold next at h ⊢
  rw [if_neg hgo] at h ⊢
  split at h
  · cases h
  · next hsound =>
    split at h
    · cases h
    · next hrow => exact ⟨hrow, by simp [hsound]⟩

theorem next_of_exhausted (h : s.exhausted = true) : c.next s = (.ok none, s) := by
  rw [next, h, Bool.or_true, if_pos rfl]

theorem next_ne_error (h : s.failAfter = none) (e : StoreError) : (c.next s).1 ≠ .error e := by
  unfold next
  split
  · simp
  · rw [h, Option.any_none, if_neg Bool.false_ne_true]
    split <;> simp

end Cluster

namespace Fetches

variable {c : Cluster} {s last : Scanner} {rows : List RowResult} {ending : Except StoreError Unit}

theorem ending_eq (h : Fetches c.next s rows ending last) (hlimit : s.failAfter = none) :
    ending = .ok () := by
  induction h with
  | done _ => rfl
  | failed h => exact (Cluster.next_ne_error hlimit _ h).elim
  | row h _ ih =>
      apply ih
      rw [(Cluster.next_of_row h).2]
      exact hlimit

/-- What a scanner returns up to the end is what one pass over the rows ahead of it finds. At the end
it stays. -/
theorem rows_eq (h : Fetches c.next s rows (.ok ()) last) (hopen : s.closed = false)
    (hmore : s.exhausted = false) :
    rows = s.scan.walk (c.ahead s) ∧ last.exhausted = true := by
  generalize hending : Except.ok () = ending at h
  induction h with
  | done h =>
      obtain ⟨hrow, hlast⟩ := Cluster.next_of_end hopen hmore h
      exact ⟨(Scan.firstRow?_eq_none hrow).symm, congrArg Scanner.exhausted hlast⟩
  | failed _ => cases hending
  | row h _ ih =>
      have hwalk := Cluster.walk_ahead_of_row h
      rw [(Cluster.next_of_row h).2] at hwalk ih
      obtain ⟨hrows, hlast⟩ := ih hopen hmore hending
      exact ⟨by rw [hwalk, hrows], hlast⟩

theorem drain_eq (h : Fetches c.next s rows ending last) :
    Session.drain c s =
      (rows.map (fun r ↦ .ok (some r)) ++ [ending.map fun _ ↦ none], last) := by
  induction h with
  | done h =>
      rw [Session.drain]
      split <;> simp_all [Except.map]
  | failed h =>
      rw [Session.drain]
      split <;> simp_all [Except.map]
  | row h rest ih =>
      rw [Session.drain]
      split <;> simp_all [Except.map]

end Fetches

/-! ## Scanning a cluster -/

namespace Cluster

variable {c : Cluster} {log : List LoggedWrite}

theorem openScanner_eq {handle : TableHandle} {scan : Scan} {t : StoredTable}
    (ht : c.tables.get? handle.name = some t)
    (hfamilies : ∀ family ∈ scan.families.keys, (t.descriptor.family? family).isSome) :
    (c.openScanner handle scan).result =
      .ok { table := handle.name, scan, failAfter := c.faults.scans } := by
  have hcheck := checkFamilies_eq_ok_iff.mpr hfamilies
  simp only [openScanner, table?, ht, hcheck]

theorem versions_of_mem {table : String} {key : Bytes} {row : Row} {column : Column}
    {versions : List Cell} (hrow : (key, row) ∈ (c.rows table).entries)
    (hversions : (column, versions) ∈ row.entries) : c.versions table key column = versions := by
  rw [Cluster.versions, OrderedMap.mem_entries_iff.mp hrow]
  simp only [OrderedMap.mem_entries_iff.mp hversions, Option.getD_some]

theorem mem_entries_of_mem_versions {table : String} {key : Bytes} {column : Column} {cell : Cell}
    (h : cell ∈ c.versions table key column) :
    ∃ row, (key, row) ∈ (c.rows table).entries ∧
      (column, c.versions table key column) ∈ row.entries := by
  unfold versions at h ⊢
  cases hrow : (c.rows table).get? key with
  | none =>
      rw [hrow] at h
      cases h
  | some row =>
      rw [hrow] at h
      refine ⟨row, OrderedMap.mem_entries_iff.mpr hrow, OrderedMap.mem_entries_iff.mpr ?_⟩
      dsimp only at h ⊢
      cases hcolumn : row.get? column with
      | none =>
          rw [hcolumn] at h
          cases h
      | some versions => rfl

/-- A version that is picked is returned with its row, unless there is a filter. -/
theorem exists_mem_returned {scan : Scan} (hfilter : scan.filter = none) {table : String}
    {key : Bytes} {column : Column} {cell : Cell}
    (hselects : scan.selects column.family column.qualifier)
    (hpick : scan.newestInRange (c.versions table key column) = some cell) :
    ∃ r ∈ scan.returned (c.rows table), r.row = key ∧ cell ∈ r.cells := by
  obtain ⟨row, hrow, hversions⟩ :=
    mem_entries_of_mem_versions (Scan.mem_of_newestInRange hpick).1
  have hcell : cell ∈ scan.filtered (scan.selected row) := by
    rw [Scan.filtered, hfilter]
    exact Scan.mem_selected.mpr ⟨column, _, hversions, hselects, hpick⟩
  refine ⟨⟨key, scan.filtered (scan.selected row)⟩, ?_, rfl, hcell⟩
  exact List.mem_filterMap.mpr ⟨(key, row), hrow, Scan.keep_of_mem hcell⟩

namespace AccountedBy

/-- A cell that is returned without a filter is the version that is picked of its column. -/
theorem of_mem_returned (h : AccountedBy c log) {scan : Scan} (hfilter : scan.filter = none)
    {table : String} {r : RowResult} (hr : r ∈ scan.returned (c.rows table)) {cell : Cell}
    (hcell : cell ∈ r.cells) :
    cell.row = r.row ∧ scan.selects cell.family cell.qualifier ∧
      scan.newestInRange (c.versions table r.row cell.column) = some cell ∧
      LoggedWrite.ofCell table cell ∈ log := by
  obtain ⟨-, row, hrow, hcells⟩ := Scan.mem_returned hr
  rw [hcells, Scan.filtered, hfilter] at hcell
  obtain ⟨column, versions, hversions, hselects, hpick⟩ := Scan.mem_selected.mp hcell
  rw [← versions_of_mem hrow hversions] at hpick
  obtain ⟨hlog, hcellRow, hcolumn⟩ := h.of_mem_versions (Scan.mem_of_newestInRange hpick).1
  subst hcolumn
  exact ⟨hcellRow, hselects, hpick, hlog⟩

theorem walk_eq (h : AccountedBy c log) (scan : Scan) (table : String) :
    scan.walk (c.rows table).entries = scan.returned (c.rows table) := by
  apply Scan.walk_eq
  rintro ⟨key, row⟩ hrow ⟨column, versions⟩ hversions
  rw [← versions_of_mem hrow hversions]
  exact h.descending_versions table key column

theorem ascending_selected (h : AccountedBy c log) (scan : Scan) {table : String} {key : Bytes}
    {row : Row} (hrow : (key, row) ∈ (c.rows table).entries) :
    ((scan.selected row).map Cell.column).Pairwise (fun x y ↦ compare x y = .lt) := by
  -- Every cell that is picked carries the column under which it is found.
  have hcolumn : ∀ e ∈ row.entries, ∀ cell,
      (if scan.selects e.1.family e.1.qualifier then scan.newestInRange e.2 else none) = some cell →
        cell.column = e.1 := by
    rintro ⟨column, versions⟩ he cell hpick
    split at hpick
    · have hmem := (Scan.mem_of_newestInRange hpick).1
      rw [← versions_of_mem hrow he] at hmem
      exact (h.of_mem_versions hmem).2.2
    · cases hpick
  rw [List.pairwise_map]
  refine List.pairwise_filterMap.mpr (row.ascending.imp_of_mem ?_)
  intro e e' he he' hlt x hx y hy
  rw [hcolumn e he x hx, hcolumn e' he' y hy]
  exact hlt

theorem ascending_cells (h : AccountedBy c log) {scan : Scan} {table : String} {r : RowResult}
    (hr : r ∈ scan.returned (c.rows table)) :
    (r.cells.map Cell.column).Pairwise (fun x y ↦ compare x y = .lt) := by
  obtain ⟨-, row, hrow, hcells⟩ := Scan.mem_returned hr
  rw [hcells]
  exact (h.ascending_selected scan hrow).sublist (scan.columns_filtered _)

theorem nodup_cells (h : AccountedBy c log) {scan : Scan} {table : String} {r : RowResult}
    (hr : r ∈ scan.returned (c.rows table)) : (r.cells.map Cell.column).Nodup :=
  OrderedMap.nodup_of_ascending (h.ascending_cells hr)

/-- Asking a new scanner without a limit for rows to the end, while the rows of its table stay as they
are. -/
theorem drain_eq (h : AccountedBy c log) (scan : Scan) {table : String} {d : Cluster}
    (hd : d.rows table = c.rows table) :
    ∃ last, Session.drain d { table, scan, failAfter := none } =
        ((scan.returned (c.rows table)).map (fun r ↦ .ok (some r)) ++ [.ok none], last) ∧
      last.exhausted = true := by
  obtain ⟨rows, ending, last, hfetches⟩ :=
    exists_fetches d { table, scan, failAfter := none : Scanner }
  have hending := Fetches.ending_eq hfetches rfl
  subst hending
  obtain ⟨hrows, hlast⟩ := Fetches.rows_eq hfetches rfl rfl
  have hahead : d.ahead { table, scan, failAfter := none } = (c.rows table).entries := by
    rw [← hd]
    rfl
  rw [hahead, h.walk_eq] at hrows
  refine ⟨last, ?_, hlast⟩
  rw [Fetches.drain_eq hfetches, hrows]
  rfl

end AccountedBy

/-- Opening a scanner on a table and asking it for rows to the end gives, in the order of keys, what
one pass over the table finds: for every selected column the version with the greatest time in the
range, and of each row what the filter leaves. Then it gives nothing more, even if there is more. -/
theorem Reached.drain_eq_returned (h : Reached c log) (handle : TableHandle) (scan : Scan)
    {t : StoredTable} (ht : c.tables.get? handle.name = some t)
    (hfamilies : ∀ family ∈ scan.families.keys, (t.descriptor.family? family).isSome)
    (hscans : c.faults.scans = none) :
    (∃ scanner, (c.openScanner handle scan).result = .ok scanner ∧
      ∀ d : Cluster, d.rows handle.name = (c.openScanner handle scan).state.rows handle.name →
        ∃ last, Session.drain d scanner =
            ((scan.returned (c.rows handle.name)).map (fun r ↦ .ok (some r)) ++ [.ok none], last) ∧
          ∀ later : Cluster, later.next last = (.ok none, last)) ∧
      (scan.returned (c.rows handle.name)).Pairwise (fun r r' ↦ compare r.row r'.row = .lt) ∧
      (∀ r ∈ scan.returned (c.rows handle.name),
        r.cells ≠ [] ∧ (r.cells.map Cell.column).Pairwise (fun x y ↦ compare x y = .lt)) ∧
      scan.returned (c.rows handle.name) =
        (scan.unfiltered.returned (c.rows handle.name)).filterMap
          (fun r ↦ Scan.keep r.row (scan.filtered r.cells)) := by
  refine ⟨⟨_, openScanner_eq ht hfamilies, fun d hd ↦ ?_⟩, scan.ascending_returned _,
    fun r hr ↦ ⟨(Scan.mem_returned hr).1, h.accounted.ascending_cells hr⟩,
    scan.returned_eq_filterMap _⟩
  rw [(c.quiet_openScanner handle scan).rows] at hd
  rw [hscans]
  obtain ⟨last, hdrain, hlast⟩ := h.accounted.drain_eq scan hd
  exact ⟨last, hdrain, fun later ↦ next_of_exhausted hlast⟩

/-- A scan of one family that leaves out the newest version and all values. -/
def sampleScan : Scan where
  timeRange := ⟨-3, 5, by decide⟩
  families := OrderedMap.insert ∅ [102] .all
  filter := some .keysOnly

theorem drain_of_sample :
    (∃ scanner, (sample.openScanner ⟨"t", 1⟩ sampleScan).result = .ok scanner ∧
      (Session.drain (sample.openScanner ⟨"t", 1⟩ sampleScan).state scanner).1 =
        (sampleScan.returned (sample.rows "t")).map (fun r ↦ .ok (some r)) ++ [.ok none]) ∧
      (sampleScan.returned (sample.rows "t")).map
          (fun r ↦ (r.row, r.cells.map (fun cell ↦ (cell.timestamp, cell.value)))) =
        [([114], [(4, [])])] := by
  obtain ⟨⟨scanner, hopened, hdrain⟩, -⟩ :=
    reached_sample.drain_eq_returned ⟨"t", 1⟩ sampleScan rfl (by decide) rfl
  obtain ⟨last, hlast, -⟩ := hdrain _ rfl
  exact ⟨⟨scanner, hopened, congrArg Prod.fst hlast⟩, rfl⟩

end Cluster

end ColumnStore
