import ColumnStore.Proofs.Scanning

/-!
# Filters and parts of a row

Whether a filter keeps a cell can depend on the whole row and on the place of the cell in it, but only
in one direction: what is kept in a row is kept in every part of it (`keeps_of_sublist`). So a filter
that leaves the values alone has nothing to do where it has been applied before (`apply_stable`).
-/

namespace ColumnStore

namespace Filter

inductive Occurs (g : Filter) : Filter → Prop
  | self : Occurs g g
  | skip {f : Filter} (h : Occurs g f) : Occurs g (.skip f)
  | and {fs : List Filter} {f : Filter} (hf : f ∈ fs) (h : Occurs g f) : Occurs g (.and fs)
  | or {fs : List Filter} {f : Filter} (hf : f ∈ fs) (h : Occurs g f) : Occurs g (.or fs)

theorem stripsValues_of_occurs {f : Filter} (h : Occurs .keysOnly f) : f.stripsValues = true := by
  induction h with
  | self => rfl
  | skip _ ih => rw [stripsValues_skip, ih]
  | and hf _ ih =>
      rw [stripsValues_and, List.any_eq_true]
      exact ⟨_, hf, ih⟩
  | or hf _ ih =>
      rw [stripsValues_or, List.any_eq_true]
      exact ⟨_, hf, ih⟩

theorem occurs_of_stripsValues {f : Filter} (h : f.stripsValues = true) : Occurs .keysOnly f := by
  induction f with
  | keysOnly => exact .self
  | skip inner ih =>
      rw [stripsValues_skip] at h
      exact .skip (ih h)
  | and operands ih =>
      rw [stripsValues_and, List.any_eq_true] at h
      obtain ⟨f, hf, hstrips⟩ := h
      exact .and hf (ih f hf hstrips)
  | or operands ih =>
      rw [stripsValues_or, List.any_eq_true] at h
      obtain ⟨f, hf, hstrips⟩ := h
      exact .or hf (ih f hf hstrips)
  | rowPrefix | columnPrefix | compare | columnValue | firstOfRow => cases h

theorem stripsValues_iff {f : Filter} : f.stripsValues = true ↔ Occurs .keysOnly f :=
  ⟨occurs_of_stripsValues, stripsValues_of_occurs⟩

theorem apply_eq_kept {f : Filter} (h : ¬Occurs .keysOnly f) (row : List Cell) :
    f.apply row = f.kept row := by
  have hstrips : f.stripsValues = false := by
    rwa [← stripsValues_iff, Bool.not_eq_true] at h
  simp [apply, hstrips]

/-! ## Cells and their places -/

theorem mem_kept {f : Filter} {row : List Cell} {cell : Cell} :
    cell ∈ f.kept row ↔
      ∃ place, (cell, place) ∈ row.zipIdx ∧ f.keeps row place cell = true := by
  unfold kept
  constructor
  · intro h
    obtain ⟨⟨c, place⟩, hmem, rfl⟩ := List.mem_map.mp h
    exact ⟨place, List.mem_filter.mp hmem⟩
  · rintro ⟨place, hplace, hkeeps⟩
    exact List.mem_map.mpr ⟨(cell, place), List.mem_filter.mpr ⟨hplace, hkeeps⟩, rfl⟩

theorem exists_place {row : List Cell} {cell : Cell} (h : cell ∈ row) :
    ∃ place, (cell, place) ∈ row.zipIdx := by
  rw [← List.zipIdx_map_fst 0 row] at h
  obtain ⟨⟨c, place⟩, hplace, rfl⟩ := List.mem_map.mp h
  exact ⟨place, hplace⟩

theorem mem_of_place {row : List Cell} {cell : Cell} {place : Nat}
    (h : (cell, place) ∈ row.zipIdx) : cell ∈ row := by
  rw [← List.zipIdx_map_fst 0 row]
  exact List.mem_map_of_mem h

variable {row part : List Cell}

/-- The first cell of a row is also the first one of a part that it is in. -/
theorem place_of_sublist (hrow : (row.map Cell.column).Nodup) (hpart : part.Sublist row) {cell : Cell}
    {place : Nat} (hfirst : (cell, 0) ∈ row.zipIdx) (hplace : (cell, place) ∈ part.zipIdx) :
    place = 0 := by
  rw [List.mem_zipIdx_iff_getElem?] at hfirst hplace
  cases row with
  | nil => cases hfirst
  | cons c rest =>
      obtain rfl : c = cell := Option.some.inj hfirst
      have hrest : c ∉ rest := by
        rw [List.map_cons, List.nodup_cons] at hrow
        exact fun hmem ↦ hrow.1 (List.mem_map_of_mem hmem)
      cases hpart with
      | cons _ hpart => exact absurd (hpart.subset (List.mem_of_getElem? hplace)) hrest
      | cons_cons _ hpart =>
          cases place with
          | zero => rfl
          | succ place =>
              rw [List.getElem?_cons_succ] at hplace
              exact absurd (hpart.subset (List.mem_of_getElem? hplace)) hrest

theorem find?_column_iff (hrow : (row.map Cell.column).Nodup) {family qualifier : Bytes}
    {cell : Cell} :
    row.find? (fun c ↦ c.family = family ∧ c.qualifier = qualifier) = some cell ↔
      cell ∈ row ∧ cell.family = family ∧ cell.qualifier = qualifier := by
  constructor
  · intro h
    have hcolumn := List.find?_some h
    rw [decide_eq_true_eq] at hcolumn
    exact ⟨List.mem_of_find?_eq_some h, hcolumn⟩
  · rintro ⟨hcell, hcolumn⟩
    obtain ⟨found, hfound⟩ :
        ∃ c, row.find? (fun c ↦ c.family = family ∧ c.qualifier = qualifier) = some c := by
      rw [← Option.isSome_iff_exists, List.find?_isSome]
      exact ⟨cell, hcell, decide_eq_true hcolumn⟩
    have hfoundColumn := List.find?_some hfound
    rw [decide_eq_true_eq] at hfoundColumn
    have hsame : found.column = cell.column := by
      rw [Cell.column, Cell.column, hfoundColumn.1, hfoundColumn.2, hcolumn.1, hcolumn.2]
    rw [hfound, List.inj_on_of_nodup_map hrow (List.mem_of_find?_eq_some hfound) hcell hsame]

theorem find?_of_sublist (hrow : (row.map Cell.column).Nodup) (hpart : part.Sublist row)
    {family qualifier : Bytes} {cell : Cell}
    (h : part.find? (fun c ↦ c.family = family ∧ c.qualifier = qualifier) = some cell) :
    row.find? (fun c ↦ c.family = family ∧ c.qualifier = qualifier) = some cell := by
  have hpartColumns := hrow.sublist (hpart.map Cell.column)
  obtain ⟨hcell, hcolumn⟩ := (find?_column_iff hpartColumns).mp h
  exact (find?_column_iff hrow).mpr ⟨hpart.subset hcell, hcolumn⟩

/-! ## Keeping in a row and in a part of it -/

theorem keeps_of_sublist (hrow : (row.map Cell.column).Nodup) (hpart : part.Sublist row) (f : Filter)
    {cell : Cell} {place place' : Nat} (hplace : (cell, place) ∈ row.zipIdx)
    (hplace' : (cell, place') ∈ part.zipIdx) (h : f.keeps row place cell = true) :
    f.keeps part place' cell = true := by
  -- For `skip` the hypothesis is needed at every cell of the part, so the cell and its places vary.
  induction f generalizing cell place place' with
  | rowPrefix | columnPrefix | compare | keysOnly => exact h
  | columnValue family qualifier op comparator =>
      rw [keeps] at h ⊢
      cases hfound : part.find? fun c ↦ c.family = family ∧ c.qualifier = qualifier with
      | none => rfl
      | some c =>
          rw [find?_of_sublist hrow hpart hfound] at h
          exact h
  | firstOfRow =>
      rw [keeps, beq_iff_eq] at h ⊢
      subst h
      exact place_of_sublist hrow hpart hplace hplace'
  | skip inner ih =>
      rw [keeps_skip, List.all_eq_true] at h ⊢
      rintro ⟨c, n⟩ hc
      obtain ⟨m, hm⟩ := exists_place (hpart.subset (mem_of_place hc))
      exact ih hm hc (h (c, m) hm)
  | and operands ih =>
      rw [keeps_and, List.all_eq_true] at h ⊢
      intro f hf
      exact ih f hf hplace hplace' (h f hf)
  | or operands ih =>
      rw [keeps_or, List.any_eq_true] at h ⊢
      obtain ⟨f, hf, hkeeps⟩ := h
      exact ⟨f, hf, ih f hf hplace hplace' hkeeps⟩

theorem mem_kept_of_sublist (hrow : (row.map Cell.column).Nodup) (hpart : part.Sublist row)
    {f : Filter} {cell : Cell} (hcell : cell ∈ part) (h : cell ∈ f.kept row) :
    cell ∈ f.kept part := by
  obtain ⟨place, hplace, hkeeps⟩ := mem_kept.mp h
  obtain ⟨place', hplace'⟩ := exists_place hcell
  apply mem_kept.mpr
  exact ⟨place', hplace', keeps_of_sublist hrow hpart f hplace hplace' hkeeps⟩

theorem kept_kept (hrow : (row.map Cell.column).Nodup) (f : Filter) :
    f.kept (f.kept row) = f.kept row := by
  have hall : ∀ e ∈ (f.kept row).zipIdx, f.keeps (f.kept row) e.2 e.1 = true := by
    rintro ⟨cell, place'⟩ hplace'
    obtain ⟨place, hplace, hkeeps⟩ := mem_kept.mp (mem_of_place hplace')
    exact keeps_of_sublist hrow (f.kept_sublist row) f hplace hplace' hkeeps
  have hsame : (f.kept row).zipIdx.filter (fun e ↦ f.keeps (f.kept row) e.2 e.1) =
      (f.kept row).zipIdx := List.filter_eq_self.mpr hall
  calc f.kept (f.kept row) = (f.kept row).zipIdx.map Prod.fst := congrArg (List.map Prod.fst) hsame
    _ = f.kept row := List.zipIdx_map_fst 0 _

theorem apply_returned {f : Filter} (hf : ¬Occurs .keysOnly f) {c : Cluster} {log : List LoggedWrite}
    (h : c.Reached log) {scan : Scan} (hscan : scan.filter = some f) {table : String}
    {r : RowResult} (hr : r ∈ scan.returned (c.rows table)) : f.apply r.cells = r.cells := by
  obtain ⟨-, row, hrow, hcells⟩ := Scan.mem_returned hr
  have hnodup : ((scan.selected row).map Cell.column).Nodup := by
    apply OrderedMap.nodup_of_ascending
    exact h.accounted.ascending_selected scan hrow
  rw [hcells, Scan.filtered, hscan]
  simp only [apply_eq_kept hf]
  exact kept_kept hnodup f

/-- What a filter keeps of a row without repeated columns, it keeps of every part of the row. Unless it
takes away values, it is therefore the same to apply it once or twice, and so it has nothing to do on
the rows of a scan. -/
theorem apply_stable (f : Filter) :
    (∀ row : List Cell, (row.map Cell.column).Nodup → ∀ part, part.Sublist row →
      ∀ cell ∈ part, cell ∈ f.kept row → cell ∈ f.kept part) ∧
    (¬Occurs .keysOnly f → ∀ row : List Cell, (row.map Cell.column).Nodup →
      f.apply (f.apply row) = f.apply row) ∧
    (¬Occurs .keysOnly f → ∀ (c : Cluster) (log : List LoggedWrite), c.Reached log →
      ∀ scan : Scan, scan.filter = some f → ∀ table, ∀ r ∈ scan.returned (c.rows table),
        f.apply r.cells = r.cells) := by
  refine ⟨?_, ?_, ?_⟩
  · intro row hrow part hpart cell hcell hkept
    exact mem_kept_of_sublist hrow hpart hcell hkept
  · intro hf row hrow
    rw [apply_eq_kept hf, apply_eq_kept hf]
    exact kept_kept hrow f
  · intro hf c log h scan hscan table r hr
    exact apply_returned hf h hscan hr

/-- The first cell of a row, or all cells if none is without a value. -/
def sampleFilter : Filter :=
  .or [.firstOfRow, .skip (.compare .value .notEqual (.binary []))]

/-- Two cells of one row, the second without a value. -/
def sampleRow : List Cell :=
  (({} : Scan).returned (Cluster.sample.rows "t")).flatMap RowResult.cells

theorem apply_stable_sampleRow :
    (sampleRow.map Cell.column).Nodup ∧ ¬Occurs .keysOnly sampleFilter ∧
      sampleRow.map Cell.value = [[51], []] ∧
      (sampleFilter.apply sampleRow).map Cell.value = [[51]] ∧
      (∀ cell ∈ sampleRow.take 1, cell ∈ sampleFilter.kept sampleRow →
        cell ∈ sampleFilter.kept (sampleRow.take 1)) ∧
      sampleFilter.apply (sampleFilter.apply sampleRow) = sampleFilter.apply sampleRow ∧
      ∀ r ∈ ({ filter := some sampleFilter } : Scan).returned (Cluster.sample.rows "t"),
        sampleFilter.apply r.cells = r.cells := by
  have hnodup : (sampleRow.map Cell.column).Nodup := by decide +kernel
  have hfree : ¬Occurs .keysOnly sampleFilter := by
    rw [← stripsValues_iff]
    decide
  obtain ⟨hpart, htwice, hscan⟩ := apply_stable sampleFilter
  refine ⟨hnodup, hfree, rfl, rfl, ?_, htwice hfree sampleRow hnodup, ?_⟩
  · exact hpart sampleRow hnodup _ (List.take_sublist 1 sampleRow)
  · exact hscan hfree _ _ Cluster.reached_sample _ rfl "t"

end Filter

end ColumnStore
