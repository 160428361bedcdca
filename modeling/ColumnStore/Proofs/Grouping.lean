import ColumnStore.Proofs.Writing
import Mathlib.Data.List.Induction

/-!
# Grouped requests

Requests are grouped by row and then by column, and both times an entry is changed where there is one
and added at the end otherwise (`upsert`); for rows it is found through an index that is in step with
the puts (`Batcher.Indexed`). So of all requests for one column just the last one is written
(`filter_group`).
-/

namespace ColumnStore

def ColumnWrite.column (w : ColumnWrite) : Column :=
  ⟨w.family, w.qualifier⟩

namespace WriteRequest

def isAt (w : WriteRequest) (row : Bytes) (column : Column) : Bool :=
  Bytes.ofString w.row = row ∧ w.column.column = column

def sameColumn (v w : WriteRequest) : Bool :=
  w.row = v.row ∧ w.family = v.family ∧ w.qualifier = v.qualifier

theorem isAt_eq_sameColumn (v w : WriteRequest) :
    w.isAt (Bytes.ofString v.row) v.column.column = v.sameColumn w := by
  unfold isAt sameColumn
  rw [decide_eq_decide]
  constructor
  · rintro ⟨hrow, hcolumn⟩
    obtain ⟨hfamily, hqualifier⟩ := Column.mk.inj hcolumn
    exact ⟨Bytes.ofString_injective hrow, Bytes.ofString_injective hfamily,
      Bytes.ofString_injective hqualifier⟩
  · rintro ⟨hrow, hfamily, hqualifier⟩
    rw [column, column, hrow, hfamily, hqualifier]
    exact ⟨rfl, rfl⟩

theorem of_findRev? {requests : List WriteRequest} {row : Bytes} {column : Column} {w : WriteRequest}
    (h : requests.findRev? (·.isAt row column) = some w) :
    w ∈ requests ∧ Bytes.ofString w.row = row ∧ w.column.column = column := by
  rw [List.findRev?_eq_find?_reverse] at h
  have hat := List.find?_some h
  exact ⟨List.mem_reverse.mp (List.mem_of_find?_eq_some h), of_decide_eq_true hat⟩

end WriteRequest

/-! ## Changing an entry or adding one -/

section Upsert

variable {α κ : Type} [DecidableEq κ]

def upsert (key : α → κ) (k : κ) (change : α → α) (new : α) : List α → List α
  | [] => [new]
  | x :: xs => if key x = k then change x :: xs else x :: upsert key k change new xs

variable {key : α → κ} {k : κ} {change : α → α} {new : α}

theorem upsert_eq_modify {xs : List α} {i : Nat}
    (h : (xs.map key).findIdx? (· = k) = some i) :
    upsert key k change new xs = xs.modify i change := by
  induction xs generalizing i with
  | nil => cases h
  | cons x xs ih =>
      rw [List.map_cons, List.findIdx?_cons] at h
      rw [upsert]
      by_cases hx : key x = k
      · rw [if_pos (by simpa using hx)] at h
        obtain rfl := Option.some.inj h
        rw [if_pos hx, List.modify_zero_cons]
      · rw [if_neg (by simpa using hx)] at h
        obtain ⟨j, hj, rfl⟩ := Option.map_eq_some_iff.mp h
        rw [if_neg hx, ih hj, List.modify_succ_cons]

theorem upsert_append {xs : List α} (h : k ∉ xs.map key) (ys : List α) :
    upsert key k change new (xs ++ ys) = xs ++ upsert key k change new ys := by
  induction xs with
  | nil => rfl
  | cons x xs ih =>
      rw [List.map_cons, List.mem_cons, not_or] at h
      rw [List.cons_append, upsert, if_neg (Ne.symm h.1), ih h.2, List.cons_append]

theorem upsert_eq_append {xs : List α} (h : k ∉ xs.map key) :
    upsert key k change new xs = xs ++ [new] := by
  have happend := @upsert_append _ _ _ _ _ change new _ h []
  rwa [List.append_nil] at happend

theorem mem_upsert {xs : List α} {x : α} (h : x ∈ upsert key k change new xs) :
    x = new ∨ (∃ y ∈ xs, x = change y) ∨ x ∈ xs := by
  induction xs with
  | nil =>
      left
      exact List.mem_singleton.mp h
  | cons y ys ih =>
      rw [upsert] at h
      split at h
      · rcases List.mem_cons.mp h with rfl | h
        · exact .inr (.inl ⟨y, List.mem_cons_self, rfl⟩)
        · exact .inr (.inr (List.mem_cons_of_mem y h))
      · rcases List.mem_cons.mp h with rfl | h
        · exact .inr (.inr List.mem_cons_self)
        · rcases ih h with hnew | ⟨z, hz, hx⟩ | hx
          · exact .inl hnew
          · exact .inr (.inl ⟨z, List.mem_cons_of_mem y hz, hx⟩)
          · exact .inr (.inr (List.mem_cons_of_mem y hx))

variable (hchange : ∀ x, key (change x) = key x) (hnew : key new = k)
include hchange hnew

theorem find?_upsert (xs : List α) (k' : κ) :
    (upsert key k change new xs).find? (fun x ↦ key x = k') =
      if k' = k then some (((xs.find? (fun x ↦ key x = k)).map change).getD new)
      else xs.find? (fun x ↦ key x = k') := by
  induction xs with
  | nil => by_cases hk : k' = k <;> simp [upsert, hnew, hk, Ne.symm]
  | cons x xs ih =>
      rw [upsert]
      by_cases hx : key x = k
      · by_cases hk : k' = k
        · simp [hx, hk, hchange]
        · have hne : k ≠ k' := fun h ↦ hk h.symm
          simp [hx, hk, hchange, hne]
      · rw [if_neg hx, List.find?_cons, List.find?_cons, List.find?_cons, ih]
        by_cases hk : k' = k
        · subst hk
          simp [hx]
        · simp [hk]

theorem keys_upsert [BEq κ] [LawfulBEq κ] (xs : List α) :
    (upsert key k change new xs).map key =
      if k ∈ xs.map key then xs.map key else xs.map key ++ [k] := by
  induction xs with
  | nil => simp [upsert, hnew]
  | cons x xs ih =>
      rw [upsert]
      by_cases hx : key x = k
      · simp [hx, hchange]
      · have hne : k ≠ key x := fun h ↦ hx h.symm
        rw [if_neg hx, List.map_cons, ih, List.map_cons]
        by_cases hk : k ∈ xs.map key
        · rw [if_pos hk, if_pos (List.mem_cons_of_mem _ hk)]
        · rw [if_neg hk, if_neg (by simp [hne, hk]), List.cons_append]

theorem nodup_upsert {xs : List α} (h : (xs.map key).Nodup) :
    ((upsert key k change new xs).map key).Nodup := by
  rw [keys_upsert hchange hnew]
  split
  · exact h
  · next hk =>
    rw [List.nodup_append]
    refine ⟨h, List.nodup_singleton k, fun k' hk' l hl hkl ↦ hk ?_⟩
    rw [← List.mem_singleton.mp hl, ← hkl]
    exact hk'

omit hchange hnew

theorem filter_eq_toList_find? {xs : List α} (h : (xs.map key).Nodup) (k : κ) :
    xs.filter (fun x ↦ key x = k) = (xs.find? (fun x ↦ key x = k)).toList := by
  induction xs with
  | nil => rfl
  | cons x xs ih =>
      obtain ⟨hx, hxs⟩ := List.nodup_cons.mp h
      by_cases hk : key x = k
      · have hnone : xs.filter (fun y ↦ key y = k) = [] := by
          rw [List.filter_eq_nil_iff]
          intro y hy hyk
          apply hx
          rw [hk, ← of_decide_eq_true hyk]
          exact List.mem_map_of_mem hy
        simp [hk, hnone]
      · simp [hk, ih hxs]

theorem find?_eq_some_of_mem {xs : List α} (h : (xs.map key).Nodup) {x : α} (hx : x ∈ xs)
    (hk : key x = k) : xs.find? (fun x ↦ key x = k) = some x := by
  cases hfound : xs.find? (fun x ↦ key x = k) with
  | none =>
      have hnot := List.find?_eq_none.mp hfound x hx
      exact (hnot (decide_eq_true hk)).elim
  | some y =>
      have hy : key y = k := by simpa using List.find?_some hfound
      rw [List.inj_on_of_nodup_map h (List.mem_of_find?_eq_some hfound) hx (hy.trans hk.symm)]

theorem filter_eq_singleton {xs : List α} (h : (xs.map key).Nodup) {x : α} (hx : x ∈ xs)
    (hk : key x = k) : xs.filter (fun x ↦ key x = k) = [x] := by
  rw [filter_eq_toList_find? h, find?_eq_some_of_mem h hx hk, Option.toList_some]

end Upsert

namespace Put

/-! ## Grouping -/

theorem setColumn_eq (w : ColumnWrite) (ws : List ColumnWrite) :
    setColumn w ws =
      upsert ColumnWrite.column w.column (fun c ↦ { c with value := w.value }) w ws := by
  induction ws with
  | nil => rfl
  | cons c cs ih =>
      have hsame : (c.family = w.family ∧ c.qualifier = w.qualifier) ↔ c.column = w.column := by
        simp [ColumnWrite.column]
      simp only [setColumn, upsert, hsame, ih]

/-- Take a request into the put for its row, or into a new one at the end. -/
def place (puts : List Put) (w : WriteRequest) : List Put :=
  upsert Put.row (Bytes.ofString w.row) (·.write w.column) ⟨Bytes.ofString w.row, [w.column]⟩ puts

theorem rows_place (puts : List Put) (w : WriteRequest) :
    (place puts w).map Put.row =
      if Bytes.ofString w.row ∈ puts.map Put.row then puts.map Put.row
      else puts.map Put.row ++ [Bytes.ofString w.row] := by
  unfold place
  apply keys_upsert
  · intro p
    rfl
  · rfl

/-- Every row has the place of the put for it, and the rows without a put have none. -/
def Batcher.Indexed (b : Batcher) : Prop :=
  ∀ row, b.places.get? row = (b.puts.map Put.row).findIdx? (· = Bytes.ofString row)

namespace Batcher.Indexed

variable {b : Batcher} (h : b.Indexed) (w : WriteRequest)
include h

theorem get?_eq_none_iff (row : String) :
    b.places.get? row = none ↔ Bytes.ofString row ∉ b.puts.map Put.row := by
  rw [h row, List.findIdx?_eq_none_iff]
  constructor
  · intro hnone hmem
    have hne := hnone _ hmem
    simp at hne
  · intro hnot row' hmem
    exact decide_eq_false fun heq ↦ hnot (heq ▸ hmem)

theorem puts_take : (b.take w).puts = place b.puts w := by
  unfold Batcher.take enter place
  cases hplace : b.places.get? w.row with
  | some i =>
      rw [h w.row] at hplace
      rw [upsert_eq_modify hplace]
  | none =>
      -- The new put is written to at once, so it is never left empty.
      rw [upsert_eq_append ((h.get?_eq_none_iff w.row).mp hplace)]
      simp [List.modify_eq_take_drop, Put.new, Put.write, setColumn]

protected theorem take : (b.take w).Indexed := by
  intro row
  rw [h.puts_take, rows_place]
  unfold Batcher.take enter
  cases hplace : b.places.get? w.row with
  | some i =>
      have hold : Bytes.ofString w.row ∈ b.puts.map Put.row := by
        by_contra hnew
        rw [(h.get?_eq_none_iff w.row).mpr hnew] at hplace
        cases hplace
      rw [if_pos hold]
      exact h row
  | none =>
      rw [if_neg ((h.get?_eq_none_iff w.row).mp hplace), List.findIdx?_append, ← h row,
        OrderedMap.get?_insert]
      by_cases hrow : row = w.row
      · subst hrow
        simp [hplace]
      · have hne : Bytes.ofString w.row ≠ Bytes.ofString row :=
          fun heq ↦ hrow (Bytes.ofString_injective heq).symm
        simp [hrow, hne]

theorem puts_foldl (ws : List WriteRequest) :
    (ws.foldl Batcher.take b).puts = ws.foldl place b.puts := by
  induction ws generalizing b with
  | nil => rfl
  | cons w ws ih => rw [List.foldl_cons, ih (h.take w), h.puts_take, List.foldl_cons]

end Batcher.Indexed

theorem Batcher.indexed_foldl (ws : List WriteRequest) : (ws.foldl Batcher.take {}).Indexed := by
  induction ws using List.reverseRecOn with
  | nil => exact fun row ↦ rfl
  | append_singleton ws w ih =>
      rw [List.foldl_append]
      exact ih.take w

theorem group_append (xs ys : List WriteRequest) : group (xs ++ ys) = ys.foldl place (group xs) := by
  rw [group, List.foldl_append, (Batcher.indexed_foldl xs).puts_foldl, group]

theorem group_eq_foldl (ws : List WriteRequest) : group ws = ws.foldl place [] :=
  group_append [] ws

theorem length_setColumn_le (w : ColumnWrite) (ws : List ColumnWrite) :
    (setColumn w ws).length ≤ ws.length + 1 := by
  induction ws with
  | nil => exact Nat.le_refl _
  | cons c cs ih =>
      rw [setColumn]
      split
      · exact Nat.le_succ _
      · exact Nat.succ_le_succ ih

theorem length_writes_place_le (puts : List Put) (w : WriteRequest) :
    (writes (place puts w)).length ≤ (writes puts).length + 1 := by
  induction puts with
  | nil => exact Nat.le_refl _
  | cons p ps ih =>
      have hwrites : ∀ (q : Put) (qs : List Put),
          (writes (q :: qs)).length = q.columns.length + (writes qs).length := by
        intro q qs
        simp [writes]
      rw [place, upsert]
      split
      · have hcolumns := length_setColumn_le w.column p.columns
        rw [hwrites, hwrites, Put.write]
        dsimp only
        omega
      · rw [hwrites, hwrites]
        exact Nat.add_le_add_left ih p.columns.length

theorem length_writes_group_le (ws : List WriteRequest) :
    (writes (group ws)).length ≤ ws.length := by
  induction ws using List.reverseRecOn with
  | nil => exact Nat.le_refl _
  | append_singleton ws w ih =>
      have hplace := length_writes_place_le (group ws) w
      rw [group_append, List.foldl_cons, List.foldl_nil, List.length_append, List.length_singleton]
      omega

/-- No two puts are for one row, and in none of them two writes are for one column. -/
structure Grouped (puts : List Put) : Prop where
  rows : (puts.map Put.row).Nodup
  columns : ∀ p ∈ puts, (p.columns.map ColumnWrite.column).Nodup

theorem Grouped.place {puts : List Put} (h : Grouped puts) (w : WriteRequest) :
    Grouped (place puts w) := by
  unfold Put.place
  constructor
  · apply nodup_upsert _ _ h.rows
    · intro p
      rfl
    · rfl
  · intro p hp
    rcases mem_upsert hp with rfl | ⟨q, hq, rfl⟩ | hp
    · exact List.nodup_singleton _
    · simp only [Put.write, setColumn_eq]
      apply nodup_upsert _ _ (h.columns q hq)
      · intro c
        rfl
      · rfl
    · exact h.columns p hp

theorem grouped_group (ws : List WriteRequest) : Grouped (group ws) := by
  induction ws using List.reverseRecOn with
  | nil => exact ⟨List.nodup_nil, fun p hp ↦ absurd hp List.not_mem_nil⟩
  | append_singleton ws w ih =>
      rw [group_append]
      exact ih.place w

def find (puts : List Put) (row : Bytes) (column : Column) : Option ColumnWrite :=
  (puts.find? (fun p ↦ p.row = row)).bind fun p ↦ p.columns.find? (fun c ↦ c.column = column)

theorem find?_setColumn (w : ColumnWrite) (ws : List ColumnWrite) (column : Column) :
    (setColumn w ws).find? (fun c ↦ c.column = column) =
      if column = w.column then
        some (((ws.find? (fun c ↦ c.column = w.column)).map fun c ↦
          { c with value := w.value }).getD w)
      else ws.find? (fun c ↦ c.column = column) := by
  rw [setColumn_eq]
  apply find?_upsert
  · intro c
    rfl
  · rfl

theorem find?_place (puts : List Put) (w : WriteRequest) (row : Bytes) :
    (place puts w).find? (fun p ↦ p.row = row) =
      if row = Bytes.ofString w.row then
        some (((puts.find? (fun p ↦ p.row = Bytes.ofString w.row)).map (·.write w.column)).getD
          ⟨Bytes.ofString w.row, [w.column]⟩)
      else puts.find? (fun p ↦ p.row = row) := by
  apply find?_upsert
  · intro p
    rfl
  · rfl

theorem find_place (puts : List Put) (w : WriteRequest) (row : Bytes) (column : Column) :
    find (place puts w) row column =
      if w.isAt row column then
        some (((find puts row column).map fun c ↦ { c with value := w.value }).getD w.column)
      else find puts row column := by
  unfold find
  rw [find?_place]
  by_cases hrow : row = Bytes.ofString w.row
  · subst hrow
    have hat : w.isAt (Bytes.ofString w.row) column = decide (column = w.column.column) := by
      simp [WriteRequest.isAt, eq_comm]
    rw [if_pos rfl, hat]
    cases puts.find? (fun p ↦ p.row = Bytes.ofString w.row) with
    | none =>
        by_cases hcolumn : column = w.column.column
        · subst hcolumn
          simp
        · have hne : w.column.column ≠ column := fun h ↦ hcolumn h.symm
          simp [hcolumn, hne]
    | some p =>
        simp only [Option.map_some, Option.getD_some, Option.bind_some, Put.write,
          find?_setColumn, decide_eq_true_eq]
        by_cases hcolumn : column = w.column.column
        · subst hcolumn
          rfl
        · rw [if_neg hcolumn, if_neg hcolumn]
  · have hat : ¬w.isAt row column := by
      intro h
      exact hrow (of_decide_eq_true h).1.symm
    rw [if_neg hrow, if_neg hat]

theorem find_group (ws : List WriteRequest) (row : Bytes) (column : Column) :
    find (group ws) row column =
      (ws.findRev? (·.isAt row column)).map WriteRequest.column := by
  induction ws using List.reverseRecOn with
  | nil => rfl
  | append_singleton ws w ih =>
      rw [group_append, List.foldl_cons, List.foldl_nil, find_place, ih]
      by_cases hat : w.isAt row column
      · have hlast : (ws ++ [w]).findRev? (·.isAt row column) = some w := by
          simp [List.findRev?_eq_find?_reverse, hat]
        rw [if_pos hat, hlast, Option.map_some]
        cases hearlier : ws.findRev? (·.isAt row column) with
        | none => rfl
        | some v =>
            have hcolumn : v.column.column = w.column.column :=
              (WriteRequest.of_findRev? hearlier).2.2.trans (of_decide_eq_true hat).2.symm
            -- The entry was made by an earlier request, which differs at most in its value.
            obtain ⟨hfamily, hqualifier⟩ := Column.mk.inj hcolumn
            rw [Option.map_some, Option.map_some, Option.getD_some, hfamily, hqualifier]
            rfl
      · have hlast : (ws ++ [w]).findRev? (·.isAt row column) = ws.findRev? (·.isAt row column) := by
          simp [List.findRev?_eq_find?_reverse, hat]
        rw [if_neg hat, hlast]

theorem filter_writes_eq (puts : List Put) (row : Bytes) (column : Column) :
    (writes puts).filter (fun e ↦ e.1 = row ∧ e.2.column = column) =
      (puts.filter (fun p ↦ p.row = row)).flatMap fun p ↦
        (p.columns.filter (fun c ↦ c.column = column)).map (row, ·) := by
  induction puts with
  | nil => rfl
  | cons p ps ih =>
      have hwrites : writes (p :: ps) = p.columns.map (p.row, ·) ++ writes ps := rfl
      rw [hwrites, List.filter_append, ih, List.filter_map]
      by_cases hp : p.row = row
      · subst hp
        rw [List.filter_cons_of_pos (by simp), List.flatMap_cons]
        congr 3
        funext c
        simp
      · rw [List.filter_cons_of_neg (by simpa using hp)]
        simp [Function.comp_def, hp]

theorem filter_writes {puts : List Put} (h : Grouped puts) (row : Bytes) (column : Column) :
    (writes puts).filter (fun e ↦ e.1 = row ∧ e.2.column = column) =
      ((find puts row column).map (row, ·)).toList := by
  rw [filter_writes_eq, filter_eq_toList_find? h.rows, find]
  cases hfound : puts.find? (fun p ↦ p.row = row) with
  | none => rfl
  | some p =>
      have hp : p ∈ puts := List.mem_of_find?_eq_some hfound
      rw [Option.toList_some, List.flatMap_singleton, filter_eq_toList_find? (h.columns p hp),
        Option.bind_some]
      cases p.columns.find? (fun c ↦ c.column = column) <;> rfl

/-- Of all requests for a column just the last one is written, and it is written once. -/
theorem filter_group (now : Timestamp) (ws : List WriteRequest) (row : Bytes) (column : Column) :
    ((writes (group ws)).map (fieldsOf now)).filter (·.isAt row column) =
      ((ws.findRev? (·.isAt row column)).map fun w ↦ fieldsOf now (row, w.column)).toList := by
  have hat : (fun f : CellFields ↦ f.isAt row column) ∘ fieldsOf now =
      fun e ↦ decide (e.1 = row ∧ e.2.column = column) := rfl
  rw [List.filter_map, hat, filter_writes (grouped_group ws), find_group]
  cases ws.findRev? (·.isAt row column) <;> rfl

end Put

end ColumnStore
