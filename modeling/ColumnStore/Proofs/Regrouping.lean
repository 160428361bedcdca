import ColumnStore.Proofs.Grouping
import ColumnStore.Proofs.TextOctets

/-!
# Collected requests

Grouping loses nothing but what a later request overwrites. Where a row or a column stands is decided
by the first request for it, and what is written there by the last one (`Collects`); only one list of
puts is like that (`Collects.unique`). The puts are also all that the requests which follow depend on:
read back as requests, they are grouped into themselves (`foldl_place_requests`).
-/

namespace ColumnStore

section Upsert

variable {α κ ω : Type} {key : α → κ}

theorem eq_of_map_key {xs ys : List α} (hkeys : xs.map key = ys.map key)
    (h : ∀ x ∈ xs, ∀ y ∈ ys, key x = key y → x = y) : xs = ys := by
  induction xs generalizing ys with
  | nil => exact (List.map_eq_nil_iff.mp hkeys.symm).symm
  | cons x xs ih =>
      cases ys with
      | nil => cases hkeys
      | cons y ys =>
          obtain ⟨hkey, hkeys⟩ := List.cons.inj hkeys
          have hhead : x = y := h x List.mem_cons_self y List.mem_cons_self hkey
          have htail : xs = ys := by
            apply ih hkeys
            intro x' hx' y' hy'
            exact h x' (List.mem_cons_of_mem x hx') y' (List.mem_cons_of_mem y hy')
          rw [hhead, htail]

theorem key_notMem_of_nodup {xs ys : List α} {x : α} (h : ((xs ++ x :: ys).map key).Nodup) :
    key x ∉ xs.map key := by
  rw [List.map_append, List.map_cons, List.nodup_middle, List.nodup_cons] at h
  intro hx
  exact h.1 (List.mem_append_left _ hx)

variable [DecidableEq κ] [BEq κ] [LawfulBEq κ]

omit [DecidableEq κ] in
theorem eraseDups_concat (ks : List κ) (k : κ) :
    (ks ++ [k]).eraseDups = if k ∈ ks then ks.eraseDups else ks.eraseDups ++ [k] := by
  rw [List.eraseDups_append]
  by_cases hk : k ∈ ks
  · have hgone : [k].removeAll ks = [] := by simp [List.removeAll, hk]
    rw [if_pos hk, hgone, List.eraseDups_nil, List.append_nil]
  · have hstays : [k].removeAll ks = [k] := by simp [List.removeAll, hk]
    rw [if_neg hk, hstays]
    rfl

theorem keys_foldl_upsert {keyOf : ω → κ} {change : ω → α → α} {new : ω → α}
    (hchange : ∀ w x, key (change w x) = key x) (hnew : ∀ w, key (new w) = keyOf w) (ws : List ω) :
    (ws.foldl (fun xs w ↦ upsert key (keyOf w) (change w) (new w) xs) []).map key =
      (ws.map keyOf).eraseDups := by
  induction ws using List.reverseRecOn with
  | nil => rfl
  | append_singleton ws w ih =>
      rw [List.foldl_append, List.foldl_cons, List.foldl_nil, keys_upsert (hchange w) (hnew w), ih,
        List.map_append, List.map_singleton, eraseDups_concat]
      simp only [List.mem_eraseDups]

end Upsert

theorem WriteRequest.eq_column {w : WriteRequest} {c : ColumnWrite}
    (hcolumn : w.column.column = c.column) (hvalue : c.value = w.value) (htimestamp : c.timestamp = none)
    (htags : c.tags = []) : c = w.column := by
  obtain ⟨hfamily, hqualifier⟩ := Column.mk.inj hcolumn
  obtain ⟨family, qualifier, timestamp, value, tags⟩ := c
  rw [WriteRequest.column, ColumnWrite.mk.injEq]
  exact ⟨hfamily.symm, hqualifier.symm, htimestamp, hvalue, htags⟩

namespace Put

/-! ## First places and last values -/

/-- Each row and each column that requests write is there once, where the first request for it puts it
and with the value that the last one gives. -/
structure Collects (ws : List WriteRequest) (puts : List Put) : Prop extends Grouped puts where
  rowOrder : puts.map Put.row = (ws.map fun w ↦ Bytes.ofString w.row).eraseDups
  columnOrder : ∀ p ∈ puts, p.columns.map ColumnWrite.column =
    ((ws.filter fun w ↦ Bytes.ofString w.row = p.row).map (·.column.column)).eraseDups
  last : ∀ p ∈ puts, ∀ c ∈ p.columns, ∃ w, ws.findRev? (·.isAt p.row c.column) = some w ∧
    c.value = w.value ∧ c.timestamp = none ∧ c.tags = []
  nonempty : ∀ p ∈ puts, p.isEmpty = false

theorem Collects.exists_request {ws : List WriteRequest} {puts : List Put} (h : Collects ws puts)
    {p : Put} (hp : p ∈ puts) {c : ColumnWrite} (hc : c ∈ p.columns) :
    ∃ w, ws.findRev? (·.isAt p.row c.column) = some w ∧ p.row = Bytes.ofString w.row ∧
      c = w.column := by
  obtain ⟨w, hw, hvalue, htimestamp, htags⟩ := h.last p hp c hc
  obtain ⟨-, hrow, hcolumn⟩ := WriteRequest.of_findRev? hw
  exact ⟨w, hw, hrow.symm, WriteRequest.eq_column hcolumn hvalue htimestamp htags⟩

theorem Collects.unique {ws : List WriteRequest} {ps qs : List Put} (hps : Collects ws ps)
    (hqs : Collects ws qs) : ps = qs := by
  apply eq_of_map_key (hps.rowOrder.trans hqs.rowOrder.symm)
  rintro ⟨row, cs⟩ hp ⟨row', ds⟩ hq (rfl : row = row')
  have hcolumns : cs.map ColumnWrite.column = ds.map ColumnWrite.column :=
    (hps.columnOrder _ hp).trans (hqs.columnOrder _ hq).symm
  rw [eq_of_map_key hcolumns]
  intro c hc d hd hcd
  obtain ⟨w, hw, -, hcw⟩ := hps.exists_request hp hc
  obtain ⟨v, hv, -, hdv⟩ := hqs.exists_request hq hd
  rw [hcd, hv] at hw
  rw [hcw, hdv, Option.some.inj hw]

def columnsOf (puts : List Put) (row : Bytes) : List ColumnWrite :=
  ((puts.find? (fun p ↦ p.row = row)).map Put.columns).getD []

theorem columnsOf_place (puts : List Put) (w : WriteRequest) (row : Bytes) :
    columnsOf (place puts w) row =
      if row = Bytes.ofString w.row then setColumn w.column (columnsOf puts row)
      else columnsOf puts row := by
  unfold columnsOf
  rw [find?_place]
  by_cases hrow : row = Bytes.ofString w.row
  · subst hrow
    rw [if_pos rfl, if_pos rfl]
    cases puts.find? (fun p ↦ p.row = Bytes.ofString w.row) <;> rfl
  · rw [if_neg hrow, if_neg hrow]

/-- What is written in a row depends on the requests for it alone. -/
theorem columnsOf_group (ws : List WriteRequest) (row : Bytes) :
    columnsOf (group ws) row =
      (ws.filter fun w ↦ Bytes.ofString w.row = row).foldl (fun cs w ↦ setColumn w.column cs) [] := by
  induction ws using List.reverseRecOn with
  | nil => rfl
  | append_singleton ws w ih =>
      rw [group_append, List.foldl_cons, List.foldl_nil, columnsOf_place, ih, List.filter_append,
        List.foldl_append]
      by_cases hrow : Bytes.ofString w.row = row
      · simp [hrow]
      · have hne : row ≠ Bytes.ofString w.row := Ne.symm hrow
        simp [hrow, hne]

theorem rows_group (ws : List WriteRequest) :
    (group ws).map Put.row = (ws.map fun w ↦ Bytes.ofString w.row).eraseDups := by
  rw [group_eq_foldl]
  apply keys_foldl_upsert
  · intro w p
    rfl
  · intro w
    rfl

theorem columns_foldl_setColumn (ws : List WriteRequest) :
    (ws.foldl (fun cs w ↦ setColumn w.column cs) []).map ColumnWrite.column =
      (ws.map (·.column.column)).eraseDups := by
  simp only [setColumn_eq]
  apply keys_foldl_upsert
  · intro w c
    rfl
  · intro w
    rfl

theorem collects_group (ws : List WriteRequest) : Collects ws (group ws) := by
  have hgrouped := grouped_group ws
  have hrows := rows_group ws
  have hcolumns : ∀ p ∈ group ws, p.columns.map ColumnWrite.column =
      ((ws.filter fun w ↦ Bytes.ofString w.row = p.row).map (·.column.column)).eraseDups := by
    intro p hp
    rw [← columns_foldl_setColumn, ← columnsOf_group, columnsOf,
      find?_eq_some_of_mem hgrouped.rows hp rfl]
    rfl
  refine ⟨hgrouped, hrows, hcolumns, ?_, ?_⟩
  · intro p hp c hc
    have hfound : find (group ws) p.row c.column = some c := by
      rw [find, find?_eq_some_of_mem hgrouped.rows hp rfl, Option.bind_some,
        find?_eq_some_of_mem (hgrouped.columns p hp) hc rfl]
    rw [find_group] at hfound
    obtain ⟨w, hw, rfl⟩ := Option.map_eq_some_iff.mp hfound
    exact ⟨w, hw, rfl, rfl, rfl⟩
  -- A row is there because of a request for it, which writes some column.
  · intro p hp
    have hrow : p.row ∈ (group ws).map Put.row := List.mem_map_of_mem hp
    rw [hrows, List.mem_eraseDups, List.mem_map] at hrow
    obtain ⟨w, hw, hrow⟩ := hrow
    have hcolumn : w.column.column ∈ p.columns.map ColumnWrite.column := by
      rw [hcolumns p hp, List.mem_eraseDups]
      exact List.mem_map_of_mem (List.mem_filter.mpr ⟨hw, decide_eq_true hrow⟩)
    cases hempty : p.columns with
    | nil =>
        rw [hempty] at hcolumn
        cases hcolumn
    | cons c cs => rw [isEmpty, hempty, List.isEmpty_cons]

/-! ## Puts as requests -/

/-- A write to a column, read as the request for it. -/
def request (row : Bytes) (c : ColumnWrite) : WriteRequest :=
  ⟨Utf8.lossy row, Utf8.lossy c.family, Utf8.lossy c.qualifier, c.value⟩

def requests (puts : List Put) : List WriteRequest :=
  puts.flatMap fun p ↦ p.columns.map (request p.row)

theorem request_column (w : WriteRequest) : request (Bytes.ofString w.row) w.column = w := by
  have htext : ∀ s, Utf8.lossy (Bytes.ofString s) = s := by
    intro s
    rw [Utf8.lossy, Bytes.decodeLossy_ofString, String.ofList_toList]
  rw [request, WriteRequest.column, htext, htext, htext]

/-- A write to a column that some request stands for, so that its octets are those of texts. -/
def Requested (row : Bytes) (c : ColumnWrite) : Prop :=
  ∃ w : WriteRequest, row = Bytes.ofString w.row ∧ c = w.column

theorem place_of_new_row {puts : List Put} {w : WriteRequest}
    (hrow : Bytes.ofString w.row ∉ puts.map Put.row) :
    place puts w = puts ++ [⟨Bytes.ofString w.row, [w.column]⟩] := by
  rw [place, upsert_eq_append hrow]

theorem place_of_new_column {puts : List Put} {w : WriteRequest} {cs : List ColumnWrite}
    (hrow : Bytes.ofString w.row ∉ puts.map Put.row)
    (hcolumn : w.column.column ∉ cs.map ColumnWrite.column) :
    place (puts ++ [⟨Bytes.ofString w.row, cs⟩]) w =
      puts ++ [⟨Bytes.ofString w.row, cs ++ [w.column]⟩] := by
  rw [place, upsert_append hrow, upsert, if_pos rfl, Put.write, setColumn_eq,
    upsert_eq_append hcolumn]

theorem foldl_place_columns {puts : List Put} {row : Bytes} (hrow : row ∉ puts.map Put.row)
    {earlier later : List ColumnWrite} (hlater : ∀ c ∈ later, Requested row c)
    (hcolumns : ((earlier ++ later).map ColumnWrite.column).Nodup) :
    (later.map (request row)).foldl place (puts ++ [⟨row, earlier⟩]) =
      puts ++ [⟨row, earlier ++ later⟩] := by
  induction later generalizing earlier with
  | nil => rw [List.append_nil, List.map_nil, List.foldl_nil]
  | cons c cs ih =>
      obtain ⟨w, rfl, rfl⟩ := hlater c List.mem_cons_self
      have hnew : w.column.column ∉ earlier.map ColumnWrite.column := key_notMem_of_nodup hcolumns
      rw [List.append_cons] at hcolumns
      rw [List.map_cons, List.foldl_cons, request_column, place_of_new_column hrow hnew,
        @List.append_cons _ earlier w.column cs]
      apply ih _ hcolumns
      intro d hd
      exact hlater d (List.mem_cons_of_mem _ hd)

theorem foldl_place_put {puts : List Put} {p : Put} (hrow : p.row ∉ puts.map Put.row)
    (hempty : p.isEmpty = false) (hrequested : ∀ c ∈ p.columns, Requested p.row c)
    (hcolumns : (p.columns.map ColumnWrite.column).Nodup) :
    (p.columns.map (request p.row)).foldl place puts = puts ++ [p] := by
  -- The first column makes a new put, and the others are added to it.
  obtain ⟨row, _ | ⟨c, cs⟩⟩ := p
  · cases hempty
  · obtain ⟨w, rfl, rfl⟩ := hrequested c List.mem_cons_self
    rw [List.map_cons, List.foldl_cons, request_column, place_of_new_row hrow]
    apply foldl_place_columns hrow _ hcolumns
    intro d hd
    exact hrequested d (List.mem_cons_of_mem _ hd)

theorem foldl_place_requests {earlier later : List Put} (hgrouped : Grouped (earlier ++ later))
    (hempty : ∀ p ∈ later, p.isEmpty = false)
    (hrequested : ∀ p ∈ later, ∀ c ∈ p.columns, Requested p.row c) :
    (requests later).foldl place earlier = earlier ++ later := by
  induction later generalizing earlier with
  | nil => exact (List.append_nil earlier).symm
  | cons p ps ih =>
      have hp : p ∈ p :: ps := List.mem_cons_self
      have hrow : p.row ∉ earlier.map Put.row := key_notMem_of_nodup hgrouped.rows
      have hput : (p.columns.map (request p.row)).foldl place earlier = earlier ++ [p] :=
        foldl_place_put hrow (hempty p hp) (hrequested p hp)
          (hgrouped.columns p (List.mem_append_right earlier hp))
      rw [List.append_cons] at hgrouped ⊢
      rw [requests, List.flatMap_cons, List.foldl_append, hput]
      apply ih hgrouped
      · intro q hq
        exact hempty q (List.mem_cons_of_mem p hq)
      · intro q hq
        exact hrequested q (List.mem_cons_of_mem p hq)

/-- Grouping keeps the first place and the last value of every row and column, and with that all that
matters when further requests are grouped with them. -/
theorem group_lossless (ws : List WriteRequest) :
    Collects ws (group ws) ∧ (∀ puts, Collects ws puts → puts = group ws) ∧
      (∀ vs zs, group vs = group ws → group (vs ++ zs) = group (ws ++ zs)) ∧
      group (requests (group ws)) = group ws := by
  have hcollects := collects_group ws
  refine ⟨hcollects, fun puts h ↦ h.unique hcollects, ?_, ?_⟩
  · intro vs zs h
    rw [group_append, h, group_append]
  · rw [group_eq_foldl (requests _)]
    apply foldl_place_requests hcollects.toGrouped hcollects.nonempty
    intro p hp c hc
    obtain ⟨w, -, hrow, hcolumn⟩ := hcollects.exists_request hp hc
    exact ⟨w, hrow, hcolumn⟩

end Put

end ColumnStore
