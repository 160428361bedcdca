import ColumnStore.Cluster.Write
import Mathlib.Algebra.Ring.Nat
import Mathlib.Data.List.Dedup
import Mathlib.Data.List.Induction

/-!
# The newest versions

Versions of a column stand in strictly descending order of time. Retaining the newest few after
every write comes to the same as retaining all of them and cutting once (`foldl_place_take`), and
what is left are the greatest times that were written, each with the last write at that time
(`take_foldl_place`).
-/

namespace ColumnStore.Versions

open Std

variable {α : Type} (time : α → Timestamp)

/-- Later versions come first, and no two have one time. -/
def Descending (xs : List α) : Prop :=
  xs.Pairwise (fun x y ↦ time y < time x)

/-- Put a version at its place in the order, instead of one with the same time. -/
def place (x : α) : List α → List α
  | [] => [x]
  | y :: ys =>
    if time x < time y then y :: place x ys
    else if time y < time x then x :: y :: ys
    else x :: ys

def times (xs : List α) : List Timestamp :=
  (xs.map time).dedup.mergeSort (fun s t ↦ t ≤ s)

def lastAt (xs : List α) (t : Timestamp) : Option α :=
  xs.findRev? (fun x ↦ time x = t)

/-- The greatest times of some writes, at most `count`, each with the last write at that time. -/
def newest (count : Nat) (xs : List α) : List α :=
  ((times time xs).take count).filterMap (lastAt time xs)

variable {time}

/-! ## Placing a version -/

theorem mem_place {x y : α} {ys : List α} (h : y ∈ place time x ys) : y = x ∨ y ∈ ys := by
  induction ys with
  | nil => simpa [place] using h
  | cons z zs ih =>
      simp only [place] at h
      split at h
      · rcases List.mem_cons.mp h with rfl | h
        · exact .inr List.mem_cons_self
        · exact (ih h).imp_right (List.mem_cons_of_mem z)
      · split at h
        · exact List.mem_cons.mp h
        · exact (List.mem_cons.mp h).imp_right (List.mem_cons_of_mem z)

/-- What is later than the first version is later than all. -/
theorem Descending.lt_of_head {y : α} {ys : List α} (h : Descending time (y :: ys)) {t : Timestamp}
    (ht : time y < t) : ∀ z ∈ y :: ys, time z < t := by
  intro z hz
  rcases List.mem_cons.mp hz with rfl | hz
  · exact ht
  · exact Int64.lt_trans ((List.pairwise_cons.mp h).1 z hz) ht

/-- Placing a version keeps the others in order, the latest first. -/
theorem Descending.place {ys : List α} (x : α) (h : Descending time ys) :
    Descending time (place time x ys) := by
  induction ys with
  | nil => exact List.pairwise_singleton _ x
  | cons y ys ih =>
      obtain ⟨hhead, hrest⟩ := List.pairwise_cons.mp h
      simp only [Versions.place]
      split
      · next hlt =>
        refine List.pairwise_cons.mpr ⟨fun z hz ↦ ?_, ih hrest⟩
        rcases mem_place hz with rfl | hz
        · exact hlt
        · exact hhead z hz
      · next hnot =>
        split
        · next hgt =>
          exact List.pairwise_cons.mpr ⟨h.lt_of_head hgt, h⟩
        · next hnot' =>
          have heq : time x = time y := Int64.le_antisymm (Int64.not_lt.mp hnot') (Int64.not_lt.mp hnot)
          refine List.pairwise_cons.mpr ⟨fun z hz ↦ ?_, hrest⟩
          rw [heq]
          exact hhead z hz

theorem find?_place (x : α) (ys : List α) (t : Timestamp) :
    (place time x ys).find? (fun y ↦ time y = t) =
      if time x = t then some x else ys.find? (fun y ↦ time y = t) := by
  induction ys with
  | nil => by_cases hx : time x = t <;> simp [place, hx]
  | cons y ys ih =>
      simp only [place]
      split
      · next hlt =>
        by_cases hy : time y = t
        · have hx : time x ≠ t := by grind
          simp [hy, hx]
        · simp [hy, ih]
      · next hnot =>
        by_cases hx : time x = t
        · split <;> simp [hx]
        · split
          · simp [hx]
          · next hnot' =>
            have hy : time y ≠ t := by grind
            simp [hx, hy]

/-- Cutting a list before a version is placed loses nothing that cutting afterwards would keep. -/
theorem take_place_take (count : Nat) (x : α) (ys : List α) :
    (place time x (ys.take count)).take count = (place time x ys).take count := by
  induction ys generalizing count with
  | nil => simp
  | cons y ys ih =>
      cases count with
      | zero => simp
      | succ count =>
          simp only [List.take_succ_cons, place]
          split
          · simp [ih]
          · split
            · cases count <;> simp [List.take_take]
            · simp [List.take_take]

theorem foldl_place_take (count : Nat) (xs ys : List α) :
    xs.foldl (fun ys x ↦ (place time x ys).take count) (ys.take count) =
      (xs.foldl (fun ys x ↦ place time x ys) ys).take count := by
  induction xs generalizing ys with
  | nil => rfl
  | cons x xs ih => rw [List.foldl_cons, take_place_take, ih, List.foldl_cons]

/-- A version that has the time of the one before takes its place. -/
theorem place_place {x y : α} (h : time y = time x) (zs : List α) :
    place time x (place time y zs) = place time x zs := by
  induction zs with
  | nil => simp [place, h]
  | cons z zs ih =>
      simp only [place, h]
      split
      · next hlt => rw [place, if_pos hlt, ih]
      · split
        · simp [place, h]
        · simp [place, h]

theorem take_place_foldl {x : α} {xs : List α} (h : ∀ y ∈ xs, time y = time x) (count : Nat)
    (zs : List α) :
    (place time x (xs.foldl (fun zs y ↦ (place time y zs).take count) zs)).take count =
      (place time x zs).take count := by
  induction xs generalizing zs with
  | nil => rfl
  | cons y xs ih =>
      obtain ⟨hy, hxs⟩ := List.forall_mem_cons.mp h
      rw [List.foldl_cons, ih hxs, take_place_take, place_place hy]

/-- Of writes at one time just the last one counts. -/
theorem foldl_place_getLast? {t : Timestamp} {xs : List α} (h : ∀ x ∈ xs, time x = t) (count : Nat)
    (zs : List α) :
    xs.getLast?.toList.foldl (fun zs x ↦ (place time x zs).take count) zs =
      xs.foldl (fun zs x ↦ (place time x zs).take count) zs := by
  cases xs using List.reverseRecOn with
  | nil => rfl
  | append_singleton xs x =>
      have hx : time x = t := h x (by simp)
      have hxs : ∀ y ∈ xs, time y = time x := by
        intro y hy
        rw [hx]
        exact h y (List.mem_append_left [x] hy)
      rw [List.getLast?_concat, List.foldl_concat, take_place_foldl hxs]
      rfl

theorem head?_place {x : α} {ys : List α} (h : ∀ y ∈ ys, time y ≤ time x) :
    (place time x ys).head? = some x := by
  cases ys with
  | nil => rfl
  | cons y ys =>
      have hnot : ¬time x < time y := Int64.not_lt.mpr (h y List.mem_cons_self)
      rw [place, if_neg hnot]
      split <;> rfl

/-- The first version that passes a test of its time was there before a later one was placed. -/
theorem find?_of_find?_place {p : α → Bool} (hp : ∀ y z, time y = time z → p y = p z) {x y : α}
    {ys : List α} {count : Nat} (h : ((place time y ys).take count).find? p = some x)
    (hxy : time x < time y) : ys.find? p = some x := by
  -- What is found is not the version that was placed, so the search goes on behind that one.
  have hne : y ≠ x := by
    rintro rfl
    exact Int64.lt_irrefl hxy
  induction ys generalizing count with
  | nil =>
      have hmem := List.mem_of_mem_take (List.mem_of_find?_eq_some h)
      exact (hne (List.mem_singleton.mp hmem).symm).elim
  | cons z zs ih =>
      cases count with
      | zero => cases h
      | succ count =>
          rw [place] at h
          split at h
          · rw [List.take_succ_cons] at h
            cases hz : p z with
            | true => simpa [hz] using h
            | false =>
                rw [List.find?_cons_of_neg (by simp [hz])] at h ⊢
                exact ih h
          · have hy : p y = false := by
              by_contra hy
              split at h <;>
              · rw [List.take_succ_cons, List.find?_cons_of_pos (by simpa using hy)] at h
                exact hne (Option.some.inj h)
            split at h
            · rw [List.take_succ_cons, List.find?_cons_of_neg (by simp [hy])] at h
              exact (List.take_prefix count _).find?_eq_some h
            · next hnot hnot' =>
              have hyz : time y = time z :=
                Int64.le_antisymm (Int64.not_lt.mp hnot') (Int64.not_lt.mp hnot)
              have hz : ¬p z := by simp [← hp y z hyz, hy]
              rw [List.take_succ_cons, List.find?_cons_of_neg (by simp [hy])] at h
              rw [List.find?_cons_of_neg hz]
              exact (List.take_prefix count _).find?_eq_some h

/-! ## What a history leaves -/

theorem find?_eq_none_of_lt {ys : List α} {t : Timestamp} (h : ∀ y ∈ ys, time y < t) :
    ys.find? (fun y ↦ time y = t) = none := by
  rw [List.find?_eq_none]
  intro y hy
  simpa using Int64.ne_of_lt (h y hy)

theorem filter_ne_of_lt {ys : List α} {t : Timestamp} (h : ∀ y ∈ ys, time y < t) :
    ys.filter (fun y ↦ time y ≠ t) = ys := by
  rw [List.filter_eq_self]
  intro y hy
  simpa using Int64.ne_of_lt (h y hy)

theorem Descending.ext {xs ys : List α} (hxs : Descending time xs) (hys : Descending time ys)
    (h : ∀ t, xs.find? (fun x ↦ time x = t) = ys.find? (fun y ↦ time y = t)) : xs = ys := by
  induction xs generalizing ys with
  | nil =>
      cases ys with
      | nil => rfl
      | cons y ys =>
          have hy := h (time y)
          simp at hy
  | cons x xs ih =>
      obtain ⟨hx, hxs'⟩ := List.pairwise_cons.mp hxs
      cases ys with
      | nil =>
          have hx := h (time x)
          simp at hx
      | cons y ys =>
          obtain ⟨hy, hys'⟩ := List.pairwise_cons.mp hys
          -- The first versions agree, since the later of them would be found on one side only.
          have hxy : x = y := by
            rcases Int64.lt_or_le (time x) (time y) with hlt | hle
            · have hfound := h (time y)
              rw [find?_eq_none_of_lt (hxs.lt_of_head hlt)] at hfound
              simp at hfound
            · rcases Int64.lt_or_le (time y) (time x) with hlt | hle'
              · have hfound := h (time x)
                rw [find?_eq_none_of_lt (hys.lt_of_head hlt)] at hfound
                simp at hfound
              · have heq : time y = time x := Int64.le_antisymm hle hle'
                simpa [heq] using h (time x)
          subst hxy
          congr 1
          refine ih hxs' hys' fun t ↦ ?_
          by_cases ht : time x = t
          · subst ht
            rw [find?_eq_none_of_lt hx, find?_eq_none_of_lt hy]
          · simpa [ht] using h t

theorem descending_foldl_place (xs ys : List α) (h : Descending time ys) :
    Descending time (xs.foldl (fun ys x ↦ place time x ys) ys) := by
  induction xs generalizing ys with
  | nil => exact h
  | cons x xs ih => exact ih _ (h.place x)

/-- Of all versions with one time the last that was placed is found. -/
theorem find?_foldl_place (xs : List α) (t : Timestamp) :
    (xs.foldl (fun ys x ↦ place time x ys) []).find? (fun y ↦ time y = t) = lastAt time xs t := by
  induction xs using List.reverseRecOn with
  | nil => rfl
  | append_singleton xs x ih =>
      rw [List.foldl_append, List.foldl_cons, List.foldl_nil, find?_place, ih]
      by_cases hx : time x = t <;> simp [lastAt, List.findRev?_eq_find?_reverse, hx]

theorem time_eq_of_lastAt {xs : List α} {t : Timestamp} {x : α} (h : lastAt time xs t = some x) :
    time x = t := by
  rw [lastAt, List.findRev?_eq_find?_reverse] at h
  simpa using List.find?_some h

theorem mem_of_lastAt {xs : List α} {t : Timestamp} {x : α} (h : lastAt time xs t = some x) :
    x ∈ xs := by
  rw [lastAt, List.findRev?_eq_find?_reverse] at h
  exact List.mem_reverse.mp (List.mem_of_find?_eq_some h)

theorem mem_times {xs : List α} {t : Timestamp} : t ∈ times time xs ↔ ∃ x ∈ xs, time x = t := by
  simp [times]

theorem descending_times (xs : List α) : (times time xs).Pairwise (fun s t ↦ t < s) := by
  have hle : (times time xs).Pairwise (fun s t ↦ t ≤ s) := by
    have h : (times time xs).Pairwise (fun s t ↦ decide (t ≤ s) = true) :=
      List.pairwise_mergeSort (fun r s t ↦ by grind) (fun s t ↦ by grind) _
    exact h.imp of_decide_eq_true
  have hne : (times time xs).Nodup :=
    (List.mergeSort_perm _ _).nodup_iff.mpr (List.nodup_dedup _)
  refine hle.imp₂ (fun s t hle hne ↦ ?_) hne
  exact Int64.lt_of_le_of_ne hle (Ne.symm hne)

theorem exists_lastAt {xs : List α} {t : Timestamp} (h : t ∈ times time xs) :
    ∃ x, lastAt time xs t = some x := by
  obtain ⟨x, hx, ht⟩ := mem_times.mp h
  rw [lastAt, List.findRev?_eq_find?_reverse, ← Option.isSome_iff_exists, List.find?_isSome]
  exact ⟨x, List.mem_reverse.mpr hx, by simpa using ht⟩

theorem find?_filterMap_lastAt (xs : List α) (ts : List Timestamp) (t : Timestamp) :
    (ts.filterMap (lastAt time xs)).find? (fun x ↦ time x = t) =
      if t ∈ ts then lastAt time xs t else none := by
  induction ts with
  | nil => rfl
  | cons s ts ih =>
      cases hs : lastAt time xs s with
      | none =>
          rw [List.filterMap_cons_none hs, ih]
          by_cases hst : t = s
          · subst hst
            simp [hs]
          · simp [hst]
      | some x =>
          have hx : time x = s := time_eq_of_lastAt hs
          rw [List.filterMap_cons_some hs]
          by_cases hst : t = s
          · subst hst
            simp [hs, hx]
          · simp [hx, Ne.symm hst, hst, ih]

theorem descending_filterMap_lastAt (xs : List α) {ts : List Timestamp}
    (h : ts.Pairwise (fun s t ↦ t < s)) : Descending time (ts.filterMap (lastAt time xs)) := by
  refine List.pairwise_filterMap.mpr (h.imp fun hst x hx y hy ↦ ?_)
  rw [time_eq_of_lastAt hx, time_eq_of_lastAt hy]
  exact hst

theorem take_filterMap_lastAt (xs : List α) {ts : List Timestamp}
    (h : ∀ t ∈ ts, ∃ x, lastAt time xs t = some x) (count : Nat) :
    (ts.take count).filterMap (lastAt time xs) = (ts.filterMap (lastAt time xs)).take count := by
  induction ts generalizing count with
  | nil => simp
  | cons t ts ih =>
      cases count with
      | zero => rfl
      | succ count =>
          obtain ⟨x, hx⟩ := h t List.mem_cons_self
          rw [List.take_succ_cons, List.filterMap_cons_some hx, List.filterMap_cons_some hx,
            List.take_succ_cons, ih fun t ht ↦ h t (List.mem_cons_of_mem _ ht)]

/-- What placing a history one by one leaves of its newest versions. -/
theorem take_foldl_place (count : Nat) (xs : List α) :
    (xs.foldl (fun ys x ↦ place time x ys) []).take count = newest time count xs := by
  have hall : xs.foldl (fun ys x ↦ place time x ys) [] =
      (times time xs).filterMap (lastAt time xs) := by
    -- Both sides are in order, so they are equal if they agree on every single time.
    apply Descending.ext (descending_foldl_place xs [] .nil)
      (descending_filterMap_lastAt xs (descending_times xs))
    intro t
    rw [find?_foldl_place, find?_filterMap_lastAt]
    split
    · rfl
    · next ht =>
      cases hlast : lastAt time xs t with
      | none => rfl
      | some x =>
          have hmem : x ∈ xs := mem_of_lastAt hlast
          exact (ht (mem_times.mpr ⟨x, hmem, time_eq_of_lastAt hlast⟩)).elim
  rw [newest, hall, take_filterMap_lastAt]
  exact fun t ht ↦ exists_lastAt ht

/-- What is left of a history follows from the last write at each time. -/
theorem newest_congr {xs ys : List α} (h : ∀ t, lastAt time xs t = lastAt time ys t) (count : Nat) :
    newest time count xs = newest time count ys := by
  rw [← take_foldl_place, ← take_foldl_place]
  congr 1
  apply Descending.ext (descending_foldl_place xs [] .nil) (descending_foldl_place ys [] .nil)
  intro t
  rw [find?_foldl_place, find?_foldl_place, h]

@[simp] theorem newest_nil (count : Nat) : newest time count ([] : List α) = [] := by
  rw [← take_foldl_place, List.foldl_nil, List.take_nil]

theorem foldl_newest (count : Nat) (xs ys : List α) :
    ys.foldl (fun zs y ↦ (place time y zs).take count) (newest time count xs) =
      newest time count (xs ++ ys) := by
  rw [← take_foldl_place, ← take_foldl_place, foldl_place_take, List.foldl_append]

/-- One more version is placed among the newest ones, of which no more stay than before. -/
theorem newest_concat (count : Nat) (xs : List α) (x : α) :
    newest time count (xs ++ [x]) = (place time x (newest time count xs)).take count := by
  rw [← foldl_newest, List.foldl_cons, List.foldl_nil]

/-- The first version that passes a test of its time was there before later ones were written. -/
theorem find?_of_find?_newest {p : α → Bool} (hp : ∀ y z, time y = time z → p y = p z) {x : α}
    {xs ys : List α} {count : Nat} (h : (newest time count (xs ++ ys)).find? p = some x)
    (hys : ∀ y ∈ ys, time x < time y) : (newest time count xs).find? p = some x := by
  induction ys using List.reverseRecOn with
  | nil => rwa [List.append_nil] at h
  | append_singleton ys y ih =>
      rw [← List.append_assoc, newest_concat] at h
      apply ih
      · exact find?_of_find?_place hp h (hys y (by simp))
      · intro z hz
        exact hys z (List.mem_append_left [y] hz)

theorem mem_of_mem_newest {count : Nat} {xs : List α} {x : α} (h : x ∈ newest time count xs) :
    x ∈ xs := by
  obtain ⟨t, -, hlast⟩ := List.mem_filterMap.mp h
  exact mem_of_lastAt hlast

theorem length_newest_le (count : Nat) (xs : List α) : (newest time count xs).length ≤ count := by
  have htimes := List.length_take_le count (times time xs)
  have hfound := List.length_filterMap_le (lastAt time xs) ((times time xs).take count)
  rw [newest]
  omega

theorem descending_newest (time : α → Timestamp) (count : Nat) (xs : List α) :
    Descending time (newest time count xs) :=
  descending_filterMap_lastAt xs ((descending_times xs).sublist (List.take_sublist count _))

/-! ## Versions of cells -/

theorem insertVersion_of_lt {cell : Cell} {vs : List Cell}
    (h : ∀ v ∈ vs, v.timestamp < cell.timestamp) : Cluster.insertVersion cell vs = cell :: vs := by
  cases vs with
  | nil => rfl
  | cons v vs => simp [Cluster.insertVersion, h v List.mem_cons_self]

theorem insertVersion_filter {cell : Cell} {vs : List Cell} (h : Descending Cell.timestamp vs) :
    Cluster.insertVersion cell (vs.filter (·.timestamp ≠ cell.timestamp)) =
      place Cell.timestamp cell vs := by
  induction vs with
  | nil => rfl
  | cons v vs ih =>
      obtain ⟨hv, hvs⟩ := List.pairwise_cons.mp h
      rcases Int64.lt_or_le cell.timestamp v.timestamp with hlt | hle
      · have hne : v.timestamp ≠ cell.timestamp := by grind
        have hnot : ¬v.timestamp < cell.timestamp := Int64.lt_asymm hlt
        rw [List.filter_cons_of_pos (by simpa using hne), Cluster.insertVersion, if_neg hnot, ih hvs,
          place, if_pos hlt]
      · by_cases heq : v.timestamp = cell.timestamp
        · rw [heq] at hv
          rw [List.filter_cons_of_neg (by simpa using heq), filter_ne_of_lt hv,
            insertVersion_of_lt hv]
          simp [place, heq]
        · have hlt : v.timestamp < cell.timestamp := Int64.lt_of_le_of_ne hle heq
          have hnot : ¬cell.timestamp < v.timestamp := Int64.lt_asymm hlt
          have hlater : ∀ w ∈ vs, w.timestamp < cell.timestamp := by
            intro w hw
            exact Int64.lt_trans (hv w hw) hlt
          rw [List.filter_cons_of_pos (by simpa using heq), filter_ne_of_lt hlater]
          simp [Cluster.insertVersion, place, hlt, hnot]

theorem addVersion_eq {cell : Cell} {vs : List Cell} (retained : Nat)
    (h : Descending Cell.timestamp vs) :
    Cluster.addVersion retained cell vs = (place Cell.timestamp cell vs).take retained := by
  rw [Cluster.addVersion, insertVersion_filter h]

theorem descending_addVersion (retained : Nat) (cell : Cell) {vs : List Cell}
    (h : Descending Cell.timestamp vs) :
    Descending Cell.timestamp (Cluster.addVersion retained cell vs) := by
  rw [addVersion_eq retained h]
  exact (h.place cell).sublist (List.take_sublist _ _)

theorem map_place {β : Type} {time' : β → Timestamp} {f : α → β} (hf : ∀ x, time' (f x) = time x)
    (x : α) (ys : List α) : (place time x ys).map f = place time' (f x) (ys.map f) := by
  induction ys with
  | nil => rfl
  | cons y ys ih =>
      simp only [place, List.map_cons, hf]
      split
      · rw [List.map_cons, ih]
      · split <;> rfl

/-- Retaining the newest after every cell, in whatever form the cells are read. -/
theorem map_foldl_addVersion {β : Type} (time : β → Timestamp) {f : Cell → β}
    (hf : ∀ c, time (f c) = c.timestamp) (retained : Nat) (cells vs : List Cell)
    (h : Descending Cell.timestamp vs) :
    (cells.foldl (fun vs cell ↦ Cluster.addVersion retained cell vs) vs).map f =
      (cells.map f).foldl (fun ys y ↦ (place time y ys).take retained) (vs.map f) := by
  induction cells generalizing vs with
  | nil => rfl
  | cons cell cells ih =>
      rw [List.foldl_cons, ih _ (descending_addVersion retained cell h), List.map_cons,
        List.foldl_cons, addVersion_eq retained h, List.map_take, map_place hf]

theorem foldl_insertVersion (cells : List Cell) :
    cells.foldl (fun vs cell ↦
        Cluster.insertVersion cell (vs.filter (·.timestamp ≠ cell.timestamp))) [] =
      cells.foldl (fun vs cell ↦ place Cell.timestamp cell vs) [] := by
  induction cells using List.reverseRecOn with
  | nil => rw [List.foldl_nil, List.foldl_nil]
  | append_singleton cells cell ih =>
      have hdescending : Descending Cell.timestamp
          (cells.foldl (fun vs cell ↦ place Cell.timestamp cell vs) []) :=
        descending_foldl_place cells [] .nil
      rw [List.foldl_concat, List.foldl_concat, ih, insertVersion_filter hdescending]

theorem foldl_addVersion (retained : Nat) (cells : List Cell) :
    cells.foldl (fun vs cell ↦ Cluster.addVersion retained cell vs) [] =
      (cells.foldl (fun vs cell ↦
        Cluster.insertVersion cell (vs.filter (·.timestamp ≠ cell.timestamp))) []).take retained := by
  have hcut := map_foldl_addVersion Cell.timestamp (f := id) (fun _ ↦ rfl) retained cells [] .nil
  rw [foldl_insertVersion, ← foldl_place_take]
  simpa using hcut

end ColumnStore.Versions
