import ColumnStore.Text.Fields

/-!
# Sets of code points

A set is kept as closed ranges in ascending order with a gap between any two, so that equal sets are
kept alike and membership is found by halving. Union and complement are worked out on the ranges and
the other operations are built from these two. `CodePoints.ofTable` reads a set from a table of
blank-separated hexadecimal numbers `a` and ranges `a-b`, the form in which the character data is
kept.
-/

namespace ColumnStore

namespace CodePoints

/-- The ranges are not empty, and each one ends before the number before the next one. -/
def Ascending (ranges : List (Nat × Nat)) : Prop :=
  ranges.Pairwise (fun r s ↦ r.2 + 1 < s.1) ∧ ∀ r ∈ ranges, r.1 ≤ r.2

instance (ranges : List (Nat × Nat)) : Decidable (Ascending ranges) :=
  inferInstanceAs (Decidable (_ ∧ _))

def Covers (ranges : List (Nat × Nat)) (n : Nat) : Prop :=
  ∃ r ∈ ranges, r.1 ≤ n ∧ n ≤ r.2

theorem covers_cons {r : Nat × Nat} {ranges : List (Nat × Nat)} {n : Nat} :
    Covers (r :: ranges) n ↔ (r.1 ≤ n ∧ n ≤ r.2) ∨ Covers ranges n := by
  simp [Covers]

theorem not_covers_nil (n : Nat) : ¬ Covers [] n := by
  simp [Covers]

end CodePoints

structure CodePoints where
  ranges : Array (Nat × Nat)
  ascending : CodePoints.Ascending ranges.toList := by decide
deriving DecidableEq

namespace CodePoints

/-! ## Membership -/

instance : Membership Nat CodePoints :=
  ⟨fun s n ↦ Covers s.ranges.toList n⟩

theorem mem_def {s : CodePoints} {n : Nat} : n ∈ s ↔ Covers s.ranges.toList n := Iff.rfl

/-- Look for the range of a number among those with an index from `low` up to but not including
`high`. -/
def search (ranges : Array (Nat × Nat)) (n low high : Nat) : Bool :=
  if low < high then
    let middle := (low + high) / 2
    match ranges[middle]? with
    | none => false
    | some (a, b) =>
      if n < a then search ranges n low middle
      else if b < n then search ranges n (middle + 1) high
      else true
  else
    false
termination_by high - low

def contains (s : CodePoints) (n : Nat) : Bool :=
  search s.ranges n 0 s.ranges.size

theorem search_iff {ranges : Array (Nat × Nat)} (h : Ascending ranges.toList) (n low high : Nat)
    (hhigh : high ≤ ranges.size) :
    search ranges n low high = true ↔
      ∃ i, ∃ hi : i < ranges.size, low ≤ i ∧ i < high ∧ ranges[i].1 ≤ n ∧ n ≤ ranges[i].2 := by
  have hlt : ∀ (i j : Nat) (hi : i < ranges.size) (hj : j < ranges.size), i < j →
      ranges[i].2 + 1 < ranges[j].1 := fun i j hi hj hij ↦
    List.pairwise_iff_getElem.mp h.1 i j (by simpa using hi) (by simpa using hj) hij
  have hle : ∀ (i : Nat) (hi : i < ranges.size), ranges[i].1 ≤ ranges[i].2 := fun i hi ↦
    h.2 _ (by simp)
  fun_induction search ranges n low high with
  | case1 low high hlow middle hnone =>
      have : middle < ranges.size := by omega
      simp [Array.getElem?_eq_getElem this] at hnone
  | case2 low high hlow middle a b hsome hn ih =>
      obtain ⟨hm, he⟩ := Array.getElem?_eq_some_iff.mp hsome
      refine (ih (by omega)).trans ?_
      constructor
      · rintro ⟨i, hi, h1, h2, h3⟩
        exact ⟨i, hi, h1, by omega, h3⟩
      · rintro ⟨i, hi, h1, h2, h3, h4⟩
        refine ⟨i, hi, h1, ?_, h3, h4⟩
        rcases Nat.lt_or_ge i middle with hi' | hi'
        · exact hi'
        · rcases Nat.eq_or_lt_of_le hi' with rfl | hi''
          · simp only [he] at h3
            omega
          · have := hlt middle i hm hi hi''
            have := hle middle hm
            simp only [he] at *
            omega
  | case3 low high hlow middle a b hsome hn hb ih =>
      obtain ⟨hm, he⟩ := Array.getElem?_eq_some_iff.mp hsome
      refine (ih (by omega)).trans ?_
      constructor
      · rintro ⟨i, hi, h1, h2, h3⟩
        exact ⟨i, hi, by omega, h2, h3⟩
      · rintro ⟨i, hi, h1, h2, h3, h4⟩
        refine ⟨i, hi, ?_, h2, h3, h4⟩
        rcases Nat.lt_or_ge middle i with hi' | hi'
        · exact hi'
        · rcases Nat.eq_or_lt_of_le hi' with rfl | hi''
          · simp only [he] at h4
            omega
          · have := hlt i middle hi hm hi''
            simp only [he] at this
            omega
  | case4 low high hlow middle a b hsome hn hb =>
      obtain ⟨hm, he⟩ := Array.getElem?_eq_some_iff.mp hsome
      simp only [true_iff]
      exact ⟨middle, hm, by omega, by omega, by simp only [he]; omega, by simp only [he]; omega⟩
  | case5 low high hlow =>
      simp only [Bool.false_eq_true, false_iff]
      rintro ⟨i, _, h1, h2, _⟩
      omega

theorem contains_iff (s : CodePoints) (n : Nat) : s.contains n = true ↔ n ∈ s := by
  rw [contains, search_iff s.ascending n 0 _ (Nat.le_refl _), mem_def, Covers]
  constructor
  · rintro ⟨i, hi, _, _, h⟩
    exact ⟨s.ranges[i], by simp, h⟩
  · rintro ⟨r, hr, h⟩
    obtain ⟨i, hi, rfl⟩ := Array.mem_iff_getElem.mp (Array.mem_toList_iff.mp hr)
    exact ⟨i, hi, Nat.zero_le _, hi, h⟩

instance (s : CodePoints) (n : Nat) : Decidable (n ∈ s) :=
  decidable_of_iff _ (s.contains_iff n)

/-! ## Union -/

/-- Join the ranges that overlap or touch, going on from the range from `low` to `high`. The ranges
must come in the order of their beginnings. -/
def coalesce (low high : Nat) : List (Nat × Nat) → List (Nat × Nat)
  | [] => [(low, high)]
  | (a, b) :: rest =>
    if a ≤ high + 1 then coalesce low (max high b) rest else (low, high) :: coalesce a b rest

theorem coalesce_props {low high : Nat} (h : low ≤ high) {rest : List (Nat × Nat)}
    (hsorted : rest.Pairwise fun r s ↦ r.1 ≤ s.1) (hlow : ∀ r ∈ rest, low ≤ r.1 ∧ r.1 ≤ r.2) :
    Ascending (coalesce low high rest) ∧ ∀ r ∈ coalesce low high rest, low ≤ r.1 := by
  induction rest generalizing low high with
  | nil => simp [coalesce, Ascending, h]
  | cons r rest ih =>
      obtain ⟨a, b⟩ := r
      rw [List.pairwise_cons] at hsorted
      have hab := hlow (a, b) (List.mem_cons_self ..)
      simp only [coalesce]
      split
      · exact ih (by omega) hsorted.2 fun r hr ↦ hlow r (List.mem_cons_of_mem _ hr)
      · next hgap =>
        obtain ⟨⟨hpair, hne⟩, hge⟩ := @ih a b (by omega) hsorted.2 fun r hr ↦
          ⟨hsorted.1 r hr, (hlow r (List.mem_cons_of_mem _ hr)).2⟩
        refine ⟨⟨List.pairwise_cons.mpr ⟨fun s hs ↦ ?_, hpair⟩, ?_⟩, ?_⟩
        · have := hge s hs
          show high + 1 < s.1
          omega
        · intro s hs
          rcases List.mem_cons.mp hs with rfl | hs
          · exact h
          · exact hne s hs
        · intro s hs
          rcases List.mem_cons.mp hs with rfl | hs
          · exact Nat.le_refl _
          · have := hge s hs
            omega

theorem covers_coalesce {low high : Nat} (h : low ≤ high) {rest : List (Nat × Nat)}
    (hlow : ∀ r ∈ rest, low ≤ r.1) (hsorted : rest.Pairwise fun r s ↦ r.1 ≤ s.1)
    (hne : ∀ r ∈ rest, r.1 ≤ r.2) (n : Nat) :
    Covers (coalesce low high rest) n ↔ (low ≤ n ∧ n ≤ high) ∨ Covers rest n := by
  induction rest generalizing low high with
  | nil => simp [coalesce, Covers]
  | cons r rest ih =>
      obtain ⟨a, b⟩ := r
      rw [List.pairwise_cons] at hsorted
      have ha := hlow (a, b) (List.mem_cons_self ..)
      have hab := hne (a, b) (List.mem_cons_self ..)
      have hne' := fun r hr ↦ hne r (List.mem_cons_of_mem _ hr)
      simp only [coalesce]
      split
      · rw [ih (by omega) (fun r hr ↦ hlow r (List.mem_cons_of_mem _ hr)) hsorted.2 hne',
          covers_cons]
        simp only at ha hab
        constructor
        · rintro (h | h)
          · by_cases hn : n ≤ high
            · exact Or.inl ⟨h.1, hn⟩
            · exact Or.inr (Or.inl ⟨by simp only; omega, by simp only; omega⟩)
          · exact Or.inr (Or.inr h)
        · rintro (h | h | h)
          · exact Or.inl ⟨h.1, by omega⟩
          · exact Or.inl ⟨by simp only at h; omega, by simp only at h; omega⟩
          · exact Or.inr h
      · rw [covers_cons, covers_cons, ih hab hsorted.1 hsorted.2 hne']

/-- Put ranges in ascending order, joining those that overlap or touch. Ranges that end before they
begin are left out. -/
def ordered (ranges : List (Nat × Nat)) : List (Nat × Nat) :=
  match (ranges.filter fun r ↦ r.1 ≤ r.2).mergeSort fun r s ↦ r.1 ≤ s.1 with
  | [] => []
  | (a, b) :: rest => coalesce a b rest

theorem sorted_and_mem (ranges : List (Nat × Nat)) {sorted : List (Nat × Nat)}
    (h : (ranges.filter fun r ↦ r.1 ≤ r.2).mergeSort (fun r s ↦ r.1 ≤ s.1) = sorted) :
    sorted.Pairwise (fun r s ↦ r.1 ≤ s.1) ∧ ∀ r, r ∈ sorted ↔ r ∈ ranges ∧ r.1 ≤ r.2 := by
  subst h
  constructor
  · have h : ((ranges.filter fun r ↦ r.1 ≤ r.2).mergeSort fun r s ↦ r.1 ≤ s.1).Pairwise
        fun r s ↦ decide (r.1 ≤ s.1) = true :=
      List.pairwise_mergeSort
        (fun _ _ _ h₁ h₂ ↦ by simp only [decide_eq_true_eq] at *; omega)
        (fun _ _ ↦ by simp only [Bool.or_eq_true, decide_eq_true_eq]; omega) _
    simpa using h
  · intro r
    simp [List.mem_mergeSort]

theorem ascending_ordered (ranges : List (Nat × Nat)) : Ascending (ordered ranges) := by
  unfold ordered
  split
  · simp [Ascending]
  · next a b rest h =>
    obtain ⟨hs, hm⟩ := sorted_and_mem ranges h
    rw [List.pairwise_cons] at hs
    exact (coalesce_props ((hm (a, b)).mp (List.mem_cons_self ..)).2 hs.2 fun r hr ↦
      ⟨hs.1 r hr, ((hm r).mp (List.mem_cons_of_mem _ hr)).2⟩).1

theorem covers_ordered (ranges : List (Nat × Nat)) (n : Nat) :
    Covers (ordered ranges) n ↔ Covers ranges n := by
  unfold ordered
  split
  · next h =>
    obtain ⟨-, hm⟩ := sorted_and_mem ranges h
    simp only [not_covers_nil, false_iff]
    rintro ⟨r, hr, h₁, h₂⟩
    exact List.not_mem_nil ((hm r).mpr ⟨hr, by omega⟩)
  · next a b rest h =>
    obtain ⟨hs, hm⟩ := sorted_and_mem ranges h
    rw [List.pairwise_cons] at hs
    rw [covers_coalesce ((hm (a, b)).mp (List.mem_cons_self ..)).2 hs.1 hs.2
      fun r hr ↦ ((hm r).mp (List.mem_cons_of_mem _ hr)).2]
    constructor
    · rintro (h | ⟨r, hr, h⟩)
      · exact ⟨(a, b), ((hm _).mp (List.mem_cons_self ..)).1, h⟩
      · exact ⟨r, ((hm r).mp (List.mem_cons_of_mem _ hr)).1, h⟩
    · rintro ⟨r, hr, h⟩
      rcases List.mem_cons.mp ((hm r).mpr ⟨hr, by omega⟩) with rfl | hr
      · exact Or.inl h
      · exact Or.inr ⟨r, hr, h⟩

def ofRanges (ranges : List (Nat × Nat)) : CodePoints where
  ranges := (ordered ranges).toArray
  ascending := ascending_ordered ranges

theorem mem_ofRanges {ranges : List (Nat × Nat)} {n : Nat} :
    n ∈ ofRanges ranges ↔ Covers ranges n :=
  covers_ordered ranges n

def empty : CodePoints where
  ranges := #[]

def singleton (n : Nat) : CodePoints where
  ranges := #[(n, n)]
  ascending := by simp [Ascending]

def union (s t : CodePoints) : CodePoints :=
  ofRanges (s.ranges.toList ++ t.ranges.toList)

def unions (sets : List CodePoints) : CodePoints :=
  ofRanges (sets.flatMap (·.ranges.toList))

@[simp] theorem not_mem_empty (n : Nat) : ¬ n ∈ empty :=
  not_covers_nil n

@[simp] theorem mem_union {s t : CodePoints} {n : Nat} : n ∈ s.union t ↔ n ∈ s ∨ n ∈ t := by
  rw [union, mem_ofRanges, mem_def, mem_def]
  simp only [Covers, List.mem_append, or_and_right, exists_or]

theorem mem_unions {sets : List CodePoints} {n : Nat} :
    n ∈ unions sets ↔ ∃ s ∈ sets, n ∈ s := by
  rw [unions, mem_ofRanges]
  simp only [Covers, List.mem_flatMap]
  constructor
  · rintro ⟨r, ⟨s, hs, hr⟩, h⟩
    exact ⟨s, hs, r, hr, h⟩
  · rintro ⟨s, hs, r, hr, h⟩
    exact ⟨r, ⟨s, hs, hr⟩, h⟩

/-! ## Complement -/

def last : Nat :=
  0x10FFFF

/-- The ranges from `low` on that are left out by ranges in ascending order. -/
def gaps (low : Nat) : List (Nat × Nat) → List (Nat × Nat)
  | [] => if low ≤ last then [(low, last)] else []
  | (a, b) :: rest => if low < a then (low, a - 1) :: gaps (b + 1) rest else gaps (b + 1) rest

theorem gaps_props {low : Nat} {ranges : List (Nat × Nat)} (h : Ascending ranges) :
    Ascending (gaps low ranges) ∧
      ∀ r ∈ gaps low ranges, low ≤ r.1 ∨ ∃ s ∈ ranges, s.2 < r.1 := by
  induction ranges generalizing low with
  | nil =>
      unfold gaps
      split
      · simp only [Ascending, List.pairwise_cons, List.not_mem_nil, false_implies, implies_true,
          List.Pairwise.nil, and_self, List.mem_singleton, forall_eq, true_and]
        omega
      · simp [Ascending]
  | cons r ranges ih =>
      obtain ⟨a, b⟩ := r
      obtain ⟨hpair, hne⟩ := h
      rw [List.pairwise_cons] at hpair
      have hab := hne (a, b) (List.mem_cons_self ..)
      obtain ⟨⟨hgap, hgne⟩, hge⟩ := @ih (b + 1)
        ⟨hpair.2, fun r hr ↦ hne r (List.mem_cons_of_mem _ hr)⟩
      have hafter : ∀ s ∈ gaps (b + 1) ranges, b < s.1 := by
        intro s hs
        rcases hge s hs with h | ⟨t, ht, h⟩
        · omega
        · have h₁ := hpair.1 t ht
          have h₂ := hne t (List.mem_cons_of_mem _ ht)
          simp only at h₁
          omega
      simp only [gaps]
      split
      · refine ⟨⟨List.pairwise_cons.mpr ⟨fun s hs ↦ ?_, hgap⟩, ?_⟩, ?_⟩
        · have := hafter s hs
          simp only at hab ⊢
          omega
        · intro s hs
          rcases List.mem_cons.mp hs with rfl | hs
          · simp only
            omega
          · exact hgne s hs
        · intro s hs
          rcases List.mem_cons.mp hs with rfl | hs
          · exact Or.inl (Nat.le_refl _)
          · exact Or.inr ⟨(a, b), List.mem_cons_self .., hafter s hs⟩
      · exact ⟨⟨hgap, hgne⟩, fun s hs ↦ Or.inr ⟨(a, b), List.mem_cons_self .., hafter s hs⟩⟩

theorem covers_gaps {low : Nat} {ranges : List (Nat × Nat)} (h : Ascending ranges)
    (hlow : ∀ r ∈ ranges, low ≤ r.1) {n : Nat} (hn : n ≤ last) :
    Covers (gaps low ranges) n ↔ low ≤ n ∧ ¬ Covers ranges n := by
  induction ranges generalizing low with
  | nil =>
      unfold gaps
      split
      · simp [Covers]
        omega
      · simp [Covers]
        omega
  | cons r ranges ih =>
      obtain ⟨a, b⟩ := r
      obtain ⟨hpair, hne⟩ := h
      rw [List.pairwise_cons] at hpair
      have hab := hne (a, b) (List.mem_cons_self ..)
      have ha := hlow (a, b) (List.mem_cons_self ..)
      have hrest := @ih (b + 1) ⟨hpair.2, fun r hr ↦ hne r (List.mem_cons_of_mem _ hr)⟩
        fun r hr ↦ Nat.le_of_lt (hpair.1 r hr)
      have hbelow : Covers ranges n → b < n := by
        rintro ⟨r, hr, h₁, -⟩
        have := hpair.1 r hr
        simp only at this
        omega
      simp only at hab ha
      simp only [gaps]
      split
      · rw [covers_cons, covers_cons, hrest]
        simp only
        constructor
        · rintro (h | h)
          · exact ⟨h.1, fun hc ↦ hc.elim (by omega) fun hc ↦ by have := hbelow hc; omega⟩
          · exact ⟨by omega, fun hc ↦ hc.elim (by omega) h.2⟩
        · rintro ⟨h₁, h₂⟩
          by_cases hb : b < n
          · exact Or.inr ⟨hb, fun hc ↦ h₂ (Or.inr hc)⟩
          · exact Or.inl ⟨h₁, by
              have : ¬ (a ≤ n ∧ n ≤ b) := fun hc ↦ h₂ (Or.inl hc)
              omega⟩
      · rw [covers_cons, hrest]
        simp only
        constructor
        · rintro ⟨h₁, h₂⟩
          exact ⟨by omega, fun hc ↦ hc.elim (by omega) h₂⟩
        · rintro ⟨h₁, h₂⟩
          have : ¬ (a ≤ n ∧ n ≤ b) := fun hc ↦ h₂ (Or.inl hc)
          exact ⟨by omega, fun hc ↦ h₂ (Or.inr hc)⟩

def compl (s : CodePoints) : CodePoints where
  ranges := (gaps 0 s.ranges.toList).toArray
  ascending := (gaps_props s.ascending).1

def inter (s t : CodePoints) : CodePoints :=
  (s.compl.union t.compl).compl

def diff (s t : CodePoints) : CodePoints :=
  (s.compl.union t).compl

def symmDiff (s t : CodePoints) : CodePoints :=
  (s.diff t).union (t.diff s)

theorem mem_compl {s : CodePoints} {n : Nat} (hn : n ≤ last) : n ∈ s.compl ↔ ¬ n ∈ s := by
  rw [mem_def, mem_def, compl, covers_gaps s.ascending (fun _ _ ↦ Nat.zero_le _) hn]
  simp

theorem mem_inter {s t : CodePoints} {n : Nat} (hn : n ≤ last) :
    n ∈ s.inter t ↔ n ∈ s ∧ n ∈ t := by
  rw [inter, mem_compl hn, mem_union, mem_compl hn, mem_compl hn, not_or, Decidable.not_not,
    Decidable.not_not]

theorem mem_diff {s t : CodePoints} {n : Nat} (hn : n ≤ last) :
    n ∈ s.diff t ↔ n ∈ s ∧ ¬ n ∈ t := by
  rw [diff, mem_compl hn, mem_union, mem_compl hn, not_or, Decidable.not_not]

theorem mem_symmDiff {s t : CodePoints} {n : Nat} (hn : n ≤ last) :
    n ∈ s.symmDiff t ↔ (n ∈ s ∧ ¬ n ∈ t) ∨ (n ∈ t ∧ ¬ n ∈ s) := by
  rw [symmDiff, mem_union, mem_diff hn, mem_diff hn]

/-! ## Characters

Surrogates are code points but no characters. They can lie inside a range between two characters,
but no range of a set of characters begins or ends with one. -/

def isSurrogate (n : Nat) : Bool :=
  0xD800 ≤ n && n ≤ 0xDFFF

/-- The same characters, in ranges that begin and end with characters. -/
def chars (s : CodePoints) : CodePoints :=
  ofRanges (s.ranges.toList.map fun (a, b) ↦
    (if isSurrogate a then 0xE000 else a, if isSurrogate b then 0xD7FF else b))

/-- The characters between the ranges. Where one range ends with the last character before the
surrogates and the next one begins with the first character after them, nothing lies between, and
these two characters stand for the gap. -/
def otherChars (s : CodePoints) : CodePoints :=
  ofRanges (s.compl.ranges.toList.map fun (a, b) ↦
    let first := if isSurrogate a then 0xE000 else a
    let last := if isSurrogate b then 0xD7FF else b
    (min first last, max first last))

/-- Members are kept if ranges are changed in such a way that each still covers the same of them. -/
theorem covers_map {change : Nat × Nat → Nat × Nat} {ranges : List (Nat × Nat)} {n : Nat}
    (h : ∀ r ∈ ranges, ((change r).1 ≤ n ∧ n ≤ (change r).2) ↔ (r.1 ≤ n ∧ n ≤ r.2)) :
    Covers (ranges.map change) n ↔ Covers ranges n := by
  constructor
  · rintro ⟨s, hs, hn⟩
    obtain ⟨r, hr, rfl⟩ := List.mem_map.mp hs
    exact ⟨r, hr, (h r hr).mp hn⟩
  · rintro ⟨r, hr, hn⟩
    exact ⟨change r, List.mem_map_of_mem hr, (h r hr).mpr hn⟩

theorem mem_chars {s : CodePoints} {n : Nat} (hn : isSurrogate n = false) :
    n ∈ s.chars ↔ n ∈ s := by
  rw [chars, mem_ofRanges, mem_def]
  apply covers_map
  rintro ⟨a, b⟩ -
  simp only [isSurrogate, Bool.and_eq_false_iff, decide_eq_false_iff_not, Bool.and_eq_true,
    decide_eq_true_eq] at hn ⊢
  split <;> split <;> omega

theorem mem_otherChars {s : CodePoints} {n : Nat} (hn : n ≤ last)
    (hbefore : n < 0xD7FF ∨ 0xE000 < n) : n ∈ s.otherChars ↔ ¬ n ∈ s := by
  rw [← mem_compl hn, otherChars, mem_ofRanges, mem_def]
  apply covers_map
  rintro ⟨a, b⟩ hr
  have hab := s.compl.ascending.2 _ hr
  simp only [isSurrogate, Bool.and_eq_true, decide_eq_true_eq] at hab ⊢
  split <;> split <;> omega

/-! ## Tables -/

def hexDigit? (c : Char) : Option Nat :=
  if '0' ≤ c ∧ c ≤ '9' then some (c.toNat - 48)
  else if 'a' ≤ c ∧ c ≤ 'f' then some (c.toNat - 87)
  else if 'A' ≤ c ∧ c ≤ 'F' then some (c.toNat - 55)
  else none

/-- The number that hexadecimal digits spell; other characters are passed over. -/
def readHex (cs : List Char) : Nat :=
  cs.foldl (fun n c ↦ match hexDigit? c with | some d => n * 16 + d | none => n) 0

def words (text : String) : List (List Char) :=
  ((Text.fields '\n' text.toList).flatMap (Text.fields ' ')).filter (!·.isEmpty)

/-- A table entry: a number or a range. -/
def readRange (cs : List Char) : Nat × Nat :=
  match Text.fields '-' cs with
  | [a, b] => (readHex a, readHex b)
  | _ => (readHex cs, readHex cs)

def ofTable (table : String) : CodePoints :=
  ofRanges ((words table).map readRange)

end CodePoints

end ColumnStore
