import ColumnStore.Scan
import Mathlib.Data.List.DropRight

/-!
# Selected families and columns

What a scan reads of a family is decided by the last selectors of that family: those after the last one
that names it as a whole (`get?_build`). How the selectors of different families are mixed makes no
difference, apart from whether there are any.
-/

namespace ColumnStore

namespace ColumnSelector

/-- The selectors of one family. -/
def own (family : Bytes) (selectors : List ColumnSelector) : List ColumnSelector :=
  selectors.filter fun selector ↦ Bytes.ofString selector.family = family

def namesColumn (selector : ColumnSelector) : Bool :=
  selector.qualifier.isSome

/-- The columns that are named after the last selector of a whole family, or all that are named if there
is none. -/
def lastColumns (selectors : List ColumnSelector) : List Bytes :=
  (selectors.rtakeWhile namesColumn).filterMap fun selector ↦ selector.qualifier.map Bytes.ofString

variable {family : Bytes} {selector : ColumnSelector} (selectors : List ColumnSelector)

theorem own_cons_of_eq (h : Bytes.ofString selector.family = family) :
    own family (selector :: selectors) = selector :: own family selectors :=
  List.filter_cons_of_pos (decide_eq_true h)

theorem own_cons_of_ne (h : Bytes.ofString selector.family ≠ family) :
    own family (selector :: selectors) = own family selectors :=
  List.filter_cons_of_neg (by simpa using h)

theorem own_own : own family (own family selectors) = own family selectors := by
  rw [own, own, List.filter_filter]
  simp

/-- Neighbours of different families may change places. -/
theorem own_exchange {a b : ColumnSelector} (h : a.family ≠ b.family)
    (before after : List ColumnSelector) (family : Bytes) :
    own family (before ++ a :: b :: after) = own family (before ++ b :: a :: after) := by
  have hne : ¬(Bytes.ofString a.family = family ∧ Bytes.ofString b.family = family) := by
    rintro ⟨ha, hb⟩
    exact h (Bytes.ofString_injective (ha.trans hb.symm))
  have hpair : own family (a :: b :: after) = own family (b :: a :: after) := by
    by_cases ha : Bytes.ofString a.family = family
    · have hb : Bytes.ofString b.family ≠ family := fun hb ↦ hne ⟨ha, hb⟩
      rw [own_cons_of_eq _ ha, own_cons_of_ne _ hb, own_cons_of_ne _ hb, own_cons_of_eq _ ha]
    · by_cases hb : Bytes.ofString b.family = family
      · rw [own_cons_of_ne _ ha, own_cons_of_eq _ hb, own_cons_of_eq _ hb, own_cons_of_ne _ ha]
      · rw [own_cons_of_ne _ ha, own_cons_of_ne _ hb, own_cons_of_ne _ hb, own_cons_of_ne _ ha]
  rw [own, List.filter_append, own, List.filter_append]
  exact congrArg (before.filter _ ++ ·) hpair

theorem lastColumns_concat_column {qualifier : String} (h : selector.qualifier = some qualifier) :
    lastColumns (selectors ++ [selector]) = lastColumns selectors ++ [Bytes.ofString qualifier] := by
  have hcolumn : selector.namesColumn := by rw [namesColumn, h, Option.isSome_some]
  rw [lastColumns, List.rtakeWhile_concat_pos _ _ _ hcolumn, List.filterMap_append]
  simp [h, lastColumns]

theorem lastColumns_concat_family (h : selector.qualifier = none) :
    lastColumns (selectors ++ [selector]) = [] := by
  have hfamily : ¬selector.namesColumn := by simp [namesColumn, h]
  rw [lastColumns, List.rtakeWhile_concat_neg _ _ _ hfamily, List.filterMap_nil]

end ColumnSelector

open ColumnSelector

/-! ## One family -/

namespace FamilySelection

/-- What one more selector of a family makes of what is read of it. -/
def narrow (selection : Option FamilySelection) (selector : ColumnSelector) :
    Option FamilySelection :=
  match selector.qualifier with
  | some qualifier => some (addColumn (Bytes.ofString qualifier) selection)
  | none => some all

theorem narrow_column (selection : Option FamilySelection) {selector : ColumnSelector}
    {qualifier : String} (h : selector.qualifier = some qualifier) :
    narrow selection selector = some (addColumn (Bytes.ofString qualifier) selection) := by
  rw [narrow, h]

theorem narrow_family (selection : Option FamilySelection) {selector : ColumnSelector}
    (h : selector.qualifier = none) : narrow selection selector = some all := by
  rw [narrow, h]

/-- The selection that the selectors of one family stand for. -/
def ofSelectors (selectors : List ColumnSelector) : Option FamilySelection :=
  if selectors = [] then none
  else if lastColumns selectors = [] then some all
  else some (columns ((lastColumns selectors).foldl OrderedSet.add ∅))

theorem ofSelectors_concat (selectors : List ColumnSelector) (selector : ColumnSelector) :
    ofSelectors (selectors ++ [selector]) = narrow (ofSelectors selectors) selector := by
  have hne : selectors ++ [selector] ≠ [] := List.concat_ne_nil selector selectors
  rw [ofSelectors, if_neg hne]
  cases hqualifier : selector.qualifier with
  | none => rw [lastColumns_concat_family _ hqualifier, if_pos rfl, narrow_family _ hqualifier]
  | some qualifier =>
      rw [lastColumns_concat_column _ hqualifier, if_neg (List.concat_ne_nil _ _), List.foldl_concat,
        narrow_column _ hqualifier, ofSelectors]
      split
      · next hnil =>
        rw [hnil]
        rfl
      · split
        · next hnil =>
          rw [hnil]
          rfl
        · rfl

theorem foldl_narrow (selectors : List ColumnSelector) :
    selectors.foldl narrow none = ofSelectors selectors := by
  induction selectors using List.reverseRecOn with
  | nil => rfl
  | append_singleton selectors selector ih => rw [List.foldl_concat, ih, ofSelectors_concat]

theorem ofSelectors_eq_none_iff (selectors : List ColumnSelector) :
    ofSelectors selectors = none ↔ selectors = [] := by
  unfold ofSelectors
  split
  · next hnil => simp [hnil]
  · next hne => split <;> simp [hne]

theorem admits_ofSelectors (selectors : List ColumnSelector) (qualifier : Bytes) :
    (ofSelectors selectors).any (·.admits qualifier) ↔ selectors ≠ [] ∧
      (lastColumns selectors = [] ∨ qualifier ∈ lastColumns selectors) := by
  unfold ofSelectors
  split
  · next hnil => simp [hnil]
  · next hne =>
    split
    · next hlast => simp [hne, hlast, admits]
    · next hlast =>
      rw [Option.any_some, admits, OrderedSet.contains_foldl_add]
      simp [hne, hlast, OrderedMap.contains]

end FamilySelection

/-! ## All families -/

namespace Scan

variable (selectors : List ColumnSelector) (filter : Option Filter) (minTime : Timestamp)

theorem get?_select (s : Scan) (selector : ColumnSelector) (family : Bytes) :
    (s.select selector).families.get? family =
      if Bytes.ofString selector.family = family then
        FamilySelection.narrow (s.families.get? family) selector
      else s.families.get? family := by
  unfold select
  split
  · next qualifier h =>
    rw [addColumn, OrderedMap.get?_insert, FamilySelection.narrow_column _ h]
    by_cases hfamily : Bytes.ofString selector.family = family
    · rw [if_pos hfamily, if_pos hfamily.symm, hfamily]
    · rw [if_neg hfamily, if_neg (Ne.symm hfamily)]
  · next h =>
    rw [addFamily, OrderedMap.get?_insert, FamilySelection.narrow_family _ h]
    by_cases hfamily : Bytes.ofString selector.family = family
    · rw [if_pos hfamily, if_pos hfamily.symm]
    · rw [if_neg hfamily, if_neg (Ne.symm hfamily)]

theorem get?_foldl_select (s : Scan) (family : Bytes) :
    (selectors.foldl select s).families.get? family =
      (own family selectors).foldl FamilySelection.narrow (s.families.get? family) := by
  induction selectors generalizing s with
  | nil => rfl
  | cons selector selectors ih =>
      rw [List.foldl_cons, ih, get?_select]
      split
      · next h => rw [own_cons_of_eq _ h, List.foldl_cons]
      · next h => rw [own_cons_of_ne _ h]

/-- What a scan holds for a family. -/
theorem get?_build (family : Bytes) :
    (build selectors filter minTime).families.get? family =
      FamilySelection.ofSelectors (own family selectors) := by
  rw [build, get?_foldl_select, ← FamilySelection.foldl_narrow]
  rfl

theorem isEmpty_build : (build selectors filter minTime).families.isEmpty ↔ selectors = [] := by
  constructor
  · intro hempty
    cases selectors with
    | nil => rfl
    | cons selector selectors =>
        have hnone := OrderedMap.get?_eq_none_of_isEmpty hempty (Bytes.ofString selector.family)
        rw [get?_build, FamilySelection.ofSelectors_eq_none_iff, own_cons_of_eq _ rfl] at hnone
        cases hnone
  · rintro rfl
    rfl

theorem selects_build_iff (family qualifier : Bytes) :
    (build selectors filter minTime).selects family qualifier ↔ selectors = [] ∨
      own family selectors ≠ [] ∧ (lastColumns (own family selectors) = [] ∨
        qualifier ∈ lastColumns (own family selectors)) := by
  rw [selects, Bool.or_eq_true, isEmpty_build, get?_build, FamilySelection.admits_ofSelectors]

/-- Selectors have no effect on the range of timestamps and on the filter, which have none on them. -/
theorem foldl_select_with (s : Scan) (timeRange : TimeRange) (filter : Option Filter) :
    selectors.foldl select { s with timeRange, filter } =
      { selectors.foldl select s with timeRange, filter } := by
  induction selectors generalizing s with
  | nil => rfl
  | cons selector selectors ih =>
      have hselect : select { s with timeRange, filter } selector =
          { s.select selector with timeRange, filter } := by
        unfold select
        split <;> rfl
      rw [List.foldl_cons, List.foldl_cons, hselect, ih]

theorem build_eq (filter' : Option Filter) (minTime' : Timestamp) :
    build selectors filter minTime =
      { build selectors filter' minTime' with timeRange := .startingAt minTime, filter } :=
  foldl_select_with selectors { timeRange := .startingAt minTime', filter := filter' } _ filter

theorem timeRange_build : (build selectors filter minTime).timeRange = .startingAt minTime := by
  rw [build_eq selectors filter minTime filter minTime]

theorem filter_build : (build selectors filter minTime).filter = filter := by
  rw [build_eq selectors filter minTime filter minTime]

/-- Selectors that are the same family by family make the same scan. -/
theorem build_congr {selectors selectors' : List ColumnSelector}
    (h : ∀ family, own family selectors = own family selectors') :
    build selectors filter minTime = build selectors' filter minTime := by
  have hfamilies : (build selectors filter minTime).families =
      (build selectors' filter minTime).families := by
    apply OrderedMap.ext_get?
    intro family
    rw [get?_build, get?_build, h]
  rw [build_eq selectors filter minTime filter minTime,
    build_eq selectors' filter minTime filter minTime]
  simp only [hfamilies]

/-- What is read of a family is decided by its own selectors: by the columns that are named after the last
selector of the whole family, or else by that selector, or else by all columns that are named. The
selectors of other families and the order in which families are mixed have no effect, but that without any
selector everything is read. -/
theorem selects_by_last_selectors (filter : Option Filter) (minTime : Timestamp) :
    (∀ selectors family qualifier, (build selectors filter minTime).selects family qualifier ↔
      selectors = [] ∨ own family selectors ≠ [] ∧ (lastColumns (own family selectors) = [] ∨
        qualifier ∈ lastColumns (own family selectors))) ∧
    (∀ selectors family, (build selectors filter minTime).families.get? family =
      (build (own family selectors) filter minTime).families.get? family) ∧
    (∀ selectors others family qualifier, selectors ≠ [] → others ≠ [] →
      own family selectors = own family others →
        (build selectors filter minTime).selects family qualifier =
          (build others filter minTime).selects family qualifier) ∧
    (∀ a b before after, a.family ≠ b.family →
      build (before ++ a :: b :: after) filter minTime =
        build (before ++ b :: a :: after) filter minTime) := by
  refine ⟨fun selectors ↦ selects_build_iff selectors filter minTime, ?_, ?_, ?_⟩
  · intro selectors family
    rw [get?_build, get?_build, own_own]
  · intro selectors others family qualifier hselectors hothers hown
    rw [Bool.eq_iff_iff, selects_build_iff, selects_build_iff, hown]
    simp only [hselectors, hothers]
  · intro a b before after h
    exact build_congr filter minTime fun family ↦ own_exchange h before after family

/-- Two families by turns, one of them named as a whole between its columns. -/
def sampleSelectors : List ColumnSelector :=
  [⟨"f", some "a"⟩, ⟨"g", some "a"⟩, ⟨"f", none⟩, ⟨"f", some "b"⟩, ⟨"g", none⟩, ⟨"f", some "c"⟩]

theorem selects_sampleSelectors :
    (build sampleSelectors none 0).selects [102] [99] = true ∧
      (build sampleSelectors none 0).selects [102] [97] = false ∧
      (build sampleSelectors none 0).selects [103] [97] =
        (build [⟨"g", some "a"⟩, ⟨"h", none⟩, ⟨"g", none⟩] none 0).selects [103] [97] ∧
      build sampleSelectors none 0 = build
        [⟨"g", some "a"⟩, ⟨"f", some "a"⟩, ⟨"f", none⟩, ⟨"f", some "b"⟩, ⟨"g", none⟩, ⟨"f", some "c"⟩]
        none 0 := by
  obtain ⟨hselects, -, hfamily, hexchange⟩ := selects_by_last_selectors none 0
  have hlast : lastColumns (own [102] sampleSelectors) = [[98], [99]] := by decide +kernel
  have hown : own [102] sampleSelectors ≠ [] := by decide +kernel
  refine ⟨(hselects _ _ _).mpr (.inr ⟨hown, .inr (by simp [hlast])⟩), ?_, ?_, ?_⟩
  · rw [Bool.eq_false_iff, ne_eq, hselects, hlast]
    decide
  · exact hfamily _ _ _ _ (by decide) (by decide) (by decide +kernel)
  · exact hexchange _ _ [] _ (by decide)

end Scan

end ColumnStore
