import ColumnStore.Proofs.FilterEquivalence
import ColumnStore.Proofs.FilterRoundTrip

/-!
# Comparing beginnings

Octets that begin with `p` come right after those that are less than `p`, so a comparison of beginnings
divides all octets into consecutive ranges as a comparison in full does (`Comparator.Divides`). By
`compare_take` it only differs from that in what begins with `p`.
-/

namespace ColumnStore

namespace Bytes

theorem compare_eq_lt_iff {a b : Bytes} : compare a b = .lt ↔ a < b := by
  induction a generalizing b with
  | nil => cases b <;> simp
  | cons x xs ih =>
      cases b with
      | nil => simp
      | cons y ys =>
          rw [List.compare_cons_cons, List.cons_lt_cons_iff, Ordering.then_eq_lt, ih,
            Std.compare_eq_lt, Std.LawfulEqCmp.compare_eq_iff_eq]

theorem compare_eq_gt_iff {a b : Bytes} : compare a b = .gt ↔ b < a := by
  rw [Std.OrientedCmp.gt_iff_lt, compare_eq_lt_iff]

theorem compare_take (p a : Bytes) :
    compare (a.take p.length) p = if p <+: a then .eq else compare a p := by
  induction p generalizing a with
  | nil => simp
  | cons x xs ih =>
      cases a with
      | nil => simp
      | cons y ys =>
          simp only [List.length_cons, List.take_succ_cons, List.compare_cons_cons, ih,
            List.cons_prefix_cons]
          by_cases hhead : x = y
          · subst hhead
            by_cases htail : xs <+: ys <;> simp [htail]
          · have hne : compare y x ≠ .eq := by
              rwa [ne_eq, Std.LawfulEqCmp.compare_eq_iff_eq, eq_comm]
            cases hcompare : compare y x with
            | lt => simp [hhead]
            | eq => exact absurd hcompare hne
            | gt => simp [hhead]

theorem not_lt_of_isBeginning {p a : Bytes} (h : p <+: a) : ¬a < p := by
  obtain ⟨rest, rfl⟩ := h
  induction p with
  | nil => exact List.not_lt_nil _
  | cons x xs ih =>
      rw [List.cons_append, List.cons_lt_cons_iff]
      rintro (hlt | ⟨-, hlt⟩)
      · exact UInt8.lt_irrefl x hlt
      · exact ih hlt

/-- Beginnings of the same length are in order only if the octets are. -/
theorem lt_of_take_lt {a b : Bytes} {n : Nat} (h : a.take n < b.take n) : a < b := by
  induction n generalizing a b with
  | zero => exact absurd h (List.lt_irrefl [])
  | succ n ih =>
      match a, b with
      | _, [] => exact absurd h (by simp)
      | [], y :: ys => exact List.nil_lt_cons y ys
      | x :: xs, y :: ys =>
          rw [List.take_succ_cons, List.take_succ_cons, List.cons_lt_cons_iff] at h
          rw [List.cons_lt_cons_iff]
          exact h.imp_right (And.imp_right ih)

/-- Octets that compare differently with `p` are in the order of the outcomes. -/
theorem lt_of_compare_lt {a b p : Bytes} (h : compare (compare a p) (compare b p) = .lt) : a < b := by
  rw [← compare_eq_lt_iff]
  cases ha : compare a p <;> cases hb : compare b p <;> rw [ha, hb] at h
  case lt.eq => exact Std.TransCmp.lt_of_lt_of_eq ha (Std.OrientedCmp.eq_symm hb)
  case lt.gt => exact Std.TransCmp.lt_trans ha (Std.OrientedCmp.gt_iff_lt.mp hb)
  case eq.gt => exact Std.TransCmp.lt_of_eq_of_lt ha (Std.OrientedCmp.gt_iff_lt.mp hb)
  all_goals exact absurd h (by decide)

end Bytes

theorem CompareOp.outcome_eq {o o' : Ordering} (h : compare o o' ≠ .lt)
    (h' : compare o' o ≠ .lt) : o = o' := by
  revert h h'
  cases o <;> cases o' <;> decide

/-- The operator for one outcome of a comparison only. -/
def CompareOp.only : Ordering → CompareOp
  | .lt => less
  | .eq => equal
  | .gt => greater

theorem CompareOp.accepts_only_iff {o o' : Ordering} : (only o).accepts o' = true ↔ o' = o := by
  cases o <;> cases o' <;> decide

namespace Comparator

/-- Of all octets those with the same outcome lie next to each other, in the order of the outcomes. The
other operators ask for the opposite of an outcome. -/
structure Divides (c : Comparator) : Prop where
  one : ∀ a, ∃! o, c.passes (.only o) a = true
  ascending : ∀ o o' a b, compare o o' = .lt → c.passes (.only o) a = true →
    c.passes (.only o') b = true → a < b
  convex : ∀ o a x b, a < x → x < b → c.passes (.only o) a = true → c.passes (.only o) b = true →
    c.passes (.only o) x = true
  negated : ∀ op a, c.passes op.negate a = !c.passes op a

theorem Divides.of_outcome {c : Comparator} {outcome : Bytes → Ordering}
    (hpasses : ∀ op a, c.passes op a = op.accepts (outcome a))
    (hascending : ∀ a b, compare (outcome a) (outcome b) = .lt → a < b) : c.Divides := by
  have honly : ∀ o a, c.passes (.only o) a = true ↔ outcome a = o := by
    intro o a
    rw [hpasses, CompareOp.accepts_only_iff]
  constructor
  · intro a
    exact ⟨outcome a, (honly _ a).mpr rfl, fun o ho ↦ ((honly o a).mp ho).symm⟩
  · intro o o' a b hlt ha hb
    apply hascending
    rwa [(honly o a).mp ha, (honly o' b).mp hb]
  · intro o a x b hax hxb ha hb
    rw [honly] at ha hb ⊢
    have hbelow : compare (outcome x) (outcome a) ≠ .lt := fun hlt ↦
      List.lt_asymm hax (hascending x a hlt)
    have habove : compare (outcome b) (outcome x) ≠ .lt := fun hlt ↦
      List.lt_asymm hxb (hascending b x hlt)
    rw [ha] at hbelow
    rw [hb] at habove
    exact CompareOp.outcome_eq hbelow habove
  · intro op a
    rw [hpasses, hpasses, CompareOp.accepts_negate]

theorem divides_binary (p : Bytes) : (binary p).Divides :=
  .of_outcome (fun _ _ ↦ rfl) fun _ _ ↦ Bytes.lt_of_compare_lt

theorem divides_binaryPrefix (p : Bytes) : (binaryPrefix p).Divides :=
  .of_outcome (fun _ _ ↦ rfl) fun _ _ h ↦ Bytes.lt_of_take_lt (Bytes.lt_of_compare_lt h)

variable (p a : Bytes)

theorem passes_binaryPrefix (op : CompareOp) :
    (binaryPrefix p).passes op a = if p <+: a then op.accepts .eq else (binary p).passes op a := by
  simp only [passes, Bytes.compare_take, apply_ite op.accepts]

theorem passes_equal_iff : (binaryPrefix p).passes .equal a = true ↔ p <+: a := by
  rw [passes_binaryPrefix]
  split
  · next h => exact iff_of_true rfl h
  · next h =>
    rw [passes, CompareOp.accepts, beq_iff_eq, Std.LawfulEqCmp.compare_eq_iff_eq]
    exact iff_of_false (fun heq ↦ h (heq ▸ List.prefix_refl a)) h

theorem passes_greater_iff :
    (binaryPrefix p).passes .greater a = true ↔ p < a ∧ ¬p <+: a := by
  rw [passes_binaryPrefix]
  split
  · next h => exact iff_of_false (by decide) (fun hgreater ↦ hgreater.2 h)
  · next h =>
    rw [passes, CompareOp.accepts, beq_iff_eq, Bytes.compare_eq_gt_iff]
    exact (and_iff_left h).symm

theorem passes_binary_less_iff : (binary p).passes .less a = true ↔ a < p := by
  rw [passes, CompareOp.accepts, beq_iff_eq, Bytes.compare_eq_lt_iff]

theorem passes_less_iff : (binaryPrefix p).passes .less a = true ↔ a < p := by
  rw [passes_binaryPrefix]
  split
  · next h => exact iff_of_false (by decide) (Bytes.not_lt_of_isBeginning h)
  · exact passes_binary_less_iff p a

theorem passes_lessOrEqual_iff :
    (binaryPrefix p).passes .lessOrEqual a = true ↔ a < p ∨ p <+: a := by
  have hopposite : (binaryPrefix p).passes .lessOrEqual a = !(binaryPrefix p).passes .greater a :=
    (divides_binaryPrefix p).negated .greater a
  rw [hopposite, Bool.not_eq_true', Bool.eq_false_iff, ne_eq, passes_greater_iff, not_and_not_right,
    ← Bytes.compare_eq_gt_iff, ← Bytes.compare_eq_lt_iff]
  cases hcompare : compare a p with
  | lt => simp
  | eq => simp [Std.LawfulEqCmp.compare_eq_iff_eq.mp hcompare]
  | gt => simp

theorem passes_less_eq : (binaryPrefix p).passes .less a = (binary p).passes .less a := by
  rw [Bool.eq_iff_iff, passes_less_iff, passes_binary_less_iff]

theorem passes_greaterOrEqual_eq :
    (binaryPrefix p).passes .greaterOrEqual a = (binary p).passes .greaterOrEqual a := by
  have hbinary := (divides_binary p).negated .less a
  rw [← passes_less_eq] at hbinary
  exact ((divides_binaryPrefix p).negated .less a).trans hbinary.symm

end Comparator

namespace Filter

theorem alike_rowPrefix (p : Bytes) : Alike (rowPrefix p) (compare .row .equal (.binaryPrefix p)) := by
  refine ⟨fun row place cell ↦ ?_, rfl⟩
  rw [keeps, keeps, Bool.eq_iff_iff, List.isPrefixOf_iff_prefix, Comparator.passes_equal_iff]
  rfl

theorem alike_columnPrefix (p : Bytes) :
    Alike (columnPrefix p) (compare .qualifier .equal (.binaryPrefix p)) := by
  refine ⟨fun row place cell ↦ ?_, rfl⟩
  rw [keeps, keeps, Bool.eq_iff_iff, List.isPrefixOf_iff_prefix, Comparator.passes_equal_iff]
  rfl

/-- Two expressions are read as filters that return the same cells of every row. -/
def Interchangeable (e e' : String) : Prop :=
  ∃ f g, parse e = .ok f ∧ parse e' = .ok g ∧ ∀ row, f.apply row = g.apply row

/-- The tokens of a comparison with the octets of a text, as far as they go. -/
def beginsCall (field : FilterField) (beginning : String) : List Token :=
  .word field.filterName :: parenthesized [.op .equal, .text (comparatorText "binaryprefix" beginning)]

theorem interchangeable_of_layout {name beginning e e' : String} {field : FilterField} {f : Filter}
    (hcall : IsCall name [.text beginning] f)
    (halike : Alike f (compare field .equal (.binaryPrefix (Bytes.ofString beginning))))
    (he : Layout (.word name :: parenthesized [.text beginning]) e.toList)
    (he' : Layout (beginsCall field beginning) e'.toList) : Interchangeable e e' := by
  have hcompare : IsCall field.filterName _ (compare field .equal _) :=
    .compare field (.binaryPrefix beginning)
  exact ⟨_, _, hcall.parse_eq he, hcompare.parse_eq he', halike.apply_eq⟩

open Comparator in
/-- A comparator for beginnings and one for whole values agree on what is smaller; they differ in that
every extension counts as equal to its beginning. Either of them divides the values in three, and the
filters for beginnings of rows and columns are comparisons for equality, also as expressions. -/
theorem prefix_comparison :
    (∀ p a, (binaryPrefix p).passes .less a = (binary p).passes .less a ∧
      (binaryPrefix p).passes .greaterOrEqual a = (binary p).passes .greaterOrEqual a) ∧
    (∀ p a, ((binaryPrefix p).passes .equal a = true ↔ p <+: a) ∧
      ((binaryPrefix p).passes .greater a = true ↔ p < a ∧ ¬p <+: a) ∧
      ((binaryPrefix p).passes .lessOrEqual a = true ↔ a < p ∨ p <+: a)) ∧
    (∀ p, (binary p).Divides ∧ (binaryPrefix p).Divides) ∧
    (∀ p row, (rowPrefix p).apply row = (compare .row .equal (.binaryPrefix p)).apply row ∧
      (columnPrefix p).apply row = (compare .qualifier .equal (.binaryPrefix p)).apply row) ∧
    (∀ s e e' : String, Layout (.word "PrefixFilter" :: parenthesized [.text s]) e.toList →
      Layout (beginsCall .row s) e'.toList → Interchangeable e e') ∧
    ∀ s e e' : String, Layout (.word "ColumnPrefixFilter" :: parenthesized [.text s]) e.toList →
      Layout (beginsCall .qualifier s) e'.toList → Interchangeable e e' := by
  refine ⟨fun p a ↦ ⟨passes_less_eq p a, passes_greaterOrEqual_eq p a⟩,
    fun p a ↦ ⟨passes_equal_iff p a, passes_greater_iff p a, passes_lessOrEqual_iff p a⟩,
    fun p ↦ ⟨divides_binary p, divides_binaryPrefix p⟩,
    fun p row ↦ ⟨(alike_rowPrefix p).apply_eq row, (alike_columnPrefix p).apply_eq row⟩, ?_, ?_⟩
  · intro s e e' he he'
    exact interchangeable_of_layout (.rowPrefix s) (alike_rowPrefix _) he he'
  · intro s e e' he he'
    exact interchangeable_of_layout (.columnPrefix s) (alike_columnPrefix _) he he'

theorem prefix_comparison_sample :
    Layout (.word "PrefixFilter" :: parenthesized [.text "u"]) " PrefixFilter ( 'u' )".toList ∧
      Layout (beginsCall .row "u") " RowFilter ( = , 'binaryprefix:u' )".toList ∧
      Interchangeable " PrefixFilter ( 'u' )" " RowFilter ( = , 'binaryprefix:u' )" ∧
      Interchangeable " ColumnPrefixFilter ( 'u' )" " QualifierFilter ( = , 'binaryprefix:u' )" := by
  obtain ⟨-, -, -, -, hrow, hqualifier⟩ := prefix_comparison
  have hcall := layout_spaced (.word "PrefixFilter" :: parenthesized [.text "u"])
  have hcompare := layout_spaced (beginsCall .row "u")
  have hcolumnCall := layout_spaced (.word "ColumnPrefixFilter" :: parenthesized [.text "u"])
  have hcolumnCompare := layout_spaced (beginsCall .qualifier "u")
  refine ⟨hcall, hcompare, hrow "u" _ _ hcall hcompare, ?_⟩
  exact hqualifier "u" _ _ hcolumnCall hcolumnCompare

end Filter

end ColumnStore
