import ColumnStore.Proofs.FilterGrammar
import Mathlib.Data.List.Basic
import Mathlib.Logic.Relation

/-!
# Filters that do the same

Filters are `Alike` if they keep the same cells of every row and agree on values. Operands of a
connective can be put in any order and nested ones of the same connective in place (`Regroups.alike`).
A filter under `skip` keeps a whole row or nothing of it (`kept_skip`), so it keeps what the operands of
a conjunction keep under `skip` one by one.
-/

namespace ColumnStore

namespace Filter

/-- Two filters keep the same cells of every row, and agree on taking away values. -/
structure Alike (f g : Filter) : Prop where
  keeps : ∀ row place cell, f.keeps row place cell = g.keeps row place cell
  strips : f.stripsValues = g.stripsValues

variable {f g : Filter}

namespace Alike

theorem refl (f : Filter) : Alike f f :=
  ⟨fun _ _ _ ↦ rfl, rfl⟩

theorem symm (h : Alike f g) : Alike g f :=
  ⟨fun row place cell ↦ (h.keeps row place cell).symm, h.strips.symm⟩

theorem trans {k : Filter} (hf : Alike f g) (hg : Alike g k) : Alike f k :=
  ⟨fun row place cell ↦ (hf.keeps row place cell).trans (hg.keeps row place cell),
    hf.strips.trans hg.strips⟩

theorem kept_eq (h : Alike f g) (row : List Cell) : f.kept row = g.kept row := by
  simp only [kept, h.keeps]

theorem apply_eq (h : Alike f g) (row : List Cell) : f.apply row = g.apply row := by
  simp only [apply, h.kept_eq, h.strips]

theorem skip (h : Alike f g) : Alike (.skip f) (.skip g) := by
  refine ⟨fun row place cell ↦ ?_, ?_⟩
  · simp only [keeps_skip, h.keeps]
  · rw [stripsValues_skip, stripsValues_skip, h.strips]

end Alike

/-! ## Whole rows -/

theorem kept_eq_self_iff (f : Filter) (row : List Cell) :
    f.kept row = row ↔ row.zipIdx.all (fun e ↦ f.keeps row e.2 e.1) = true := by
  rw [List.all_eq_true, ← List.length_filter_eq_length_iff]
  constructor
  · intro h
    have hlength := congrArg List.length h
    rwa [kept, List.length_map, ← List.length_zipIdx (l := row) (i := 0)] at hlength
  · intro h
    have hall := List.filter_sublist.eq_of_length h
    rw [kept, hall, List.zipIdx_map_fst]

theorem kept_skip (f : Filter) (row : List Cell) :
    (skip f).kept row = if f.kept row = row then row else [] := by
  rw [kept]
  simp only [keeps_skip]
  by_cases hall : row.zipIdx.all (fun e ↦ f.keeps row e.2 e.1) = true
  · rw [if_pos ((f.kept_eq_self_iff row).mpr hall), hall, List.filter_true, List.zipIdx_map_fst]
  · rw [if_neg (mt (f.kept_eq_self_iff row).mp hall), Bool.eq_false_iff.mpr hall, List.filter_false,
      List.map_nil]

theorem alike_skip_skip (f : Filter) : Alike (.skip (.skip f)) (.skip f) := by
  refine ⟨fun row place cell ↦ ?_, stripsValues_skip _⟩
  rw [Bool.eq_iff_iff]
  simp only [keeps_skip, List.all_eq_true]
  constructor
  · intro h e he
    exact h e he e he
  · intro h _ _
    exact h

theorem stripsValues_map_skip (fs : List Filter) :
    (fs.map Filter.skip).any stripsValues = fs.any stripsValues := by
  rw [List.any_map]
  exact List.any_congr rfl fun f ↦ stripsValues_skip f

theorem alike_skip_and (fs : List Filter) : Alike (.skip (.and fs)) (.and (fs.map .skip)) := by
  constructor
  · intro row place cell
    rw [Bool.eq_iff_iff]
    simp only [keeps_skip, keeps_and, List.all_map, Function.comp_def, List.all_eq_true]
    exact ⟨fun h f hf e he ↦ h e he f hf, fun h e he f hf ↦ h f hf e he⟩
  · rw [stripsValues_skip, stripsValues_and, stripsValues_and, stripsValues_map_skip]

/-- What one operand keeps under `skip` by itself is kept under `skip` of them all, but cells that are
kept by different operands are not kept by one. -/
theorem kept_or_skip_sublist (fs : List Filter) (row : List Cell) :
    ((or (fs.map .skip)).kept row).Sublist ((skip (.or fs)).kept row) := by
  refine List.Sublist.map _ (List.monotone_filter_right _ fun e hkeeps ↦ ?_)
  simp only [keeps_or, List.any_map, Function.comp_def, List.any_eq_true, keeps_skip,
    List.all_eq_true] at hkeeps ⊢
  obtain ⟨f, hf, hall⟩ := hkeeps
  exact fun e he ↦ ⟨f, hf, hall e he⟩

/-! ## Grouping operands -/

/-- What a connective makes of the answers of its operands. -/
def Connective.answer (c : Connective) (answers : Filter → Bool) (fs : List Filter) : Bool :=
  match c with
  | or => fs.any answers
  | and => fs.all answers

theorem keeps_combine (c : Connective) (fs : List Filter) (row : List Cell) (place : Nat)
    (cell : Cell) : (c.combine fs).keeps row place cell = c.answer (keeps row · place cell) fs := by
  cases c with
  | or => exact keeps_or row fs place cell
  | and => exact keeps_and row fs place cell

theorem stripsValues_combine (c : Connective) (fs : List Filter) :
    (c.combine fs).stripsValues = fs.any stripsValues := by
  cases c with
  | or => exact stripsValues_or fs
  | and => exact stripsValues_and fs

theorem Connective.answer_append (c : Connective) {answers : Filter → Bool}
    {before inner after : List Filter} (h : answers g = c.answer answers inner) :
    c.answer answers (before ++ g :: after) = c.answer answers (before ++ inner ++ after) := by
  cases c with
  | or =>
      simp only [answer] at h ⊢
      simp [h]
  | and =>
      simp only [answer] at h ⊢
      simp [h]

/-- Operands that are a nested combination by the same connective stand in its place. -/
theorem alike_flatten (c : Connective) (before inner after : List Filter) :
    Alike (c.combine (before ++ c.combine inner :: after))
      (c.combine (before ++ inner ++ after)) := by
  constructor
  · intro row place cell
    rw [keeps_combine, keeps_combine]
    exact c.answer_append (keeps_combine c inner row place cell)
  · simp [stripsValues_combine]

theorem alike_permute (c : Connective) {fs gs : List Filter} (h : fs.Perm gs) :
    Alike (c.combine fs) (c.combine gs) := by
  constructor
  · intro row place cell
    rw [keeps_combine, keeps_combine]
    cases c with
    | or => exact h.any_eq
    | and => exact h.all_eq
  · rw [stripsValues_combine, stripsValues_combine]
    exact h.any_eq

theorem Alike.operand (c : Connective) (before after : List Filter) (h : Alike f g) :
    Alike (c.combine (before ++ f :: after)) (c.combine (before ++ g :: after)) := by
  constructor
  · intro row place cell
    rw [keeps_combine, keeps_combine]
    cases c with
    | or => simp [Connective.answer, h.keeps]
    | and => simp [Connective.answer, h.keeps]
  · simp [stripsValues_combine, h.strips]

/-- Somewhere in a filter the operands of a connective are put in another order, or those of a nested
combination by the same connective are put in its place. -/
inductive Regroups : Filter → Filter → Prop
  | flatten (c : Connective) (before inner after : List Filter) :
    Regroups (c.combine (before ++ c.combine inner :: after)) (c.combine (before ++ inner ++ after))
  | permute (c : Connective) {fs gs : List Filter} (h : fs.Perm gs) :
    Regroups (c.combine fs) (c.combine gs)
  | skip {f g : Filter} (h : Regroups f g) : Regroups (.skip f) (.skip g)
  | operand (c : Connective) (before after : List Filter) {f g : Filter} (h : Regroups f g) :
    Regroups (c.combine (before ++ f :: after)) (c.combine (before ++ g :: after))

theorem Regroups.alike (h : Regroups f g) : Alike f g := by
  induction h with
  | flatten c before inner after => exact alike_flatten c before inner after
  | permute c h => exact alike_permute c h
  | skip _ ih => exact ih.skip
  | operand c before after _ ih => exact ih.operand c before after

theorem Alike.of_eqvGen (h : Relation.EqvGen Regroups f g) : Alike f g := by
  induction h with
  | rel f g h => exact h.alike
  | refl f => exact .refl f
  | symm f g _ ih => exact ih.symm
  | trans f g k _ _ ihf ihg => exact ihf.trans ihg

end Filter

end ColumnStore
