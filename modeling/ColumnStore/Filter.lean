import ColumnStore.Cell
import ColumnStore.Comparator

/-!
# Filters

A filter decides for every cell of a row whether it is kept, looking at the cell, at its place in the
row and at the other cells. It also decides, for the row as a whole, whether the kept cells lose
their values. `Filter.keepsAll_eq` and the lemmas after it give the meaning of the compound filters.
-/

namespace ColumnStore

inductive FilterField where
  | row
  | family
  | qualifier
  | value
  deriving DecidableEq, Repr

namespace FilterField

def read : FilterField → Cell → Bytes
  | row, c => c.row
  | family, c => c.family
  | qualifier, c => c.qualifier
  | value, c => c.value

end FilterField

inductive Filter where
  /-- The row key begins in a certain way. -/
  | rowPrefix (beginning : Bytes)
  /-- The qualifier begins in a certain way. -/
  | columnPrefix (beginning : Bytes)
  /-- A part of the cell passes a comparison. -/
  | compare (field : FilterField) (op : CompareOp) (comparator : Comparator)
  /-- The value of a certain column passes a comparison, or the row does not have the column. -/
  | columnValue (family qualifier : Bytes) (op : CompareOp) (comparator : Comparator)
  /-- The cell is the first of its row. -/
  | firstOfRow
  /-- Every cell passes, without its value. -/
  | keysOnly
  /-- Every cell of the row passes. -/
  | skip (inner : Filter)
  | and (operands : List Filter)
  | or (operands : List Filter)

namespace Filter

/-- Induction over filters, with a hypothesis for every operand of a connective. -/
@[elab_as_elim, induction_eliminator]
theorem induction {motive : Filter → Prop}
    (rowPrefix : ∀ beginning, motive (.rowPrefix beginning))
    (columnPrefix : ∀ beginning, motive (.columnPrefix beginning))
    (compare : ∀ field op comparator, motive (.compare field op comparator))
    (columnValue : ∀ family qualifier op comparator,
      motive (.columnValue family qualifier op comparator))
    (firstOfRow : motive .firstOfRow) (keysOnly : motive .keysOnly)
    (skip : ∀ inner, motive inner → motive (.skip inner))
    (and : ∀ operands, (∀ f ∈ operands, motive f) → motive (.and operands))
    (or : ∀ operands, (∀ f ∈ operands, motive f) → motive (.or operands)) (f : Filter) :
    motive f := by
  refine @Filter.rec motive (fun operands ↦ ∀ f ∈ operands, motive f) rowPrefix columnPrefix compare
    columnValue firstOfRow keysOnly skip and or ?_ ?_ f
  · intro f hf
    cases hf
  · intro f operands hf hoperands
    exact List.forall_mem_cons.mpr ⟨hf, hoperands⟩

/-! ## Keeping cells -/

mutual

/-- Whether a filter keeps the cell at a given place of a row. -/
def keeps (row : List Cell) : Filter → (place : Nat) → Cell → Bool
  | rowPrefix beginning, _, c => beginning.isPrefixOf c.row
  | columnPrefix beginning, _, c => beginning.isPrefixOf c.qualifier
  | compare field op comparator, _, c => comparator.passes op (field.read c)
  | columnValue family qualifier op comparator, _, _ =>
    match row.find? fun c ↦ c.family = family ∧ c.qualifier = qualifier with
    | some c => comparator.passes op c.value
    | none => true
  | firstOfRow, place, _ => place == 0
  | keysOnly, _, _ => true
  | skip inner, _, _ => row.zipIdx.all fun (c, place) ↦ keeps row inner place c
  | and operands, place, c => keepsAll row operands place c
  | or operands, place, c => keepsAny row operands place c

def keepsAll (row : List Cell) : List Filter → (place : Nat) → Cell → Bool
  | [], _, _ => true
  | f :: fs, place, c => keeps row f place c && keepsAll row fs place c

def keepsAny (row : List Cell) : List Filter → (place : Nat) → Cell → Bool
  | [], _, _ => false
  | f :: fs, place, c => keeps row f place c || keepsAny row fs place c

end

theorem keepsAll_eq (row : List Cell) (fs : List Filter) (place : Nat) (c : Cell) :
    keepsAll row fs place c = fs.all (keeps row · place c) := by
  induction fs with
  | nil => rfl
  | cons f fs ih => rw [keepsAll, ih, List.all_cons]

theorem keepsAny_eq (row : List Cell) (fs : List Filter) (place : Nat) (c : Cell) :
    keepsAny row fs place c = fs.any (keeps row · place c) := by
  induction fs with
  | nil => rfl
  | cons f fs ih => rw [keepsAny, ih, List.any_cons]

@[simp] theorem keeps_skip (row : List Cell) (f : Filter) (place : Nat) (c : Cell) :
    keeps row (skip f) place c = row.zipIdx.all fun e ↦ keeps row f e.2 e.1 := by
  rw [keeps]

@[simp] theorem keeps_and (row : List Cell) (fs : List Filter) (place : Nat) (c : Cell) :
    keeps row (and fs) place c = fs.all (keeps row · place c) := by
  rw [keeps, keepsAll_eq]

@[simp] theorem keeps_or (row : List Cell) (fs : List Filter) (place : Nat) (c : Cell) :
    keeps row (or fs) place c = fs.any (keeps row · place c) := by
  rw [keeps, keepsAny_eq]

/-! ## Dropping values -/

mutual

/-- Whether the cells that a filter keeps lose their values. -/
def stripsValues : Filter → Bool
  | keysOnly => true
  | skip inner => stripsValues inner
  | and operands => anyStripsValues operands
  | or operands => anyStripsValues operands
  | rowPrefix _ | columnPrefix _ | compare _ _ _ | columnValue _ _ _ _ | firstOfRow => false

def anyStripsValues : List Filter → Bool
  | [] => false
  | f :: fs => stripsValues f || anyStripsValues fs

end

theorem anyStripsValues_eq (fs : List Filter) : anyStripsValues fs = fs.any stripsValues := by
  induction fs with
  | nil => rfl
  | cons f fs ih => rw [anyStripsValues, ih, List.any_cons]

@[simp] theorem stripsValues_and (fs : List Filter) :
    stripsValues (and fs) = fs.any stripsValues := by
  rw [stripsValues, anyStripsValues_eq]

@[simp] theorem stripsValues_or (fs : List Filter) :
    stripsValues (or fs) = fs.any stripsValues := by
  rw [stripsValues, anyStripsValues_eq]

@[simp] theorem stripsValues_skip (f : Filter) : stripsValues (skip f) = stripsValues f := by
  rw [stripsValues]

/-! ## Applying a filter -/

/-- The cells of a row that a filter keeps, as they are. -/
def kept (f : Filter) (row : List Cell) : List Cell :=
  (row.zipIdx.filter fun (c, place) ↦ f.keeps row place c).map Prod.fst

/-- The cells of a row that pass a filter, in their order. -/
def apply (f : Filter) (row : List Cell) : List Cell :=
  (f.kept row).map fun c ↦ if f.stripsValues then c.withoutValue else c

theorem kept_sublist (f : Filter) (row : List Cell) : (f.kept row).Sublist row := by
  have h := (List.filter_sublist (l := row.zipIdx)
    (p := fun e ↦ f.keeps row e.2 e.1)).map Prod.fst
  rwa [List.zipIdx_map_fst] at h

end Filter

end ColumnStore
