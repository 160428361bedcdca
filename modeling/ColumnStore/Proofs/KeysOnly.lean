import ColumnStore.Client.Incremental
import ColumnStore.Proofs.FilterStability

/-!
# Filters without values

Which cells a filter keeps is decided on the values that they have in the row, wherever `keysOnly` stands
in the filter. What it does besides is to take the value from each cell that is kept (`apply_replaceKeysOnly`).
-/

namespace ColumnStore

namespace Cell

/-- A cell is another one but for an empty value. -/
structure StrippedOf (stripped c : Cell) : Prop where
  value : stripped.value = []
  row : stripped.row = c.row
  family : stripped.family = c.family
  qualifier : stripped.qualifier = c.qualifier
  timestamp : stripped.timestamp = c.timestamp
  type : stripped.typeByte = c.typeByte
  tags : stripped.tags = c.tags
  sequenceId : stripped.sequenceId = c.sequenceId
  id : CellId.ofRecord (.ofCell stripped) = CellId.ofRecord (.ofCell c)

theorem StrippedOf.of_fields {stripped c : Cell} (hfields : stripped.fields = { c.fields with value := [] })
    (hsequenceId : stripped.sequenceId = c.sequenceId) : stripped.StrippedOf c := by
  have hrow : stripped.row = c.row := congrArg CellFields.row hfields
  have htimestamp : stripped.timestamp = c.timestamp := congrArg CellFields.timestamp hfields
  have hid : ∀ c : Cell, CellId.ofRecord (.ofCell c) = ⟨c.row, c.timestamp, c.sequenceId⟩ := fun c ↦ rfl
  exact {
    value := congrArg CellFields.value hfields
    row := hrow
    family := congrArg CellFields.family hfields
    qualifier := congrArg CellFields.qualifier hfields
    timestamp := htimestamp
    type := by rw [typeByte_eq, typeByte_eq, hfields]
    tags := congrArg CellFields.tags hfields
    sequenceId := hsequenceId
    id := by rw [hid, hid, hrow, htimestamp, hsequenceId] }

theorem strippedOf_withoutValue (c : Cell) : c.withoutValue.StrippedOf c :=
  .of_fields c.withoutValue_eq.1 c.withoutValue_eq.2

/-- Fields that fit with a value fit without it, so there always is a cell to be had. -/
theorem exists_stripped (c : Cell) : ∃ stripped, pack? { c.fields with value := [] } = .ok stripped ∧
    c.withoutValue = stripped.withSequenceId c.sequenceId := by
  obtain ⟨hfields, hsequenceId⟩ := c.withoutValue_eq
  obtain ⟨stripped, hpack, hstripped, -⟩ := pack?_eq_ok c.withoutValue.fits_fields
  rw [hfields] at hpack hstripped
  refine ⟨stripped, hpack, ext_fields ?_ hsequenceId⟩
  rw [hfields, fields_withSequenceId, hstripped]

theorem withoutValue_withoutValue (c : Cell) : c.withoutValue.withoutValue = c.withoutValue := by
  apply ext_fields
  · rw [c.withoutValue.withoutValue_eq.1, c.withoutValue_eq.1]
  · exact c.withoutValue.withoutValue_eq.2

end Cell

namespace Filter

mutual

def replaceKeysOnly : Filter → (always : Filter) → Filter
  | keysOnly, always => always
  | skip inner, always => .skip (replaceKeysOnly inner always)
  | and operands, always => .and (replaceInAll operands always)
  | or operands, always => .or (replaceInAll operands always)
  | rowPrefix beginning, _ => .rowPrefix beginning
  | columnPrefix beginning, _ => .columnPrefix beginning
  | compare field op comparator, _ => .compare field op comparator
  | columnValue family qualifier op comparator, _ => .columnValue family qualifier op comparator
  | firstOfRow, _ => .firstOfRow

def replaceInAll : List Filter → (always : Filter) → List Filter
  | [], _ => []
  | f :: fs, always => replaceKeysOnly f always :: replaceInAll fs always

end

theorem replaceInAll_eq (fs : List Filter) (always : Filter) :
    replaceInAll fs always = fs.map (replaceKeysOnly · always) := by
  induction fs with
  | nil => rfl
  | cons f fs ih => rw [replaceInAll, ih, List.map_cons]

variable {always : Filter}

theorem keeps_replaceKeysOnly (halways : ∀ row place cell, always.keeps row place cell = true)
    (f : Filter) (row : List Cell) (place : Nat) (cell : Cell) :
    (f.replaceKeysOnly always).keeps row place cell = f.keeps row place cell := by
  induction f generalizing place cell with
  | rowPrefix | columnPrefix | compare | columnValue | firstOfRow => rw [replaceKeysOnly]
  | keysOnly => rw [replaceKeysOnly, halways, keeps]
  | skip inner ih => simp only [replaceKeysOnly, keeps_skip, ih]
  | and operands ih =>
      rw [replaceKeysOnly, replaceInAll_eq, keeps_and, keeps_and, List.all_map, Bool.eq_iff_iff,
        List.all_eq_true, List.all_eq_true]
      refine forall₂_congr fun f hf ↦ ?_
      rw [Function.comp_apply, ih f hf]
  | or operands ih =>
      rw [replaceKeysOnly, replaceInAll_eq, keeps_or, keeps_or, List.any_map, Bool.eq_iff_iff,
        List.any_eq_true, List.any_eq_true]
      refine exists_congr fun f ↦ and_congr_right fun hf ↦ ?_
      rw [Function.comp_apply, ih f hf]

theorem stripsValues_replaceKeysOnly (hstrips : always.stripsValues = false) (f : Filter) :
    (f.replaceKeysOnly always).stripsValues = false := by
  have hoperands : ∀ operands : List Filter,
      (∀ f ∈ operands, (f.replaceKeysOnly always).stripsValues = false) →
        (replaceInAll operands always).any stripsValues = false := by
    intro operands h
    rw [replaceInAll_eq, List.any_map, List.any_eq_false]
    intro f hf
    rw [Function.comp_apply, h f hf]
    exact Bool.false_ne_true
  induction f with
  | rowPrefix | columnPrefix | compare | columnValue | firstOfRow => rw [replaceKeysOnly, stripsValues]
  | keysOnly => rw [replaceKeysOnly, hstrips]
  | skip inner ih => rw [replaceKeysOnly, stripsValues_skip, ih]
  | and operands ih => rw [replaceKeysOnly, stripsValues_and, hoperands operands ih]
  | or operands ih => rw [replaceKeysOnly, stripsValues_or, hoperands operands ih]

theorem kept_replaceKeysOnly (halways : ∀ row place cell, always.keeps row place cell = true)
    (f : Filter) (row : List Cell) : (f.replaceKeysOnly always).kept row = f.kept row := by
  simp only [kept, keeps_replaceKeysOnly halways]

theorem apply_replaceKeysOnly (halways : ∀ row place cell, always.keeps row place cell = true)
    {f : Filter} (hf : Occurs .keysOnly f) (row : List Cell) :
    f.apply row = ((f.replaceKeysOnly always).apply row).map Cell.withoutValue := by
  -- The filter put in place may take values away itself, which makes no difference to taking them away.
  have hstripped : ∀ c : Cell, (if (f.replaceKeysOnly always).stripsValues then c.withoutValue
      else c).withoutValue = c.withoutValue := by
    intro c
    split
    · exact c.withoutValue_withoutValue
    · rfl
  rw [apply, apply, kept_replaceKeysOnly halways, List.map_map, stripsValues_of_occurs hf]
  exact List.map_congr_left fun c _ ↦ (hstripped c).symm

/-- A filter with a keys-only part returns the cells it would return if that part just kept everything,
each without its value. Taking a value away always succeeds, leaves the rest of the cell as it is, and
changes nothing the second time. -/
theorem keysOnly_strips {f always : Filter} (hf : Occurs .keysOnly f)
    (halways : ∀ row place cell, always.keeps row place cell = true) (row : List Cell) :
    f.apply row = ((f.replaceKeysOnly always).apply row).map Cell.withoutValue ∧
      (¬Occurs .keysOnly always → (f.replaceKeysOnly always).apply row = f.kept row) ∧
      ∀ c : Cell, c.withoutValue.StrippedOf c ∧
        (∃ stripped, Cell.pack? { c.fields with value := [] } = .ok stripped ∧
          c.withoutValue = stripped.withSequenceId c.sequenceId) ∧
        c.withoutValue.withoutValue = c.withoutValue := by
  refine ⟨apply_replaceKeysOnly halways hf row, ?_,
    fun c ↦ ⟨c.strippedOf_withoutValue, c.exists_stripped, c.withoutValue_withoutValue⟩⟩
  intro hnone
  have hstrips : (f.replaceKeysOnly always).stripsValues = false := by
    apply stripsValues_replaceKeysOnly
    rwa [← stripsValues_iff, Bool.not_eq_true] at hnone
  simp [apply, hstrips, kept_replaceKeysOnly halways]

def strippingFilter : Filter :=
  .and [.skip .keysOnly, .compare .value .greater (.binary [])]

theorem keysOnly_strips_sampleRow :
    Occurs .keysOnly strippingFilter ∧ (∀ row place cell, (and []).keeps row place cell = true) ∧
      sampleRow.map Cell.value = [[51], []] ∧
      (strippingFilter.apply sampleRow).map Cell.value = [[]] ∧
      strippingFilter.apply sampleRow =
        ((strippingFilter.replaceKeysOnly (.and [])).apply sampleRow).map Cell.withoutValue := by
  have hoccurs : Occurs .keysOnly strippingFilter := stripsValues_iff.mp (by decide)
  have halways : ∀ row place cell, (and []).keeps row place cell = true := by
    intro row place cell
    rw [keeps_and, List.all_nil]
  have hvalues : (strippingFilter.apply sampleRow).map Cell.value = [[]] := by decide +kernel
  have hsample : sampleRow.map Cell.value = [[51], []] := by decide +kernel
  obtain ⟨happly, -⟩ := keysOnly_strips hoccurs halways sampleRow
  exact ⟨hoccurs, halways, hsample, hvalues, happly⟩

end Filter

end ColumnStore
