import ColumnStore.Cell

/-!
# The layout of cells

A cell places its fields one after another, each found by an offset and a length that are computed
from numbers stored before it. `Cell.wellPlaced` says that no such computation leaves the buffer, and
`Cell.layout_exact` that cells and the fields within the limits are the same thing.
-/

namespace ColumnStore

namespace CellFields

/-- The limits of a cell, written out. -/
structure WithinLimits (f : CellFields) : Prop where
  row : f.row.length ≤ 65535
  family : f.family.length ≤ 255
  tags : f.tags.length ≤ 65535
  key : 12 + f.row.length + f.family.length + f.qualifier.length ≤ 4294967295
  value : f.value.length ≤ 4294967295

theorem fits_iff_withinLimits (f : CellFields) : f.Fits ↔ f.WithinLimits := by
  constructor
  · intro h
    exact ⟨h .row, h .family, h .tags, h .key, h .value⟩
  · intro h part
    cases part with
    | row => exact h.row
    | family => exact h.family
    | tags => exact h.tags
    | key => exact h.key
    | value => exact h.value

/-- A part is beyond its limit, and those that are checked before it are not. -/
structure Offends (f : CellFields) (fault : Oversized) : Prop where
  size_eq : fault.size = f.size fault.part
  beyond : fault.part.limit < f.size fault.part
  first : ∃ before after, [.row, .family, .tags, .key, .value] = before ++ fault.part :: after ∧
    ∀ part ∈ before, f.size part ≤ part.limit

theorem offends_of_oversized? {f : CellFields} {fault : Oversized}
    (h : f.oversized? = some fault) : f.Offends fault := by
  obtain ⟨part, hfind, rfl⟩ := Option.map_eq_some_iff.mp h
  obtain ⟨hbeyond, before, after, hparts, hbefore⟩ := List.find?_eq_some_iff_append.mp hfind
  refine ⟨rfl, of_decide_eq_true hbeyond, before, after, hparts, ?_⟩
  intro p hp
  have hwithin := hbefore p hp
  simp only [Bool.not_eq_true', decide_eq_false_iff_not, Nat.not_lt] at hwithin
  exact hwithin

theorem oversized?_of_offends {f : CellFields} {fault : Oversized} (h : f.Offends fault) :
    f.oversized? = some fault := by
  obtain ⟨hsize, hbeyond, before, after, hparts, hbefore⟩ := h
  refine Option.map_eq_some_iff.mpr ⟨fault.part, List.find?_eq_some_iff_append.mpr ?_, ?_⟩
  · refine ⟨decide_eq_true hbeyond, before, after, hparts, ?_⟩
    intro p hp
    simpa using hbefore p hp
  · rw [← hsize]

end CellFields

namespace Cell

/-! ## Packing -/

theorem pack?_eq_error_iff {f : CellFields} {fault : Oversized} :
    pack? f = .error fault ↔ f.Offends fault := by
  constructor
  · intro h
    unfold pack? at h
    split at h
    · next hsome =>
      cases h
      exact CellFields.offends_of_oversized? hsome
    · cases h
  · intro h
    have hsome := CellFields.oversized?_of_offends h
    unfold pack?
    split
    · next hsome' =>
      rw [hsome] at hsome'
      cases hsome'
      rfl
    · next hnone =>
      rw [hsome] at hnone
      cases hnone

theorem exists_pack?_iff (f : CellFields) : (∃ c, pack? f = .ok c) ↔ f.WithinLimits := by
  rw [← f.fits_iff_withinLimits]
  constructor
  · rintro ⟨c, h⟩
    rw [← (fields_of_pack? h).1]
    exact c.fits_fields
  · intro h
    obtain ⟨c, hpack, -⟩ := pack?_eq_ok h
    exact ⟨c, hpack⟩

/-- Every reader of a cell finds the field that it is for. -/
structure Holds (c : Cell) (f : CellFields) : Prop where
  row : c.row = f.row
  family : c.family = f.family
  qualifier : c.qualifier = f.qualifier
  timestamp : c.timestamp = f.timestamp
  type : c.type? = some f.type
  value : c.value = f.value
  tags : c.tags = f.tags

theorem holds_fields (c : Cell) : c.Holds c.fields := by
  have hfits := c.fits_fields
  have hbuffer := c.buffer_eq_encode
  exact ⟨rfl, rfl, rfl, rfl, type?_of_encode hfits hbuffer, rfl, rfl⟩

theorem holds_of_pack? {f : CellFields} {c : Cell} (h : pack? f = .ok c) (n : UInt64) :
    (c.withSequenceId n).Holds f := by
  have hfields : (c.withSequenceId n).fields = f := by
    rw [fields_withSequenceId, (fields_of_pack? h).1]
  exact hfields ▸ holds_fields _

/-- Packing what was read gives the same octets. -/
theorem pack?_fields (c : Cell) :
    ∃ again, pack? c.fields = .ok again ∧ again.buffer = c.buffer := by
  obtain ⟨again, hpack, hfields, -⟩ := pack?_eq_ok c.fits_fields
  refine ⟨again, hpack, ?_⟩
  rw [again.buffer_eq_encode, hfields, ← c.buffer_eq_encode]

/-! ## Places -/

/-- The offsets and widths of the numbers that a cell stores. -/
def numbers (c : Cell) : List (Nat × Nat) :=
  [(0, 4), (4, 4), (8, 2), (rowOffset + c.rowLength, 1), (c.valueOffset - 9, 8),
    (c.valueOffset - 1, 1), (c.valueOffset + c.valueLength, 2)]

/-- The offsets and lengths of the fields. -/
def windows (c : Cell) : List (Nat × Nat) :=
  [(rowOffset, c.rowLength), (c.familyOffset, c.familyLength),
    (c.qualifierOffset, c.qualifierLength), (c.valueOffset, c.valueLength),
    (c.tagsOffset, c.tagsLength)]

/-- Offsets are never differences below zero, and everything lies in the buffer, one field after
another. -/
structure WellPlaced (c : Cell) : Prop where
  qualifier_nonneg : CellFields.fixedKeyLength + c.rowLength + c.familyLength ≤ c.keyLength
  timestamp_nonneg : 9 ≤ c.valueOffset
  numbers_le : ∀ n ∈ c.numbers, n.1 + n.2 ≤ c.buffer.length
  windows_le : ∀ w ∈ c.windows, w.1 + w.2 ≤ c.buffer.length
  ordered : c.windows.Pairwise fun v w ↦ v.1 + v.2 ≤ w.1
  ends : c.tagsOffset + c.tagsLength = c.buffer.length

theorem wellPlaced (c : Cell) : c.WellPlaced := by
  have hkey := c.keyLength_eq
  have hend := c.tags_end
  simp only [CellFields.fixedKeyLength] at hkey
  simp only [tagsOffset, valueOffset] at hend
  constructor
  case qualifier_nonneg =>
    rw [CellFields.fixedKeyLength]
    omega
  case timestamp_nonneg =>
    rw [valueOffset]
    omega
  case numbers_le =>
    simp only [numbers, rowOffset, valueOffset, List.forall_mem_cons, List.not_mem_nil, false_implies,
      implies_true, and_true]
    omega
  case windows_le =>
    simp only [windows, List.forall_mem_cons, List.not_mem_nil, false_implies, implies_true, and_true]
    exact ⟨c.row_le_length, c.family_le_length, c.qualifier_le_length, c.value_le_length,
      c.tags_le_length⟩
  case ordered =>
    simp only [windows, rowOffset, familyOffset, qualifierOffset, tagsOffset, valueOffset,
      List.pairwise_cons, List.Pairwise.nil, List.forall_mem_cons, List.not_mem_nil, false_implies,
      implies_true, and_true]
    omega
  case ends => exact c.tags_end

/-! ## Equality -/

theorem same_iff_fields (c d : Cell) : c.buffer = d.buffer ∧ c.sequenceId = d.sequenceId ↔
    c.row = d.row ∧ c.family = d.family ∧ c.qualifier = d.qualifier ∧
      c.timestamp = d.timestamp ∧ c.type? = d.type? ∧ c.value = d.value ∧ c.tags = d.tags ∧
        c.sequenceId = d.sequenceId := by
  constructor
  · rintro ⟨hbuffer, hsequence⟩
    obtain rfl : c = d := ext_buffer hbuffer hsequence
    simp
  · rintro ⟨hrow, hfamily, hqualifier, htimestamp, htype, hvalue, htags, hsequence⟩
    have hfields : c.fields = d.fields := by
      simp only [fields, hrow, hfamily, hqualifier, htimestamp, htype, hvalue, htags]
    obtain rfl : c = d := ext_fields hfields hsequence
    exact ⟨rfl, rfl⟩

/-- Fields are laid out exactly when they are within the limits, or else the first part beyond its
limit is named. The layout can be read back field by field. -/
theorem layout_exact :
    (∀ f, (∃ c, pack? f = .ok c) ↔ f.WithinLimits) ∧
    (∀ f fault, pack? f = .error fault ↔ f.Offends fault) ∧
    (∀ f c, pack? f = .ok c → ∀ n, (c.withSequenceId n).Holds f) ∧
    (∀ c : Cell, c.WellPlaced) ∧
    (∀ c d : Cell, c.buffer = d.buffer ∧ c.sequenceId = d.sequenceId ↔
      c.row = d.row ∧ c.family = d.family ∧ c.qualifier = d.qualifier ∧
        c.timestamp = d.timestamp ∧ c.type? = d.type? ∧ c.value = d.value ∧ c.tags = d.tags ∧
          c.sequenceId = d.sequenceId) ∧
    ∀ c : Cell, ∃ again, pack? c.fields = .ok again ∧ again.buffer = c.buffer := by
  refine ⟨exists_pack?_iff, ?_, ?_, wellPlaced, same_iff_fields, pack?_fields⟩
  · intro f fault
    exact pack?_eq_error_iff
  · intro f c h n
    exact holds_of_pack? h n

end Cell

end ColumnStore
