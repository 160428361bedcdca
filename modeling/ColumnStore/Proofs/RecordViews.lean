import ColumnStore.Cell.Record
import ColumnStore.Proofs.CellLayout
import Mathlib.Algebra.Group.Nat.Defs

/-!
# Records of cells

A record takes the offsets of its windows from the cell, and does not check them. A reader of the same
octets that checks every access finds the same record (`ofBuffer?_eq`). However a cell was made, its
record shows what it was made of (`Cell.Made.record_sound`).
-/

namespace ColumnStore

namespace Bytes

def number? (bytes : Bytes) (offset width : Nat) : Option Nat :=
  if offset + width ≤ bytes.length then some (toNat (window bytes offset width)) else none

end Bytes

def difference? (m n : Nat) : Option Nat :=
  if n ≤ m then some (m - n) else none

theorem ByteView.new?_eq (v : ByteView) : ByteView.new? v.array v.offset v.length = some v :=
  dif_pos v.inBounds

namespace CellRecord

/-- Read a record from the octets of a cell, checking for every number and every field that it lies within
them, and that no length is a difference below zero. -/
def ofBuffer? (buffer : Bytes) (sequenceId : UInt64) : Option CellRecord := do
  let keyLength ← Bytes.number? buffer 0 4
  let valueLength ← Bytes.number? buffer 4 4
  let rowLength ← Bytes.number? buffer 8 2
  let row ← ByteView.new? buffer 10 rowLength
  let familyLength ← Bytes.number? buffer (10 + rowLength) 1
  let family ← ByteView.new? buffer (10 + rowLength + 1) familyLength
  let qualifierLength ← difference? keyLength (12 + rowLength + familyLength)
  let qualifier ← ByteView.new? buffer (10 + rowLength + 1 + familyLength) qualifierLength
  let timestampOffset ← difference? (8 + keyLength) 9
  let timestamp ← Bytes.number? buffer timestampOffset 8
  let typeOffset ← difference? (8 + keyLength) 1
  let typeByte ← Bytes.number? buffer typeOffset 1
  let value ← ByteView.new? buffer (8 + keyLength) valueLength
  let tagsLength ← Bytes.number? buffer (8 + keyLength + valueLength) 2
  let tags ← ByteView.new? buffer (8 + keyLength + valueLength + 2) tagsLength
  some {
    row, family, qualifier, value, tags, sequenceId
    timestamp := (UInt64.ofNat timestamp).toInt64
    typeByte := UInt8.ofNat typeByte }

end CellRecord

namespace Cell

/-- However a cell is made: of fields, under some sequence id, or by leaving out a value. -/
inductive Made : Cell → CellFields → UInt64 → Prop
  | packed {f : CellFields} {c : Cell} (h : pack? f = .ok c) : Made c f 0
  | numbered {c : Cell} {f : CellFields} {n : UInt64} (h : Made c f n) (m : UInt64) :
    Made (c.withSequenceId m) f m
  | stripped {c : Cell} {f : CellFields} {n : UInt64} (h : Made c f n) :
    Made c.withoutValue { f with value := [] } n

theorem number?_eq {c : Cell} {offset width : Nat} (h : (offset, width) ∈ c.numbers) :
    Bytes.number? c.buffer offset width = some (c.number offset width) :=
  if_pos (c.wellPlaced.numbers_le _ h)

theorem new?_eq {c : Cell} {offset length : Nat} (h : (offset, length) ∈ c.windows) :
    ByteView.new? c.buffer offset length =
      some ⟨c.buffer, offset, length, c.wellPlaced.windows_le _ h⟩ :=
  dif_pos _

/-- Sums of offsets and lengths stay far below the greatest number of 64 bits. -/
theorem length_buffer_lt (c : Cell) : c.buffer.length < 2 ^ 64 := by
  have hkey := c.fits_fields .key
  have hvalue := c.fits_fields .value
  have htags := c.fits_fields .tags
  rw [length_of_encode c.buffer_eq_encode]
  simp only [CellFields.size, CellPart.limit] at hkey hvalue htags
  omega

/-- The offsets of a cell pass every check. -/
theorem ofBuffer?_eq (c : Cell) :
    CellRecord.ofBuffer? c.buffer c.sequenceId = some (.ofCell c) := by
  have hkey : Bytes.number? c.buffer 0 4 = some c.keyLength := number?_eq (by simp [numbers])
  have hvalueLength : Bytes.number? c.buffer 4 4 = some c.valueLength :=
    number?_eq (by simp [numbers])
  have hrowLength : Bytes.number? c.buffer 8 2 = some c.rowLength := number?_eq (by simp [numbers])
  have hfamilyLength : Bytes.number? c.buffer (10 + c.rowLength) 1 = some c.familyLength :=
    number?_eq (by simp [numbers, rowOffset])
  have hqualifierLength : difference? c.keyLength (12 + c.rowLength + c.familyLength) =
      some c.qualifierLength := by
    have hle : 12 + c.rowLength + c.familyLength ≤ c.keyLength := c.wellPlaced.qualifier_nonneg
    rw [difference?, if_pos hle, qualifierLength, Nat.sub_sub, Nat.sub_sub, ← Nat.add_assoc]
    rfl
  have htimestampOffset : difference? (8 + c.keyLength) 9 = some (c.valueOffset - 9) :=
    if_pos c.wellPlaced.timestamp_nonneg
  have htimestamp : Bytes.number? c.buffer (c.valueOffset - 9) 8 =
      some (c.number (c.valueOffset - 9) 8) := number?_eq (by simp [numbers])
  have htypeOffset : difference? (8 + c.keyLength) 1 = some (c.valueOffset - 1) :=
    if_pos (Nat.le_trans (by decide) c.wellPlaced.timestamp_nonneg)
  have htype : Bytes.number? c.buffer (c.valueOffset - 1) 1 =
      some (c.number (c.valueOffset - 1) 1) := number?_eq (by simp [numbers])
  have htagsLength : Bytes.number? c.buffer (8 + c.keyLength + c.valueLength) 2 = some c.tagsLength :=
    number?_eq (by simp [numbers, valueOffset])
  have hrow : ByteView.new? c.buffer 10 c.rowLength = some (CellRecord.ofCell c).row :=
    new?_eq (by simp [windows, rowOffset])
  have hfamily : ByteView.new? c.buffer (10 + c.rowLength + 1) c.familyLength =
      some (CellRecord.ofCell c).family := new?_eq (by simp [windows, familyOffset, rowOffset])
  have hqualifier : ByteView.new? c.buffer (10 + c.rowLength + 1 + c.familyLength)
      c.qualifierLength = some (CellRecord.ofCell c).qualifier :=
    new?_eq (by simp [windows, qualifierOffset, familyOffset, rowOffset])
  have hvalue : ByteView.new? c.buffer (8 + c.keyLength) c.valueLength =
      some (CellRecord.ofCell c).value := new?_eq (by simp [windows, valueOffset])
  have htags : ByteView.new? c.buffer (8 + c.keyLength + c.valueLength + 2) c.tagsLength =
      some (CellRecord.ofCell c).tags := new?_eq (by simp [windows, tagsOffset, valueOffset])
  simp only [CellRecord.ofBuffer?, hkey, hvalueLength, hrowLength, hrow, hfamilyLength, hfamily,
    hqualifierLength, hqualifier, htimestampOffset, htimestamp, htypeOffset, htype, hvalue, htagsLength,
    htags, Option.bind_eq_bind, Option.bind_some]
  rfl

/-! ## Records of what was made -/

variable {c : Cell} {f : CellFields} {n : UInt64}

theorem Made.holds (h : c.Made f n) : c.fields = f ∧ c.sequenceId = n := by
  induction h with
  | packed h => exact fields_of_pack? h
  | numbered _ m ih => exact ⟨by rw [fields_withSequenceId, ih.1], rfl⟩
  | @stripped c _ _ _ ih =>
    obtain ⟨hfields, hsequenceId⟩ := c.withoutValue_eq
    exact ⟨by rw [hfields, ih.1], by rw [hsequenceId, ih.2]⟩

end Cell

namespace CellRecord

/-- A record of a cell shows the fields that the cell was made of, through windows on its octets that pass
every check. -/
structure Sound (r : CellRecord) (c : Cell) (f : CellFields) (n : UInt64) : Prop where
  array_eq : ∀ v ∈ r.views, v.array = c.buffer
  accepted : ∀ v ∈ r.views, ByteView.new? c.buffer v.offset v.length = some v
  inBounds : ∀ v ∈ r.views, v.offset + v.length ≤ c.buffer.length ∧ v.offset + v.length < 2 ^ 64
  bytes : r.views.map ByteView.bytes = [f.row, f.family, f.qualifier, f.value, f.tags]
  owned : r.toOwned =
    ⟨f.row, f.family, f.qualifier, f.value, f.tags, f.timestamp, f.type.toByte, n⟩
  owned_read : r.toOwned =
    ⟨c.row, c.family, c.qualifier, c.value, c.tags, c.timestamp, c.typeByte, c.sequenceId⟩

theorem array_of_mem_views {c : Cell} {v : ByteView} (h : v ∈ (ofCell c).views) :
    v.array = c.buffer := by
  simp only [views, List.mem_cons, List.not_mem_nil, or_false] at h
  rcases h with rfl | rfl | rfl | rfl | rfl <;> rfl

theorem sound_ofCell (c : Cell) : (ofCell c).Sound c c.fields c.sequenceId where
  array_eq _ := array_of_mem_views
  accepted v hv := array_of_mem_views hv ▸ v.new?_eq
  inBounds v hv := by
    have hle : v.offset + v.length ≤ c.buffer.length := array_of_mem_views hv ▸ v.inBounds
    exact ⟨hle, Nat.lt_of_le_of_lt hle c.length_buffer_lt⟩
  bytes := rfl
  owned := by
    rw [toOwned, ← c.typeByte_eq]
    rfl
  owned_read := rfl

end CellRecord

namespace Cell

variable {c : Cell} {f : CellFields} {n : UInt64}

/-- A record is built without checks, and is what a reader with every check finds in the octets. It shows
what its cell was made of, and no two cells have the same record. -/
theorem Made.record_sound (h : c.Made f n) :
    CellRecord.ofBuffer? c.buffer c.sequenceId = some (.ofCell c) ∧
    (CellRecord.ofCell c).Sound c f n ∧
    ∀ d, CellRecord.ofCell c = CellRecord.ofCell d ↔ c = d := by
  obtain ⟨rfl, rfl⟩ := h.holds
  refine ⟨c.ofBuffer?_eq, CellRecord.sound_ofCell c, ?_⟩
  intro d
  constructor
  · intro hrecord
    exact CellRecord.ofCell_injective hrecord
  · intro hcell
    rw [hcell]

def sampleFields : CellFields :=
  ⟨[114, 49], [102], [113], 1234, .put, [118, 49], [0, 1, 9]⟩

def sampleCell : Cell :=
  ⟨sampleFields.encode, 0, sampleFields, sampleFields.oversized?_eq_none_iff.mp rfl, rfl⟩

theorem record_sound_sampleCell :
    (sampleCell.withSequenceId 42).withoutValue.Made { sampleFields with value := [] } 42 ∧
      CellRecord.ofBuffer? (sampleCell.withSequenceId 42).withoutValue.buffer 42 =
        some (.ofCell (sampleCell.withSequenceId 42).withoutValue) ∧
      (CellRecord.ofCell (sampleCell.withSequenceId 42).withoutValue).views.map ByteView.bytes =
        [[114, 49], [102], [113], [], [0, 1, 9]] ∧
      CellRecord.ofCell (sampleCell.withSequenceId 42).withoutValue ≠ .ofCell sampleCell := by
  have hmade : (sampleCell.withSequenceId 42).withoutValue.Made
      { sampleFields with value := [] } 42 := ((Made.packed rfl).numbered 42).stripped
  obtain ⟨hread, hsound, hequal⟩ := hmade.record_sound
  rw [hmade.holds.2] at hread
  refine ⟨hmade, hread, hsound.bytes, ?_⟩
  intro hrecord
  have hcell := (hequal sampleCell).mp hrecord
  have hnumber : (42 : UInt64) = 0 := by rw [← hmade.holds.2, hcell]; rfl
  exact absurd hnumber (by decide)

end Cell

end ColumnStore
