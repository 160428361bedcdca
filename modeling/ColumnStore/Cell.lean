import ColumnStore.Bytes

/-!
# Cells

A cell is one version of one column of one row. Its fields lie in a single string of octets:

* the length of the key and the length of the value, four octets each;
* the key: the length of the row in two octets, the row, the length of the family in one octet, the
  family, the qualifier, the timestamp in eight octets and the type in one;
* the value;
* the length of the tags in two octets and the tags.

The length of the qualifier is what remains of the key. Readers find every field by offset and
length; `Cell.fields_of_encode` says that they find what was written.
-/

namespace ColumnStore

/-- Milliseconds since an epoch, or any other number by which versions are ordered. -/
abbrev Timestamp := Int64

inductive CellType where
  /-- A value was written. -/
  | put
  /-- One version is deleted. -/
  | delete
  /-- All versions of the column are deleted. -/
  | deleteColumn
  /-- All columns of the family are deleted. -/
  | deleteFamily
  deriving DecidableEq, Repr

namespace CellType

def toByte : CellType → UInt8
  | put => 4
  | delete => 8
  | deleteColumn => 12
  | deleteFamily => 14

def ofByte? (byte : UInt8) : Option CellType :=
  if byte = 4 then some put
  else if byte = 8 then some delete
  else if byte = 12 then some deleteColumn
  else if byte = 14 then some deleteFamily
  else none

@[simp] theorem ofByte?_toByte (t : CellType) : ofByte? t.toByte = some t := by
  cases t <;> rfl

end CellType

/-! ## Fields and limits -/

/-- The contents of a cell apart from its sequence id. -/
structure CellFields where
  row : Bytes
  family : Bytes
  qualifier : Bytes
  timestamp : Timestamp
  type : CellType
  value : Bytes
  tags : Bytes
  deriving DecidableEq

inductive CellPart where
  | row
  | family
  | tags
  | key
  | value
  deriving DecidableEq, Repr

namespace CellPart

def name : CellPart → String
  | row => "row"
  | family => "family"
  | tags => "tags"
  | key => "key"
  | value => "value"

/-- The greatest number of octets that the length of a part can express. -/
def limit : CellPart → Nat
  | row => 65535
  | family => 255
  | tags => 65535
  | key => 4294967295
  | value => 4294967295

end CellPart

structure Oversized where
  part : CellPart
  size : Nat
  deriving DecidableEq, Repr

namespace CellFields

/-- The octets of the key besides row, family and qualifier. -/
def fixedKeyLength : Nat := 12

def keyLength (f : CellFields) : Nat :=
  fixedKeyLength + f.row.length + f.family.length + f.qualifier.length

def size (f : CellFields) : CellPart → Nat
  | .row => f.row.length
  | .family => f.family.length
  | .tags => f.tags.length
  | .key => f.keyLength
  | .value => f.value.length

/-- Whether every part stays within its limit. -/
def Fits (f : CellFields) : Prop :=
  ∀ part, f.size part ≤ part.limit

def oversized? (f : CellFields) : Option Oversized :=
  ([.row, .family, .tags, .key, .value].find? fun part ↦ part.limit < f.size part).map
    fun part ↦ ⟨part, f.size part⟩

theorem oversized?_eq_none_iff (f : CellFields) : f.oversized? = none ↔ f.Fits := by
  simp only [oversized?, Option.map_eq_none_iff, List.find?_eq_none, Fits, decide_eq_true_eq,
    Nat.not_lt]
  constructor
  · intro h part
    cases part <;> exact h _ (by simp)
  · exact fun h part _ ↦ h part

/-- The two lengths that a cell starts with. -/
def lengths (f : CellFields) : Bytes :=
  Bytes.bigEndian 4 f.keyLength ++ Bytes.bigEndian 4 f.value.length

/-- The key up to the qualifier. -/
def keyHead (f : CellFields) : Bytes :=
  Bytes.bigEndian 2 f.row.length ++ (f.row ++ (Bytes.bigEndian 1 f.family.length ++ f.family))

def key (f : CellFields) : Bytes :=
  f.keyHead ++ (f.qualifier ++
    (Bytes.bigEndian 8 f.timestamp.toUInt64.toNat ++ [f.type.toByte]))

def encode (f : CellFields) : Bytes :=
  f.lengths ++ (f.key ++ (f.value ++ (Bytes.bigEndian 2 f.tags.length ++ f.tags)))

@[simp] theorem length_lengths (f : CellFields) : f.lengths.length = 8 := by
  simp [lengths]

@[simp] theorem length_key (f : CellFields) : f.key.length = f.keyLength := by
  simp [key, keyHead, keyLength, fixedKeyLength]
  omega

theorem length_encode (f : CellFields) :
    f.encode.length = 10 + f.keyLength + f.value.length + f.tags.length := by
  simp [encode]
  omega

end CellFields

/-! ## Cells -/

/-- A cell: the octets of fields within their limits, and the sequence id under which the store
applied it. -/
structure Cell where
  buffer : Bytes
  sequenceId : UInt64
  encoded : ∃ f : CellFields, f.Fits ∧ buffer = f.encode

namespace Cell

@[ext] theorem ext_buffer {c d : Cell} (hb : c.buffer = d.buffer)
    (hs : c.sequenceId = d.sequenceId) : c = d := by
  cases c
  cases d
  cases hb
  cases hs
  rfl

instance : DecidableEq Cell := fun c d ↦
  if h : c.buffer = d.buffer ∧ c.sequenceId = d.sequenceId then isTrue (ext_buffer h.1 h.2)
  else isFalse fun hcd ↦ h (hcd ▸ ⟨rfl, rfl⟩)

/-- Lay out fields as a cell without a sequence id yet. -/
def pack? (f : CellFields) : Except Oversized Cell :=
  match h : f.oversized? with
  | some fault => .error fault
  | none => .ok ⟨f.encode, 0, f, f.oversized?_eq_none_iff.mp h, rfl⟩

def withSequenceId (c : Cell) (sequenceId : UInt64) : Cell :=
  { c with sequenceId }

/-! ### Reading by offset -/

def rowOffset : Nat := 10

variable (c : Cell)

/-- A number stored in the buffer. -/
def number (offset width : Nat) : Nat :=
  (Bytes.window c.buffer offset width).toNat

def keyLength : Nat := c.number 0 4

def rowLength : Nat := c.number 8 2

def familyOffset : Nat := rowOffset + c.rowLength + 1

def familyLength : Nat := c.number (rowOffset + c.rowLength) 1

def qualifierOffset : Nat := c.familyOffset + c.familyLength

/-- The length of the qualifier, which is not stored. -/
def qualifierLength : Nat :=
  c.keyLength - CellFields.fixedKeyLength - c.rowLength - c.familyLength

def valueOffset : Nat := 8 + c.keyLength

def valueLength : Nat := c.number 4 4

def tagsOffset : Nat := c.valueOffset + c.valueLength + 2

def tagsLength : Nat := c.number (c.valueOffset + c.valueLength) 2

def row : Bytes := Bytes.window c.buffer rowOffset c.rowLength

def family : Bytes := Bytes.window c.buffer c.familyOffset c.familyLength

def qualifier : Bytes := Bytes.window c.buffer c.qualifierOffset c.qualifierLength

def timestamp : Timestamp :=
  (UInt64.ofNat (c.number (c.valueOffset - 9) 8)).toInt64

def typeByte : UInt8 := UInt8.ofNat (c.number (c.valueOffset - 1) 1)

def type? : Option CellType := CellType.ofByte? c.typeByte

def value : Bytes := Bytes.window c.buffer c.valueOffset c.valueLength

def tags : Bytes := Bytes.window c.buffer c.tagsOffset c.tagsLength

def fields : CellFields where
  row := c.row
  family := c.family
  qualifier := c.qualifier
  timestamp := c.timestamp
  type := c.type?.getD .put
  value := c.value
  tags := c.tags

def withoutValue : Cell :=
  match pack? { c.fields with value := [] } with
  | .ok stripped => stripped.withSequenceId c.sequenceId
  | .error _ => c

end Cell

/-! ## Readers find what was written -/

namespace Cell

variable {c : Cell} {f : CellFields}

theorem keyLength_of_encode (h : f.Fits) (hb : c.buffer = f.encode) : c.keyLength = f.keyLength := by
  have hk : f.keyLength < 1 <<< (8 * 4) := Nat.lt_succ_of_le (h .key)
  have hw : Bytes.window f.encode 0 4 = Bytes.bigEndian 4 f.keyLength :=
    Bytes.window_eq [] _ rfl rfl (by simp)
  rw [keyLength, number, hb, hw, Bytes.toNat_bigEndian hk]

theorem valueLength_of_encode (h : f.Fits) (hb : c.buffer = f.encode) :
    c.valueLength = f.value.length := by
  have hk : f.value.length < 1 <<< (8 * 4) := Nat.lt_succ_of_le (h .value)
  have hw : Bytes.window f.encode 4 4 = Bytes.bigEndian 4 f.value.length :=
    Bytes.window_eq (Bytes.bigEndian 4 f.keyLength) _ rfl (by simp) (by simp)
  rw [valueLength, number, hb, hw, Bytes.toNat_bigEndian hk]

theorem rowLength_of_encode (h : f.Fits) (hb : c.buffer = f.encode) :
    c.rowLength = f.row.length := by
  have hk : f.row.length < 1 <<< (8 * 2) := Nat.lt_succ_of_le (h .row)
  have hw : Bytes.window f.encode 8 2 = Bytes.bigEndian 2 f.row.length :=
    Bytes.window_eq f.lengths _
      (by simp only [CellFields.encode, CellFields.key, CellFields.keyHead,
        List.append_assoc]; rfl)
      (by simp) (by simp)
  rw [rowLength, number, hb, hw, Bytes.toNat_bigEndian hk]

theorem row_of_encode (h : f.Fits) (hb : c.buffer = f.encode) : c.row = f.row := by
  rw [row, rowLength_of_encode h hb, hb]
  exact Bytes.window_eq (f.lengths ++ Bytes.bigEndian 2 f.row.length) _
    (by simp only [CellFields.encode, CellFields.key, CellFields.keyHead,
        List.append_assoc]; rfl) (by simp [rowOffset]) rfl

theorem familyLength_of_encode (h : f.Fits) (hb : c.buffer = f.encode) :
    c.familyLength = f.family.length := by
  have hk : f.family.length < 1 <<< (8 * 1) := Nat.lt_succ_of_le (h .family)
  have hw : Bytes.window f.encode (10 + f.row.length) 1 = Bytes.bigEndian 1 f.family.length :=
    Bytes.window_eq (f.lengths ++ (Bytes.bigEndian 2 f.row.length ++ f.row)) _
      (by simp only [CellFields.encode, CellFields.key, CellFields.keyHead,
        List.append_assoc]; rfl) (by simp; omega) (by simp)
  rw [familyLength, rowOffset, rowLength_of_encode h hb, number, hb, hw, Bytes.toNat_bigEndian hk]

theorem family_of_encode (h : f.Fits) (hb : c.buffer = f.encode) : c.family = f.family := by
  rw [family, familyOffset, rowLength_of_encode h hb, familyLength_of_encode h hb, hb]
  exact Bytes.window_eq
    (f.lengths ++ (Bytes.bigEndian 2 f.row.length ++ (f.row ++ Bytes.bigEndian 1 f.family.length))) _
    (by simp only [CellFields.encode, CellFields.key, CellFields.keyHead,
        List.append_assoc]; rfl)
    (by simp [rowOffset]; omega) rfl

theorem qualifierLength_of_encode (h : f.Fits) (hb : c.buffer = f.encode) :
    c.qualifierLength = f.qualifier.length := by
  rw [qualifierLength, keyLength_of_encode h hb, rowLength_of_encode h hb,
    familyLength_of_encode h hb, CellFields.keyLength]
  omega

theorem qualifier_of_encode (h : f.Fits) (hb : c.buffer = f.encode) :
    c.qualifier = f.qualifier := by
  rw [qualifier, qualifierOffset, familyOffset, rowLength_of_encode h hb,
    familyLength_of_encode h hb, qualifierLength_of_encode h hb, hb]
  exact Bytes.window_eq (f.lengths ++ f.keyHead) _
    (by simp only [CellFields.encode, CellFields.key, CellFields.keyHead,
        List.append_assoc]; rfl)
    (by simp [rowOffset, CellFields.keyHead]; omega) rfl

theorem valueOffset_of_encode (h : f.Fits) (hb : c.buffer = f.encode) :
    c.valueOffset = 8 + f.keyLength := by
  rw [valueOffset, keyLength_of_encode h hb]

theorem timestamp_of_encode (h : f.Fits) (hb : c.buffer = f.encode) :
    c.timestamp = f.timestamp := by
  have hk : f.timestamp.toUInt64.toNat < 1 <<< (8 * 8) := f.timestamp.toUInt64.toNat_lt
  have hw : Bytes.window f.encode (8 + f.keyLength - 9) 8 =
      Bytes.bigEndian 8 f.timestamp.toUInt64.toNat :=
    Bytes.window_eq (f.lengths ++ (f.keyHead ++ f.qualifier)) _
      (by simp only [CellFields.encode, CellFields.key, CellFields.keyHead,
        List.append_assoc]; rfl)
      (by simp [CellFields.keyHead, CellFields.keyLength, CellFields.fixedKeyLength]; omega)
      (by simp)
  rw [timestamp, valueOffset_of_encode h hb, number, hb, hw, Bytes.toNat_bigEndian hk]
  simp

theorem typeByte_of_encode (h : f.Fits) (hb : c.buffer = f.encode) :
    c.typeByte = f.type.toByte := by
  have hw : Bytes.window f.encode (8 + f.keyLength - 1) 1 = [f.type.toByte] :=
    Bytes.window_eq (f.lengths ++ (f.keyHead ++
        (f.qualifier ++ Bytes.bigEndian 8 f.timestamp.toUInt64.toNat))) _
      (by simp only [CellFields.encode, CellFields.key, CellFields.keyHead,
        List.append_assoc]; rfl)
      (by simp [CellFields.keyHead, CellFields.keyLength, CellFields.fixedKeyLength]; omega)
      (by simp)
  rw [typeByte, valueOffset_of_encode h hb, number, hb, hw]
  simp [Bytes.toNat]

theorem type?_of_encode (h : f.Fits) (hb : c.buffer = f.encode) : c.type? = some f.type := by
  rw [type?, typeByte_of_encode h hb, CellType.ofByte?_toByte]

theorem value_of_encode (h : f.Fits) (hb : c.buffer = f.encode) : c.value = f.value := by
  rw [value, valueOffset_of_encode h hb, valueLength_of_encode h hb, hb]
  exact Bytes.window_eq (f.lengths ++ f.key) _
    (by simp only [CellFields.encode, CellFields.key, CellFields.keyHead,
      List.append_assoc]; rfl)
    (by simp) rfl

theorem tagsLength_of_encode (h : f.Fits) (hb : c.buffer = f.encode) :
    c.tagsLength = f.tags.length := by
  have hk : f.tags.length < 1 <<< (8 * 2) := Nat.lt_succ_of_le (h .tags)
  have hw : Bytes.window f.encode (8 + f.keyLength + f.value.length) 2 =
      Bytes.bigEndian 2 f.tags.length :=
    Bytes.window_eq (f.lengths ++ (f.key ++ f.value)) _
      (by simp only [CellFields.encode, CellFields.key, CellFields.keyHead,
        List.append_assoc]; rfl)
      (by simp; omega) (by simp)
  rw [tagsLength, valueOffset_of_encode h hb, valueLength_of_encode h hb, number, hb, hw,
    Bytes.toNat_bigEndian hk]

theorem tags_of_encode (h : f.Fits) (hb : c.buffer = f.encode) : c.tags = f.tags := by
  rw [tags, tagsOffset, valueOffset_of_encode h hb, valueLength_of_encode h hb,
    tagsLength_of_encode h hb, hb]
  exact Bytes.window_eq (f.lengths ++ (f.key ++ (f.value ++ Bytes.bigEndian 2 f.tags.length))) []
    (by simp only [CellFields.encode, List.append_assoc, List.append_nil])
    (by simp; omega) rfl

theorem fields_of_encode (h : f.Fits) (hb : c.buffer = f.encode) : c.fields = f := by
  simp [fields, row_of_encode h hb, family_of_encode h hb, qualifier_of_encode h hb,
    timestamp_of_encode h hb, type?_of_encode h hb, value_of_encode h hb, tags_of_encode h hb]

theorem length_of_encode (hb : c.buffer = f.encode) :
    c.buffer.length = 10 + f.keyLength + f.value.length + f.tags.length := by
  rw [hb, f.length_encode]

/-! ## Windows lie within the buffer -/

theorem keyLength_eq (c : Cell) : c.keyLength =
    CellFields.fixedKeyLength + c.rowLength + c.familyLength + c.qualifierLength := by
  obtain ⟨f, h, hb⟩ := c.encoded
  rw [keyLength_of_encode h hb, rowLength_of_encode h hb, familyLength_of_encode h hb,
    qualifierLength_of_encode h hb, CellFields.keyLength]

theorem tags_end (c : Cell) : c.tagsOffset + c.tagsLength = c.buffer.length := by
  obtain ⟨f, h, hb⟩ := c.encoded
  rw [length_of_encode hb, tagsOffset, valueOffset_of_encode h hb, valueLength_of_encode h hb,
    tagsLength_of_encode h hb]
  omega

theorem tags_le_length (c : Cell) : c.tagsOffset + c.tagsLength ≤ c.buffer.length :=
  Nat.le_of_eq c.tags_end

theorem value_le_length (c : Cell) : c.valueOffset + c.valueLength ≤ c.buffer.length := by
  have hend := c.tags_end
  rw [tagsOffset] at hend
  omega

theorem qualifier_le_length (c : Cell) :
    c.qualifierOffset + c.qualifierLength ≤ c.buffer.length := by
  have hkey := c.keyLength_eq
  have hvalue := c.value_le_length
  rw [CellFields.fixedKeyLength] at hkey
  rw [valueOffset] at hvalue
  rw [qualifierOffset, familyOffset, rowOffset]
  omega

theorem family_le_length (c : Cell) : c.familyOffset + c.familyLength ≤ c.buffer.length :=
  Nat.le_trans (Nat.le_add_right _ _) c.qualifier_le_length

theorem row_le_length (c : Cell) : rowOffset + c.rowLength ≤ c.buffer.length := by
  have hfamily := c.family_le_length
  rw [familyOffset] at hfamily
  omega

/-! ## Cells and their fields -/

theorem buffer_eq_encode (c : Cell) : c.buffer = c.fields.encode := by
  obtain ⟨f, h, hb⟩ := c.encoded
  rw [fields_of_encode h hb, hb]

theorem fits_fields (c : Cell) : c.fields.Fits := by
  obtain ⟨f, h, hb⟩ := c.encoded
  rwa [fields_of_encode h hb]

theorem typeByte_eq (c : Cell) : c.typeByte = c.fields.type.toByte := by
  obtain ⟨f, h, hb⟩ := c.encoded
  rw [typeByte_of_encode h hb, fields_of_encode h hb]

theorem ext_fields {c d : Cell} (hf : c.fields = d.fields) (hs : c.sequenceId = d.sequenceId) :
    c = d := by
  apply ext_buffer _ hs
  rw [buffer_eq_encode, buffer_eq_encode, hf]

@[simp] theorem fields_withSequenceId (c : Cell) (n : UInt64) :
    (c.withSequenceId n).fields = c.fields := rfl

/-! ## Packing -/

/-- A cell is made exactly of fields that fit, and reading it gives them back. -/
theorem pack?_eq_ok {f : CellFields} (h : f.Fits) :
    ∃ c, pack? f = .ok c ∧ c.fields = f ∧ c.sequenceId = 0 := by
  have hnone : f.oversized? = none := f.oversized?_eq_none_iff.mpr h
  refine ⟨⟨f.encode, 0, f, h, rfl⟩, ?_, fields_of_encode h rfl, rfl⟩
  unfold pack?
  split
  · next hsome => rw [hnone] at hsome; cases hsome
  · rfl

theorem fields_of_pack? {f : CellFields} {c : Cell} (h : pack? f = .ok c) :
    c.fields = f ∧ c.sequenceId = 0 := by
  unfold pack? at h
  split at h
  · cases h
  · next hnone =>
    cases h
    exact ⟨fields_of_encode (f.oversized?_eq_none_iff.mp hnone) rfl, rfl⟩

theorem withoutValue_eq (c : Cell) :
    c.withoutValue.fields = { c.fields with value := [] } ∧
      c.withoutValue.sequenceId = c.sequenceId := by
  have hfits : { c.fields with value := [] : CellFields }.Fits := by
    intro part
    have h := c.fits_fields part
    cases part with
    | value => exact Nat.zero_le _
    | row | family | tags | key => exact h
  obtain ⟨stripped, hpack, hfields, -⟩ := pack?_eq_ok hfits
  unfold withoutValue
  rw [hpack]
  exact ⟨hfields, rfl⟩

end Cell

end ColumnStore
