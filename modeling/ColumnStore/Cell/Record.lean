import ColumnStore.Cell
import ColumnStore.Text.Quoted
import ColumnStore.Text.Utf8

/-!
# Records

A record is a cell as a reader of a scan sees it: its variable fields are windows on the buffer of
the cell, and nothing is copied until a copy is asked for.
-/

namespace ColumnStore

/-- A window on a string of octets. -/
structure ByteView where
  array : Bytes
  offset : Nat
  length : Nat
  inBounds : offset + length ≤ array.length

namespace ByteView

def new? (array : Bytes) (offset length : Nat) : Option ByteView :=
  if h : offset + length ≤ array.length then some ⟨array, offset, length, h⟩ else none

def bytes (v : ByteView) : Bytes :=
  Bytes.window v.array v.offset v.length

def isEmpty (v : ByteView) : Bool :=
  v.length == 0

def describe (v : ByteView) : String :=
  Text.quoted (Utf8.lossy v.bytes) ++ "@" ++ v.offset.repr ++ "+" ++ v.length.repr

end ByteView

structure CellRecord where
  row : ByteView
  family : ByteView
  qualifier : ByteView
  value : ByteView
  tags : ByteView
  timestamp : Timestamp
  typeByte : UInt8
  sequenceId : UInt64

/-- A record copied out of the buffer of its cell. -/
structure OwnedCell where
  row : Bytes
  family : Bytes
  qualifier : Bytes
  value : Bytes
  tags : Bytes
  timestamp : Timestamp
  typeByte : UInt8
  sequenceId : UInt64
  deriving DecidableEq

namespace CellRecord

def ofCell (c : Cell) : CellRecord where
  row := ⟨c.buffer, Cell.rowOffset, c.rowLength, c.row_le_length⟩
  family := ⟨c.buffer, c.familyOffset, c.familyLength, c.family_le_length⟩
  qualifier := ⟨c.buffer, c.qualifierOffset, c.qualifierLength, c.qualifier_le_length⟩
  value := ⟨c.buffer, c.valueOffset, c.valueLength, c.value_le_length⟩
  tags := ⟨c.buffer, c.tagsOffset, c.tagsLength, c.tags_le_length⟩
  timestamp := c.timestamp
  typeByte := c.typeByte
  sequenceId := c.sequenceId

def views (r : CellRecord) : List ByteView :=
  [r.row, r.family, r.qualifier, r.value, r.tags]

def toOwned (r : CellRecord) : OwnedCell where
  row := r.row.bytes
  family := r.family.bytes
  qualifier := r.qualifier.bytes
  value := r.value.bytes
  tags := r.tags.bytes
  timestamp := r.timestamp
  typeByte := r.typeByte
  sequenceId := r.sequenceId

theorem ofCell_injective {c d : Cell} (h : ofCell c = ofCell d) : c = d := by
  have hbuffer : c.buffer = d.buffer := congrArg (fun r : CellRecord ↦ r.row.array) h
  exact Cell.ext_buffer hbuffer (congrArg CellRecord.sequenceId h)

end CellRecord

namespace Cell

/-- A description: the names and numbers of a cell, and the length of its value. -/
def describe (c : Cell) : String :=
  "KeyValue \x7b row: " ++ Text.quoted (Utf8.lossy c.row) ++
    ", family: " ++ Text.quoted (Utf8.lossy c.family) ++
    ", qualifier: " ++ Text.quoted (Utf8.lossy c.qualifier) ++
    ", timestamp: " ++ c.timestamp.toInt.repr ++
    ", type: " ++ c.typeByte.toNat.repr ++
    ", sequence_id: " ++ c.sequenceId.toNat.repr ++
    ", value_length: " ++ c.valueLength.repr ++ " \x7d"

end Cell

end ColumnStore
