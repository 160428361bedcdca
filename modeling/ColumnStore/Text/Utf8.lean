import ColumnStore.Bytes

/-!
# Reading octets as text

`Utf8.next` reads one character, or the longest ill-formed beginning of one. Strict reading refuses
the latter; lossy reading puts the replacement character in its place.
-/

namespace ColumnStore

namespace Utf8

/-- How a character of several octets goes on after its first octet. -/
structure Lead where
  /-- The bits that the first octet contributes. -/
  bits : Nat
  /-- The number of octets that follow. -/
  more : Nat
  /-- The least value of the second octet. -/
  low : UInt8 := 0x80
  /-- The greatest value of the second octet. -/
  high : UInt8 := 0xBF

/-- What the first octet of a character of several octets announces. The bounds on the second octet
exclude overlong forms, surrogates and numbers beyond the last code point. -/
def lead? (byte : UInt8) : Option Lead :=
  let n := byte.toNat
  if n < 0xC2 then none
  else if n < 0xE0 then some { bits := n - 0xC0, more := 1 }
  else if n = 0xE0 then some { bits := 0, more := 2, low := 0xA0 }
  else if n = 0xED then some { bits := 13, more := 2, high := 0x9F }
  else if n < 0xF0 then some { bits := n - 0xE0, more := 2 }
  else if n = 0xF0 then some { bits := 0, more := 3, low := 0x90 }
  else if n < 0xF4 then some { bits := n - 0xF0, more := 3 }
  else if n = 0xF4 then some { bits := 4, more := 3, high := 0x8F }
  else none

/-- Collect the bits of `more` continuation octets, stopping before the first octet that is none. -/
def follow : (more : Nat) → (low high : UInt8) → (bits : Nat) → Bytes → Option Nat × Bytes
  | 0, _, _, bits, bytes => (some bits, bytes)
  | _ + 1, _, _, _, [] => (none, [])
  | more + 1, low, high, bits, byte :: rest =>
    if low ≤ byte ∧ byte ≤ high then
      follow more 0x80 0xBF (bits * 64 + (byte.toNat - 0x80)) rest
    else
      (none, byte :: rest)

/-- Read the character that starts with `byte`. There is none when the octets are ill-formed; the
octets left over are then those after the longest beginning of a character. -/
def next (byte : UInt8) (rest : Bytes) : Option Char × Bytes :=
  if byte < 0x80 then
    (some (Char.ofNat byte.toNat), rest)
  else
    match lead? byte with
    | none => (none, rest)
    | some lead =>
      let (code, rest) := follow lead.more lead.low lead.high lead.bits rest
      (code.map Char.ofNat, rest)

theorem length_follow_le (more : Nat) (low high : UInt8) (bits : Nat) (bytes : Bytes) :
    (follow more low high bits bytes).2.length ≤ bytes.length := by
  induction more generalizing low high bits bytes with
  | zero => simp [follow]
  | succ more ih =>
      cases bytes with
      | nil => simp [follow]
      | cons byte rest =>
          simp only [follow]
          split
          · exact Nat.le_succ_of_le (ih _ _ _ _)
          · exact Nat.le_refl _

theorem length_next_le (byte : UInt8) (rest : Bytes) :
    (next byte rest).2.length ≤ rest.length := by
  unfold next
  split
  · exact Nat.le_refl _
  · split
    · exact Nat.le_refl _
    · exact length_follow_le _ _ _ _ _

/-- The characters of a string of octets, with a replacement character for each longest ill-formed
part. -/
def decodeLossy : Bytes → List Char
  | [] => []
  | byte :: rest => (next byte rest).1.getD '\uFFFD' :: decodeLossy (next byte rest).2
termination_by bytes => bytes.length
decreasing_by exact Nat.lt_succ_of_le (length_next_le byte rest)

def decode? : Bytes → Option (List Char)
  | [] => some []
  | byte :: rest =>
    match (next byte rest).1 with
    | none => none
    | some c => (decode? (next byte rest).2).map (c :: ·)
termination_by bytes => bytes.length
decreasing_by exact Nat.lt_succ_of_le (length_next_le byte rest)

def head? : Bytes → Option (Char × Bytes)
  | [] => none
  | byte :: rest => (next byte rest).1.map (·, (next byte rest).2)

/-- A string of octets read as text, ill-formed parts replaced. -/
def lossy (bytes : Bytes) : String :=
  String.ofList (decodeLossy bytes)

end Utf8

end ColumnStore
