/-!
# Characters as ranges of octets

The octets of the characters of a range do not form a range themselves, but a short list of products
of ranges: `Utf8.sequences` gives, in ascending order, sequences of octet ranges such that each
character is spelled by exactly one of them.
-/

namespace ColumnStore

namespace Utf8

abbrev OctetRange := Nat × Nat

/-- The characters of one length: the first and the last one, the number of octets after the first
octet, and what the first octet adds to the bits that it carries. -/
structure Length where
  first : Nat
  last : Nat
  more : Nat
  mark : Nat

/-- The lengths of characters. The surrogates are no characters and are left out. -/
def lengths : List Length := [
  ⟨0, 0x7F, 0, 0⟩,
  ⟨0x80, 0x7FF, 1, 0xC0⟩,
  ⟨0x800, 0xD7FF, 2, 0xE0⟩,
  ⟨0xE000, 0xFFFF, 2, 0xE0⟩,
  ⟨0x10000, 0x10FFFF, 3, 0xF0⟩]

/-- The numbers from `a` to `b` as products of ranges of digits to the base 64, with `more` digits
after the first one. Numbers with one first digit go together, and so do full blocks. -/
def digitRanges : (more : Nat) → (a b : Nat) → List (List (Nat × Nat))
  | 0, a, b => [[(a, b)]]
  | more + 1, a, b =>
    let block := 64 ^ (more + 1)
    let before := fun digit ranges ↦ (digit, digit) :: ranges
    if a / block = b / block then
      (digitRanges more (a % block) (b % block)).map (before (a / block))
    else
      let fullFirst := a % block = 0
      let fullLast := b % block = block - 1
      let low := if fullFirst then a / block else a / block + 1
      let high := if fullLast then b / block + 1 else b / block
      (if fullFirst then []
        else (digitRanges more (a % block) (block - 1)).map (before (a / block))) ++
      (if low < high then [(low, high - 1) :: List.replicate (more + 1) (0, 63)] else []) ++
      (if fullLast then [] else (digitRanges more 0 (b % block)).map (before (b / block)))

def octetsOfDigits (mark : Nat) : List (Nat × Nat) → List OctetRange
  | [] => []
  | (a, b) :: rest => (mark + a, mark + b) :: rest.map fun (a, b) ↦ (0x80 + a, 0x80 + b)

/-- The octets of the characters from `a` to `b`, as sequences of octet ranges. -/
def sequences (a b : Nat) : List (List OctetRange) :=
  lengths.flatMap fun length ↦
    let first := max a length.first
    let last := min b length.last
    if first ≤ last then (digitRanges length.more first last).map (octetsOfDigits length.mark)
    else []

end Utf8

end ColumnStore
