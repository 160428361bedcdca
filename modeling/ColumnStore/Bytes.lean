/-!
# Byte strings

Keys, names and values are uninterpreted strings of octets, ordered by their first difference.
Lengths and timestamps inside a cell are unsigned numbers with the most significant octet first,
and `toNat_bigEndian` says that reading one back undoes writing it.
-/

namespace ColumnStore

/-- A string of octets. Its order is lexicographic, a proper beginning coming first. -/
abbrev Bytes := List UInt8

namespace Bytes

def ofString (s : String) : Bytes :=
  s.toByteArray.data.toList

theorem ofString_injective {s t : String} (h : ofString s = ofString t) : s = t := by
  apply String.toByteArray_inj.mp
  exact ByteArray.ext (Array.toList_inj.mp h)

/-- The `length` octets from `offset` on, fewer when the string ends earlier. -/
def window (bytes : Bytes) (offset length : Nat) : Bytes :=
  (bytes.drop offset).take length

/-- A window that covers one part of a concatenation is that part. -/
theorem window_eq {bytes field : Bytes} {offset length : Nat} (before after : Bytes)
    (h : bytes = before ++ (field ++ after)) (ho : offset = before.length)
    (hl : length = field.length) : window bytes offset length = field := by
  subst h ho hl
  simp [window]

/-! ## Numbers -/

/-- The last `width` octets of `n`, most significant first. -/
def bigEndian : (width : Nat) → (n : Nat) → Bytes
  | 0, _ => []
  | width + 1, n => bigEndian width (n / 256) ++ [UInt8.ofNat n]

/-- The number that a string of octets spells, most significant first. -/
def toNat (bytes : Bytes) : Nat :=
  bytes.foldl (fun n byte ↦ n * 256 + byte.toNat) 0

@[simp] theorem length_bigEndian (width n : Nat) : (bigEndian width n).length = width := by
  induction width generalizing n with
  | zero => rfl
  | succ width ih => simp [bigEndian, ih]

theorem toNat_concat (bytes : Bytes) (byte : UInt8) :
    toNat (bytes ++ [byte]) = toNat bytes * 256 + byte.toNat := by
  simp [toNat, List.foldl_append]

theorem toNat_bigEndian {width n : Nat} (h : n < 1 <<< (8 * width)) :
    toNat (bigEndian width n) = n := by
  induction width generalizing n with
  | zero => simp_all [bigEndian, toNat]
  | succ width ih =>
      have hdiv : n / 256 < 1 <<< (8 * width) := by
        rw [Nat.div_lt_iff_lt_mul (by decide), Nat.one_shiftLeft]
        rwa [Nat.one_shiftLeft, Nat.mul_succ, Nat.pow_add] at h
      rw [bigEndian, toNat_concat, ih hdiv]
      simp only [UInt8.toNat_ofNat']
      omega

end Bytes

end ColumnStore
