import ColumnStore.Proofs.TextOctets

/-!
# The order of texts

Texts are ordered by their characters. In UTF-8 that is the order of their octets, since of two
characters the smaller one has the smaller encoding (`compare_utf8EncodeChar`).
-/

namespace ColumnStore

open Std

namespace Bytes

/-- What comes first decides, and what follows only counts if that is the same. -/
theorem compare_cons_of_le {a b : Nat} {more more' : Bytes} (hle : a ≤ b) (hb : b < 256)
    (h : a = b → compare more more' = .lt) :
    compare (UInt8.ofNat a :: more) (UInt8.ofNat b :: more') = .lt := by
  rw [List.compare_eq_compareLex, List.compareLex_cons_cons, ← List.compare_eq_compareLex]
  rcases Nat.lt_or_eq_of_le hle with hlt | heq
  · have hoctet : compare (UInt8.ofNat a) (UInt8.ofNat b) = .lt := by
      rw [compare_eq_lt, UInt8.lt_iff_toNat_lt, UInt8.toNat_ofNat', UInt8.toNat_ofNat']
      omega
    rw [hoctet]
    rfl
  · rw [heq, ReflOrd.compare_self, h heq]
    rfl

theorem compare_append_left (shared more more' : Bytes) :
    compare (shared ++ more) (shared ++ more') = compare more more' := by
  induction shared with
  | nil => rfl
  | cons byte shared ih =>
      rw [List.cons_append, List.cons_append, List.compare_eq_compareLex,
        List.compareLex_cons_cons, ReflOrd.compare_self, ← List.compare_eq_compareLex, ih]
      rfl

theorem compare_utf8EncodeChar {c d : Char} (h : c < d) (more more' : Bytes) :
    compare (String.utf8EncodeChar c ++ more) (String.utf8EncodeChar d ++ more') = .lt := by
  have hlt : c.val.toNat < d.val.toNat := h
  have hd : d.val.toNat < 0x110000 := d.valid.elim (by omega) (by omega)
  unfold String.utf8EncodeChar
  generalize c.val.toNat = v at hlt
  generalize d.val.toNat = w at hlt hd
  dsimp only
  -- A longer encoding has a greater first octet. Of one length, the first digits that differ decide.
  by_cases hw : w ≤ 0x7F
  · rw [if_pos (by omega), if_pos hw]
    exact compare_cons_of_le (by omega) (by omega) (by omega)
  rw [if_neg hw]
  by_cases hv : v ≤ 0x7F
  · rw [if_pos hv]
    split_ifs
    all_goals exact compare_cons_of_le (by omega) (by omega) (by omega)
  rw [if_neg hv]
  by_cases hw : w ≤ 0x7FF
  · rw [if_pos (by omega), if_pos hw]
    refine compare_cons_of_le (by omega) (by omega) fun hfirst ↦ ?_
    exact compare_cons_of_le (by omega) (by omega) (by omega)
  rw [if_neg hw]
  by_cases hv : v ≤ 0x7FF
  · rw [if_pos hv]
    split_ifs
    all_goals exact compare_cons_of_le (by omega) (by omega) (by omega)
  rw [if_neg hv]
  by_cases hw : w ≤ 0xFFFF
  · rw [if_pos (by omega), if_pos hw]
    refine compare_cons_of_le (by omega) (by omega) fun hfirst ↦ ?_
    refine compare_cons_of_le (by omega) (by omega) fun hsecond ↦ ?_
    exact compare_cons_of_le (by omega) (by omega) (by omega)
  rw [if_neg hw]
  by_cases hv : v ≤ 0xFFFF
  · rw [if_pos hv]
    exact compare_cons_of_le (by omega) (by omega) (by omega)
  rw [if_neg hv]
  refine compare_cons_of_le (by omega) (by omega) fun hfirst ↦ ?_
  refine compare_cons_of_le (by omega) (by omega) fun hsecond ↦ ?_
  refine compare_cons_of_le (by omega) (by omega) fun hthird ↦ ?_
  exact compare_cons_of_le (by omega) (by omega) (by omega)

end Bytes

theorem Utf8.compare_encode {cs ds : List Char} (h : cs < ds) :
    compare (Utf8.encode cs) (Utf8.encode ds) = .lt := by
  induction h with
  | @nil d ds =>
      obtain ⟨byte, more, hoctets, -⟩ := Utf8.readsBack_utf8EncodeChar d
      rw [Utf8.encode_cons, hoctets]
      rfl
  | @rel c cs d ds h =>
      rw [Utf8.encode_cons, Utf8.encode_cons]
      exact Bytes.compare_utf8EncodeChar h _ _
  | @cons c cs ds _ ih => rwa [Utf8.encode_cons, Utf8.encode_cons, Bytes.compare_append_left]

/-- The order of texts is the order of their octets. -/
theorem Bytes.compare_ofString (s t : String) :
    compare (Bytes.ofString s) (Bytes.ofString t) = compare s t := by
  have hlt : ∀ {s t : String}, s < t → compare s t = .lt := fun h ↦ if_pos h
  have hoctets : ∀ {s t : String}, s < t → compare (ofString s) (ofString t) = .lt := by
    intro s t h
    rw [ofString_eq, ofString_eq]
    exact Utf8.compare_encode (String.lt_iff.mp h)
  rcases Std.lt_trichotomy s t with h | rfl | h
  · rw [hoctets h, hlt h]
  · rw [ReflOrd.compare_self, ReflOrd.compare_self]
  · rw [OrientedOrd.eq_swap, hoctets h, OrientedOrd.eq_swap (a := s), hlt h]

end ColumnStore
