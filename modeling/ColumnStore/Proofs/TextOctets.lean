import ColumnStore.Text.Utf8
import Mathlib.Data.UInt
import Mathlib.Tactic.IntervalCases

/-!
# Texts and their octets

Reading the octets of a text gives the text (`Bytes.decodeLossy_ofString`). The first octet of a character
cannot be taken for a later one, so that the octets of one text occur in those of another only where the
text itself does (`Bytes.infix_ofString_iff`).
-/

namespace ColumnStore

namespace Utf8

/-! ## First octets -/

theorem lead?_two {k : Nat} (hlow : 2 ≤ k) (hhigh : k < 32) :
    lead? (UInt8.ofNat (k + 0xC0)) = some { bits := k, more := 1 } := by
  interval_cases k <;> rfl

theorem lead?_three {k : Nat} (h : k < 16) :
    lead? (UInt8.ofNat (k + 0xE0)) = some {
      bits := k
      more := 2
      low := if k = 0 then 0xA0 else 0x80
      high := if k = 13 then 0x9F else 0xBF } := by
  interval_cases k <;> rfl

theorem lead?_four {k : Nat} (h : k < 5) :
    lead? (UInt8.ofNat (k + 0xF0)) = some {
      bits := k
      more := 3
      low := if k = 0 then 0x90 else 0x80
      high := if k = 4 then 0x8F else 0xBF } := by
  interval_cases k <;> rfl

/-! ## Later octets -/

theorem follow_succ {more bits d : Nat} {low high : UInt8} (hd : d < 64)
    (hlow : low.toNat ≤ d + 0x80) (hhigh : d + 0x80 ≤ high.toNat) (rest : Bytes) :
    follow (more + 1) low high bits (UInt8.ofNat (d + 0x80) :: rest) =
      follow more 0x80 0xBF (bits * 64 + d) rest := by
  have hoctet : (UInt8.ofNat (d + 0x80)).toNat = d + 0x80 := by
    rw [UInt8.toNat_ofNat']
    omega
  have hwithin : low ≤ UInt8.ofNat (d + 0x80) ∧ UInt8.ofNat (d + 0x80) ≤ high := by
    rw [UInt8.le_iff_toNat_le, UInt8.le_iff_toNat_le, hoctet]
    exact ⟨hlow, hhigh⟩
  rw [follow, if_pos hwithin, hoctet, Nat.add_sub_cancel]

theorem follow_plain {more bits d : Nat} (hd : d < 64) (rest : Bytes) :
    follow (more + 1) 0x80 0xBF bits (UInt8.ofNat (d + 0x80) :: rest) =
      follow more 0x80 0xBF (bits * 64 + d) rest := by
  apply follow_succ hd
  · exact Nat.le_add_left _ _
  · have hhigh : (0xBF : UInt8).toNat = 0xBF := rfl
    omega

/-! ## Characters -/

theorem next_of_lead {byte : UInt8} {lead : Lead} (hlead : lead? byte = some lead) (rest : Bytes) :
    next byte rest =
      ((follow lead.more lead.low lead.high lead.bits rest).1.map Char.ofNat,
        (follow lead.more lead.low lead.high lead.bits rest).2) := by
  have hlarge : ¬byte < 0x80 := by
    intro hsmall
    rw [UInt8.lt_iff_toNat_lt] at hsmall
    have hbound : byte.toNat < 0xC2 := Nat.lt_trans hsmall (by decide)
    simp [lead?, hbound] at hlead
  rw [next, if_neg hlarge, hlead]

/-- Reading takes exactly the octets of a character. -/
def ReadsBack (c : Char) (octets : Bytes) : Prop :=
  ∃ byte more, octets = byte :: more ∧ ∀ rest, next byte (more ++ rest) = (some c, rest)

theorem readsBack_one {c : Char} (h : c.toNat ≤ 0x7F) : ReadsBack c [UInt8.ofNat c.toNat] := by
  refine ⟨_, [], rfl, fun rest ↦ ?_⟩
  have hoctet : (UInt8.ofNat c.toNat).toNat = c.toNat := by
    rw [UInt8.toNat_ofNat']
    omega
  have hsmall : UInt8.ofNat c.toNat < 0x80 := by
    rw [UInt8.lt_iff_toNat_lt, hoctet]
    exact Nat.lt_succ_of_le h
  rw [next, if_pos hsmall, hoctet, Char.ofNat_toNat, List.nil_append]

theorem readsBack_two {c : Char} (hlow : 0x7F < c.toNat) (hhigh : c.toNat ≤ 0x7FF) :
    ReadsBack c [UInt8.ofNat (c.toNat / 64 % 0x20 + 0xC0), UInt8.ofNat (c.toNat % 0x40 + 0x80)] := by
  have hlead := @lead?_two (c.toNat / 64 % 0x20) (by omega) (by omega)
  refine ⟨_, _, rfl, fun rest ↦ ?_⟩
  have hcode : c.toNat / 64 % 0x20 * 64 + c.toNat % 0x40 = c.toNat := by omega
  rw [next_of_lead hlead, List.singleton_append]
  dsimp only
  rw [follow_plain (Nat.mod_lt _ (by decide)), follow, hcode, Option.map_some, Char.ofNat_toNat]

theorem readsBack_three {c : Char} (hlow : 0x7FF < c.toNat) (hhigh : c.toNat ≤ 0xFFFF) :
    ReadsBack c [UInt8.ofNat (c.toNat / 4096 % 0x10 + 0xE0),
      UInt8.ofNat (c.toNat / 64 % 0x40 + 0x80), UInt8.ofNat (c.toNat % 0x40 + 0x80)] := by
  have hlead := @lead?_three (c.toNat / 4096 % 0x10) (Nat.mod_lt _ (by decide))
  have hvalid : c.toNat < 0xD800 ∨ 0xDFFF < c.toNat ∧ c.toNat < 0x110000 := c.valid
  refine ⟨_, _, rfl, fun rest ↦ ?_⟩
  have hcode : (c.toNat / 4096 % 0x10 * 64 + c.toNat / 64 % 0x40) * 64 + c.toNat % 0x40 =
      c.toNat := by omega
  rw [next_of_lead hlead, List.cons_append, List.singleton_append]
  dsimp only
  -- The bounds on the second octet keep out numbers with a shorter form, and the surrogates.
  rw [follow_succ (Nat.mod_lt _ (by decide)), follow_plain (Nat.mod_lt _ (by decide)), follow, hcode,
    Option.map_some, Char.ofNat_toNat]
  · split
    · change 0xA0 ≤ _
      omega
    · exact Nat.le_add_left _ _
  · split
    · change _ ≤ 0x9F
      omega
    · change _ ≤ 0xBF
      omega

theorem readsBack_four {c : Char} (h : 0xFFFF < c.toNat) :
    ReadsBack c [UInt8.ofNat (c.toNat / 262144 % 0x08 + 0xF0),
      UInt8.ofNat (c.toNat / 4096 % 0x40 + 0x80), UInt8.ofNat (c.toNat / 64 % 0x40 + 0x80),
      UInt8.ofNat (c.toNat % 0x40 + 0x80)] := by
  have hvalid : c.toNat < 0xD800 ∨ 0xDFFF < c.toNat ∧ c.toNat < 0x110000 := c.valid
  have hlead := @lead?_four (c.toNat / 262144 % 0x08) (by omega)
  refine ⟨_, _, rfl, fun rest ↦ ?_⟩
  have hcode : ((c.toNat / 262144 % 0x08 * 64 + c.toNat / 4096 % 0x40) * 64 +
      c.toNat / 64 % 0x40) * 64 + c.toNat % 0x40 = c.toNat := by omega
  rw [next_of_lead hlead, List.cons_append, List.cons_append, List.singleton_append]
  dsimp only
  -- The bounds on the second octet keep out numbers with a shorter form, and those beyond the last one.
  rw [follow_succ (Nat.mod_lt _ (by decide)), follow_plain (Nat.mod_lt _ (by decide)),
    follow_plain (Nat.mod_lt _ (by decide)), follow, hcode, Option.map_some, Char.ofNat_toNat]
  · split
    · change 0x90 ≤ _
      omega
    · exact Nat.le_add_left _ _
  · split
    · change _ ≤ 0x8F
      omega
    · change _ ≤ 0xBF
      omega

theorem readsBack_utf8EncodeChar (c : Char) : ReadsBack c (String.utf8EncodeChar c) := by
  unfold String.utf8EncodeChar
  dsimp only
  split
  · next h => exact readsBack_one h
  · next hone =>
    split
    · next h => exact readsBack_two (Nat.lt_of_not_le hone) h
    · next htwo =>
      split
      · next h => exact readsBack_three (Nat.lt_of_not_le htwo) h
      · next hthree => exact readsBack_four (Nat.lt_of_not_le hthree)

/-! ## Texts -/

theorem decodeLossy_append (cs : List Char) (rest : Bytes) :
    decodeLossy (cs.flatMap String.utf8EncodeChar ++ rest) = cs ++ decodeLossy rest := by
  induction cs with
  | nil => rfl
  | cons c cs ih =>
      obtain ⟨byte, more, hoctets, hnext⟩ := readsBack_utf8EncodeChar c
      rw [List.flatMap_cons, hoctets, List.append_assoc, List.cons_append, decodeLossy, hnext, ih]
      rfl

theorem prefix_of_flatMap {cs ds : List Char}
    (h : cs.flatMap String.utf8EncodeChar <+: ds.flatMap String.utf8EncodeChar) : cs <+: ds := by
  obtain ⟨rest, h⟩ := h
  have hds := decodeLossy_append ds []
  rw [List.append_nil, ← h, decodeLossy_append, decodeLossy, List.append_nil] at hds
  exact ⟨_, hds⟩

/-- The first octet of a character is not a later octet of another one. -/
theorem eq_nil_of_first {c d : Char} {byte : UInt8} {more before after : Bytes}
    (hc : String.utf8EncodeChar c = byte :: more)
    (hd : String.utf8EncodeChar d = before ++ byte :: after) : before = [] := by
  have hfirst : byte.IsUTF8FirstByte := by
    have h := @UInt8.isUTF8FirstByte_getElem_zero_utf8EncodeChar c
    simpa only [hc, List.getElem_cons_zero] using h
  have hplace : before.length < (String.utf8EncodeChar d).length := by
    rw [hd, List.length_append, List.length_cons]
    omega
  have hlater : (String.utf8EncodeChar d)[before.length] = byte := by
    simp only [hd, List.getElem_append_right (Nat.le_refl _), Nat.sub_self, List.getElem_cons_zero]
  rw [← hlater] at hfirst
  exact List.eq_nil_of_length_eq_zero (UInt8.isUTF8FirstByte_getElem_utf8EncodeChar.mp hfirst)

theorem infix_of_flatMap {cs ds : List Char}
    (h : cs.flatMap String.utf8EncodeChar <:+: ds.flatMap String.utf8EncodeChar) : cs <:+: ds := by
  cases cs with
  | nil => exact List.nil_infix
  | cons c cs =>
      obtain ⟨byte, more, hc, -⟩ := readsBack_utf8EncodeChar c
      obtain ⟨before, after, h⟩ := h
      rw [List.append_assoc] at h
      -- The octets before the place either leave characters of the text out as a whole, or end within
      -- one, where no other character begins.
      induction ds generalizing before with
      | nil =>
          rw [List.flatMap_cons, hc] at h
          simp at h
      | cons d ds ih =>
          rw [@List.flatMap_cons _ _ d ds] at h
          rcases List.append_eq_append_iff.mp h with ⟨part, hd, hrest⟩ | ⟨part, hbefore, hrest⟩
          · cases part with
            | nil =>
                rw [List.nil_append] at hrest
                exact (ih [] hrest).trans (List.suffix_cons d ds).isInfix
            | cons byte' part =>
                rw [List.flatMap_cons, hc, List.cons_append, List.cons_append, List.cons_append] at hrest
                obtain rfl : byte = byte' := (List.cons.inj hrest).1
                obtain rfl := eq_nil_of_first hc hd
                rw [List.nil_append] at h
                exact (prefix_of_flatMap ⟨after, by rw [h, List.flatMap_cons]⟩).isInfix
          · exact (ih part hrest.symm).trans (List.suffix_cons d ds).isInfix

/-! ## Plain characters -/

def encode (cs : List Char) : Bytes :=
  cs.flatMap String.utf8EncodeChar

theorem encode_cons (c : Char) (cs : List Char) :
    encode (c :: cs) = String.utf8EncodeChar c ++ encode cs :=
  List.flatMap_cons

theorem encode_append (cs ds : List Char) : encode (cs ++ ds) = encode cs ++ encode ds :=
  List.flatMap_append

theorem decode?_encode (cs : List Char) : decode? (encode cs) = some cs := by
  induction cs with
  | nil => rw [encode, List.flatMap_nil, decode?]
  | cons c cs ih =>
      obtain ⟨byte, more, hoctets, hnext⟩ := readsBack_utf8EncodeChar c
      rw [encode_cons, hoctets, List.cons_append, decode?, hnext, ih]
      rfl

theorem lossy_encode (cs : List Char) : lossy (encode cs) = String.ofList cs := by
  have h := decodeLossy_append cs []
  rw [List.append_nil, decodeLossy, List.append_nil] at h
  rw [lossy, encode, h]

variable {c : Char}

theorem utf8Size_plain (h : c.toNat < 0x80) : c.utf8Size = 1 := by
  rw [Char.utf8Size_eq_one_iff, UInt32.le_iff_toNat_le]
  exact Nat.le_of_lt_succ h

theorem utf8EncodeChar_plain (h : c.toNat < 0x80) : String.utf8EncodeChar c = [c.toUInt8] := by
  rw [String.utf8EncodeChar_eq_singleton (utf8Size_plain h)]
  rfl

theorem toChar_toUInt8 (h : c.toNat < 0x80) : c.toUInt8.toChar = c := by
  apply Char.ext
  apply UInt32.toNat_inj.mp
  change c.val.toUInt8.toUInt32.toNat = c.val.toNat
  have hc : c.val.toNat < 0x80 := h
  rw [UInt8.toNat_toUInt32, UInt32.toNat_toUInt8]
  omega

theorem toNat_toChar (byte : UInt8) : byte.toChar.toNat = byte.toNat :=
  UInt8.toNat_toUInt32 byte

/-- The octets of a character that is not plain are none of those of plain characters, and the first one is
none of the later ones. -/
theorem utf8EncodeChar_high (h : 0x80 ≤ c.toNat) : ∃ byte more,
    String.utf8EncodeChar c = byte :: more ∧ 0xC0 ≤ byte.toNat ∧ ∀ b ∈ more, 0x80 ≤ b.toNat := by
  have hplain : ¬c.val.toNat ≤ 0x7f := Nat.not_le.mpr h
  unfold String.utf8EncodeChar
  dsimp only
  rw [if_neg hplain]
  split
  on_goal 2 => split
  all_goals
    refine ⟨_, _, rfl, ?_⟩
    simp only [List.forall_mem_cons, List.not_mem_nil, false_implies, implies_true, and_true,
      UInt8.toNat_ofNat']
    omega

/-- A test that only plain characters pass says the same of a character and of its first octet. -/
theorem test_first (test : Char → Bool) (htest : ∀ c, test c → c.toNat < 0x80) {byte : UInt8}
    {more : Bytes} (hoctets : String.utf8EncodeChar c = byte :: more) :
    test byte.toChar = test c := by
  by_cases hc : c.toNat < 0x80
  · rw [utf8EncodeChar_plain hc] at hoctets
    rw [← (List.cons.inj hoctets).1, toChar_toUInt8 hc]
  · obtain ⟨byte', more', hoctets', hhigh, -⟩ := utf8EncodeChar_high (Nat.le_of_not_lt hc)
    obtain ⟨rfl, -⟩ := List.cons.inj (hoctets.symm.trans hoctets')
    have hfirst : ¬test byte.toChar := by
      intro h
      have hlow := htest _ h
      rw [toNat_toChar] at hlow
      omega
    have hwhole : ¬test c := fun h ↦ hc (htest c h)
    rw [Bool.eq_false_iff.mpr hfirst, Bool.eq_false_iff.mpr hwhole]

end Utf8

namespace Bytes

theorem ofString_eq (s : String) : ofString s = s.toList.flatMap String.utf8EncodeChar := by
  conv_lhs => rw [← String.ofList_toList (s := s)]
  rw [ofString, String.toByteArray_ofList]
  simp [List.utf8Encode]

theorem decodeLossy_ofString (s : String) : Utf8.decodeLossy (ofString s) = s.toList := by
  have h := Utf8.decodeLossy_append s.toList []
  rwa [List.append_nil, ← ofString_eq, Utf8.decodeLossy, List.append_nil] at h

theorem infix_ofString_iff {s t : String} :
    ofString s <:+: ofString t ↔ s.toList <:+: t.toList := by
  rw [ofString_eq, ofString_eq]
  constructor
  · exact Utf8.infix_of_flatMap
  · rintro ⟨before, after, h⟩
    rw [← h, List.flatMap_append, List.flatMap_append]
    exact List.infix_append _ _ _

/-! ## Boundaries -/

theorem getElem?_append_cons (before : Bytes) (byte : UInt8) (rest : Bytes) :
    (before ++ byte :: rest)[before.length]? = some byte := by
  rw [List.getElem?_append_right (Nat.le_refl _), Nat.sub_self, List.getElem?_cons_zero]

/-- Whether a character begins at an offset, or the octets end there. -/
def isBoundary (bytes : Bytes) (i : Nat) : Bool :=
  match bytes[i]? with
  | some byte => byte < 0x80 || 0xC0 ≤ byte
  | none => i = bytes.length

theorem isBoundary_append (before : Bytes) (cs : List Char) :
    (before ++ Utf8.encode cs).isBoundary before.length := by
  cases cs with
  | nil => simp [isBoundary, Utf8.encode]
  | cons c cs =>
      by_cases hc : c.toNat < 0x80
      · have hbyte : c.toUInt8 < 0x80 := by
          rw [UInt8.lt_iff_toNat_lt, ← Utf8.toNat_toChar, Utf8.toChar_toUInt8 hc]
          exact hc
        rw [Utf8.encode_cons, Utf8.utf8EncodeChar_plain hc, isBoundary, List.singleton_append,
          getElem?_append_cons]
        simp [hbyte]
      · obtain ⟨byte, more, hoctets, hhigh, -⟩ := Utf8.utf8EncodeChar_high (Nat.le_of_not_lt hc)
        have hbyte : 0xC0 ≤ byte := UInt8.le_iff_toNat_le.mpr hhigh
        rw [Utf8.encode_cons, hoctets, isBoundary, List.cons_append, getElem?_append_cons]
        simp [hbyte]

end Bytes

end ColumnStore
