import ColumnStore.Text.Blank
import ColumnStore.Text.Fields
import ColumnStore.Text.Integer
import Mathlib.Data.List.TakeWhile
import Mathlib.Tactic.IntervalCases

/-!
# Texts of settings

Trimming leaves nothing of blank texts alone, cutting loses just the separators, and a number that is
written in decimal digits is read back as the same number.
-/

namespace ColumnStore

namespace Text

/-! ## Trimming -/

theorem trimChars_eq_nil_iff (cs : List Char) : trimChars cs = [] ↔ ∀ c ∈ cs, isBlank c := by
  rw [trimChars, List.reverse_eq_nil_iff, List.dropWhile_eq_nil_iff]
  constructor
  · intro h c hc
    rw [← @List.takeWhile_append_dropWhile _ isBlank cs] at hc
    rcases List.mem_append.mp hc with hc | hc
    · exact List.mem_takeWhile_imp hc
    · exact h c (List.mem_reverse.mpr hc)
  · intro h c hc
    exact h c (List.dropWhile_subset _ (List.mem_reverse.mp hc))

theorem isAllBlank_iff (s : String) : isAllBlank s ↔ ∀ c ∈ s.toList, isBlank c :=
  List.all_eq_true

theorem isEmpty_trim_iff (s : String) : (trim s).isEmpty ↔ isAllBlank s := by
  rw [isAllBlank_iff, ← trimChars_eq_nil_iff, trim, String.isEmpty_iff, ← String.toList_eq_nil_iff,
    String.toList_ofList]

theorem trimChars_of_not_blank {cs : List Char} (h : ∀ c ∈ cs, ¬isBlank c) : trimChars cs = cs := by
  have hkeep : ∀ ds : List Char, (∀ c ∈ ds, ¬isBlank c) → ds.dropWhile isBlank = ds := by
    intro ds hds
    cases ds with
    | nil => rfl
    | cons d ds => exact List.dropWhile_cons_of_neg (hds d List.mem_cons_self)
  rw [trimChars, hkeep cs h, hkeep, List.reverse_reverse]
  intro c hc
  exact h c (List.mem_reverse.mp hc)

/-! ## Cutting -/

/-- Just the separators are lost. -/
theorem flatten_fields (separator : Char) (cs : List Char) :
    (fields separator cs).flatten = cs.filter (· ≠ separator) := by
  induction cs with
  | nil => rfl
  | cons c cs ih =>
      rw [fields]
      split
      · next hc => rw [List.flatten_cons, List.nil_append, ih, List.filter_cons_of_neg (by simp [hc])]
      · next hc =>
        rw [List.filter_cons_of_pos (by simp [hc]), ← ih]
        split
        · next hnil => exact absurd hnil (fields_ne_nil separator cs)
        · next hfields => rw [hfields, List.flatten_cons, List.flatten_cons, List.cons_append]

/-- All parts are blank exactly if the text has nothing but separators and white space. -/
theorem filter_trim_split_eq_nil_iff (separator : Char) (s : String) :
    ((split separator s).map trim).filter (!·.isEmpty) = [] ↔
      ∀ c ∈ s.toList, c = separator ∨ isBlank c := by
  have hfilter : ((split separator s).map trim).filter (!·.isEmpty) = [] ↔
      ∀ c ∈ (fields separator s.toList).flatten, isBlank c := by
    simp only [split, List.filter_eq_nil_iff, List.mem_map, Bool.not_eq_true', Bool.not_eq_false,
      forall_exists_index, and_imp, forall_apply_eq_imp_iff₂, isEmpty_trim_iff, isAllBlank_iff,
      String.toList_ofList, List.mem_flatten]
    constructor
    · intro h c part hpart hc
      exact h part hpart c hc
    · intro h part hpart c hc
      exact h c part hpart hc
  rw [hfilter, flatten_fields]
  simp only [List.mem_filter, decide_eq_true_eq, and_imp]
  constructor
  · intro h c hc
    by_cases hsep : c = separator
    · exact .inl hsep
    · exact .inr (h c hc hsep)
  · intro h c hc hne
    exact (h c hc).resolve_left hne

/-! ## Numbers in decimal digits -/

theorem digit?_digitChar {d : Nat} (h : d < 10) : digit? d.digitChar = some d := by
  interval_cases d <;> rfl

theorem readDigits_append {bound v w : Nat} {cs : List Char} (h : readDigits bound v cs = .ok w)
    (ds : List Char) : readDigits bound v (cs ++ ds) = readDigits bound w ds := by
  induction cs generalizing v with
  | nil =>
      cases h
      rfl
  | cons c cs ih =>
      rw [readDigits] at h
      rw [List.cons_append, readDigits]
      cases hdigit : digit? c with
      | none =>
          rw [hdigit] at h
          cases h
      | some d =>
          simp only [hdigit] at h
          split at h
          · next hfits => simp only [if_pos hfits, ih h]
          · cases h

theorem readDigits_toDigits {bound n : Nat} (h : n ≤ bound) :
    readDigits bound 0 (Nat.toDigits 10 n) = .ok n := by
  -- The digits but the last one are those of a tenth of the number.
  induction n using Nat.strongRecOn with
  | ind n ih =>
      rcases Nat.lt_or_ge n 10 with hsmall | hlarge
      · rw [Nat.toDigits_of_lt_base hsmall]
        simp [readDigits, digit?_digitChar hsmall, h]
      · have hdigit : digit? (n % 10).digitChar = some (n % 10) :=
          digit?_digitChar (Nat.mod_lt n (by decide))
        have hfront : readDigits bound 0 (Nat.toDigits 10 (n / 10)) = .ok (n / 10) := by
          apply ih
          · omega
          · omega
        have hvalue : n / 10 * 10 + n % 10 = n := by omega
        rw [Nat.toDigits_of_base_le (by decide) hlarge, readDigits_append hfront]
        simp [readDigits, hdigit, hvalue, h]

theorem readUnsigned_toDigits {bound n : Nat} (h : n ≤ bound) :
    readUnsigned bound (Nat.toDigits 10 n) = .ok n := by
  have hread := readDigits_toDigits h
  have hdigits : ∀ c ∈ Nat.toDigits 10 n, c.isDigit := by
    intro c hc
    exact Nat.isDigit_of_mem_toDigits (by decide) (by decide) hc
  -- A number is not empty, and its first digit is no sign.
  unfold readUnsigned
  split
  · next hnil => exact absurd hnil Nat.toDigits_ne_nil
  · next hplus => exact absurd (hdigits '+' (hplus ▸ List.mem_cons_self)) (by decide)
  · next hplus => exact absurd (hdigits '+' (hplus ▸ List.mem_cons_self)) (by decide)
  · exact hread

theorem not_isBlank_of_isDigit {c : Char} (h : c.isDigit) : ¬isBlank c := by
  have hdigit : 48 ≤ c.toNat ∧ c.toNat ≤ 57 := Char.isDigit_iff_toNat.mp h
  simp only [isBlank, Bool.or_eq_true, Bool.and_eq_true, decide_eq_true_eq, beq_iff_eq]
  omega

theorem trim_repr (n : Nat) : trim n.repr = n.repr := by
  rw [trim, Nat.toList_repr, trimChars_of_not_blank, ← Nat.repr_eq_ofList_toDigits]
  intro c hc
  exact not_isBlank_of_isDigit (Nat.isDigit_of_mem_toDigits (by decide) (by decide) hc)

theorem readUInt16_trim_repr (n : UInt16) : readUInt16 (trim n.toNat.repr) = .ok n := by
  have hbound : n.toNat ≤ 65535 := Nat.le_of_lt_succ n.toNat_lt
  rw [trim_repr, readUInt16, Nat.toList_repr, readUnsigned_toDigits hbound, Except.map,
    UInt16.ofNat_toNat]

theorem readUInt32_trim_repr (n : UInt32) : readUInt32 (trim n.toNat.repr) = .ok n := by
  have hbound : n.toNat ≤ 4294967295 := Nat.le_of_lt_succ n.toNat_lt
  rw [trim_repr, readUInt32, Nat.toList_repr, readUnsigned_toDigits hbound, Except.map,
    UInt32.ofNat_toNat]

end Text

end ColumnStore
