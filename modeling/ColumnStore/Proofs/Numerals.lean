import ColumnStore.Proofs.PlainText

/-!
# Numerals

The texts that are read as numbers are decimal digits, perhaps after a plus sign, with a value within the
bound (`readUnsigned_eq_ok_iff`). Trimming takes away just the white space around a text that neither
begins nor ends with it (`trim_margins`).
-/

namespace ColumnStore

namespace Text

/-- A text is a number in decimal digits, perhaps after a plus sign. Zeros may come first. -/
def Numeral (s : String) (n : Nat) : Prop :=
  ∃ ds, (s.toList = ds ∨ s.toList = '+' :: ds) ∧ ds ≠ [] ∧ (∀ c ∈ ds, c.isDigit) ∧
    Nat.ofDigitChars 10 ds 0 = n

/-! ## Reading -/

theorem digit?_eq (c : Char) : digit? c = if c.isDigit then some (c.toNat - '0'.toNat) else none := by
  have hdigit : ('0' ≤ c ∧ c ≤ '9') ↔ c.isDigit := by
    rw [Char.isDigit_iff_toNat]
    rfl
  simp only [digit?, hdigit]
  rfl

theorem le_ofDigitChars (cs : List Char) (n : Nat) : n ≤ Nat.ofDigitChars 10 cs n := by
  rw [Nat.ofDigitChars_eq_ofDigitChars_zero]
  have hpow : 1 * n ≤ 10 ^ cs.length * n := Nat.mul_le_mul_right n (Nat.pow_pos (by decide))
  omega

/-- Digits are read on from the number that was read so far, as long as it stays within the bound. -/
theorem readDigits_eq_ok_iff {bound v n : Nat} {cs : List Char} (hv : v ≤ bound) :
    readDigits bound v cs = .ok n ↔
      (∀ c ∈ cs, c.isDigit) ∧ Nat.ofDigitChars 10 cs v = n ∧ n ≤ bound := by
  induction cs generalizing v with
  | nil =>
      rw [readDigits, Nat.ofDigitChars_nil, Except.ok.injEq]
      constructor
      · rintro rfl
        exact ⟨by simp, rfl, hv⟩
      · exact fun h ↦ h.2.1
  | cons c cs ih =>
      rw [readDigits, digit?_eq, List.forall_mem_cons, Nat.ofDigitChars_cons, Nat.mul_comm 10 v]
      by_cases hc : c.isDigit
      · simp only [hc, if_true, true_and]
        split
        · next hfits => exact ih hfits
        · next hlarge =>
          -- The number only grows, so a beginning that is too large cannot be made good.
          have hgrow := le_ofDigitChars cs (v * 10 + (c.toNat - '0'.toNat))
          constructor
          · intro h
            cases h
          · rintro ⟨-, rfl, hle⟩
            omega
      · simp [hc]

theorem readUnsigned_plus (bound : Nat) {ds : List Char} (h : ds ≠ []) :
    readUnsigned bound ('+' :: ds) = readDigits bound 0 ds := by
  cases ds with
  | nil => exact absurd rfl h
  | cons d ds => rfl

theorem readUnsigned_of_ne_plus (bound : Nat) {ds : List Char} (h : ds ≠ []) (hplus : '+' ∉ ds.head?) :
    readUnsigned bound ds = readDigits bound 0 ds := by
  unfold readUnsigned
  split
  · exact absurd rfl h
  · exact absurd rfl hplus
  · exact absurd rfl hplus
  · rfl

/-- A text is read as a number exactly if it is a numeral of that number, and within the bound. -/
theorem readUnsigned_eq_ok_iff {bound n : Nat} {s : String} :
    readUnsigned bound s.toList = .ok n ↔ Numeral s n ∧ n ≤ bound := by
  have hread (ds : List Char) : readDigits bound 0 ds = .ok n ↔ _ :=
    readDigits_eq_ok_iff (Nat.zero_le bound)
  constructor
  · intro h
    by_cases hplus : '+' ∈ s.toList.head?
    · obtain ⟨ds, hds⟩ : ∃ ds, s.toList = '+' :: ds := List.head?_eq_some_iff.mp hplus
      have hne : ds ≠ [] := by
        rintro rfl
        rw [hds] at h
        cases h
      rw [hds, readUnsigned_plus bound hne, hread] at h
      exact ⟨⟨ds, .inr hds, hne, h.1, h.2.1⟩, h.2.2⟩
    · have hne : s.toList ≠ [] := by
        intro hnil
        rw [hnil] at h
        cases h
      rw [readUnsigned_of_ne_plus bound hne hplus, hread] at h
      exact ⟨⟨_, .inl rfl, hne, h.1, h.2.1⟩, h.2.2⟩
  · rintro ⟨⟨ds, rfl | hds, hne, hdigits, hvalue⟩, hle⟩
    · have hplus : '+' ∉ s.toList.head? := by
        intro hplus
        exact absurd (hdigits '+' (List.mem_of_mem_head? hplus)) (by decide)
      rw [readUnsigned_of_ne_plus bound hne hplus, hread]
      exact ⟨hdigits, hvalue, hle⟩
    · rw [hds, readUnsigned_plus bound hne, hread]
      exact ⟨hdigits, hvalue, hle⟩

/-- A number of a type with some bound is read just from its numerals. -/
theorem map_readUnsigned_eq_ok_iff {α : Type} {bound n : Nat} {s : String} {f : Nat → α} {a : α}
    (hf : ∀ k ≤ bound, f k = a ↔ k = n) (hn : n ≤ bound) :
    (readUnsigned bound s.toList).map f = .ok a ↔ Numeral s n := by
  have hnumeral : readUnsigned bound s.toList = .ok n ↔ Numeral s n := by
    rw [readUnsigned_eq_ok_iff]
    exact and_iff_left hn
  rw [← hnumeral]
  cases hread : readUnsigned bound s.toList with
  | error fault => simp [Except.map]
  | ok k => simpa [Except.map] using hf k (readUnsigned_eq_ok_iff.mp hread).2

theorem readUInt16_eq_ok_iff {s : String} {n : UInt16} : readUInt16 s = .ok n ↔ Numeral s n.toNat := by
  refine map_readUnsigned_eq_ok_iff (fun k hk ↦ ?_) (Nat.le_of_lt_succ n.toNat_lt)
  constructor
  · rintro rfl
    exact (UInt16.toNat_ofNat_of_lt' (Nat.lt_succ_of_le hk)).symm
  · rintro rfl
    exact UInt16.ofNat_toNat

theorem readUInt32_eq_ok_iff {s : String} {n : UInt32} : readUInt32 s = .ok n ↔ Numeral s n.toNat := by
  refine map_readUnsigned_eq_ok_iff (fun k hk ↦ ?_) (Nat.le_of_lt_succ n.toNat_lt)
  constructor
  · rintro rfl
    exact (UInt32.toNat_ofNat_of_lt' (Nat.lt_succ_of_le hk)).symm
  · rintro rfl
    exact UInt32.ofNat_toNat

theorem numeral_repr (n : Nat) : Numeral n.repr n := by
  refine ⟨Nat.toDigits 10 n, .inl Nat.toList_repr, Nat.toDigits_ne_nil, fun c hc ↦ ?_,
    Nat.ofDigitChars_ten_toDigits⟩
  exact Nat.isDigit_of_mem_toDigits (by decide) (by decide) hc

/-! ## Characters of numerals -/

theorem Numeral.ne_empty {s : String} {n : Nat} (h : Numeral s n) : s.toList ≠ [] := by
  obtain ⟨ds, hs | hs, hne, -⟩ := h
  · exact hs ▸ hne
  · simp [hs]

theorem Numeral.mem {s : String} {n : Nat} (h : Numeral s n) {c : Char} (hc : c ∈ s.toList) :
    c.isDigit ∨ c = '+' := by
  obtain ⟨ds, rfl | hs, -, hdigits, -⟩ := h
  · exact .inl (hdigits c hc)
  · rw [hs] at hc
    rcases List.mem_cons.mp hc with rfl | hc
    · exact .inr rfl
    · exact .inl (hdigits c hc)

theorem Numeral.not_isBlank {s : String} {n : Nat} (h : Numeral s n) {c : Char} (hc : c ∈ s.toList) :
    ¬isBlank c := by
  rcases h.mem hc with hdigit | rfl
  · exact not_isBlank_of_isDigit hdigit
  · decide

theorem Numeral.not_mem {s : String} {n : Nat} (h : Numeral s n) {c : Char} (hdigit : ¬c.isDigit)
    (hplus : c ≠ '+') : c ∉ s.toList := by
  intro hc
  exact (h.mem hc).elim hdigit hplus

/-! ## Trimming -/

/-- A text neither begins nor ends with white space. -/
def Trimmed (cs : List Char) : Prop :=
  (∀ c ∈ cs.head?, ¬isBlank c) ∧ ∀ c ∈ cs.getLast?, ¬isBlank c

theorem dropWhile_isBlank_append {before cs : List Char} (hbefore : ∀ c ∈ before, isBlank c)
    (h : ∀ c ∈ cs.head?, ¬isBlank c) : (before ++ cs).dropWhile isBlank = cs := by
  rw [List.dropWhile_append_of_pos hbefore]
  cases cs with
  | nil => rfl
  | cons c cs => exact List.dropWhile_cons_of_neg (h c rfl)

theorem trimChars_margins {before cs after : List Char} (hbefore : ∀ c ∈ before, isBlank c)
    (h : Trimmed cs) (hafter : ∀ c ∈ after, isBlank c) : trimChars (before ++ (cs ++ after)) = cs := by
  cases cs with
  | nil =>
      rw [trimChars_eq_nil_iff, List.nil_append, List.forall_mem_append]
      exact ⟨hbefore, hafter⟩
  | cons c cs =>
      have hlast : ∀ d ∈ (c :: cs).reverse.head?, ¬isBlank d := by
        rw [List.head?_reverse]
        exact h.2
      have hhead : ∀ d ∈ (c :: cs ++ after).head?, ¬isBlank d := h.1
      have hafter' : ∀ d ∈ after.reverse, isBlank d := fun d hd ↦ hafter d (List.mem_reverse.mp hd)
      rw [trimChars, dropWhile_isBlank_append hbefore hhead, List.reverse_append,
        dropWhile_isBlank_append hafter' hlast, List.reverse_reverse]

theorem trim_margins {before s after : String} (hbefore : isAllBlank before) (h : Trimmed s.toList)
    (hafter : isAllBlank after) : trim (before ++ s ++ after) = s := by
  rw [trim, String.toList_append, String.toList_append, List.append_assoc,
    trimChars_margins ((isAllBlank_iff before).mp hbefore) h ((isAllBlank_iff after).mp hafter),
    String.ofList_toList]

theorem trimmed_of_not_blank {cs : List Char} (h : ∀ c ∈ cs, ¬isBlank c) : Trimmed cs :=
  ⟨fun _ hc ↦ h _ (List.mem_of_mem_head? hc), fun _ hc ↦ h _ (List.mem_of_mem_getLast? hc)⟩

theorem Numeral.trimmed {s : String} {n : Nat} (h : Numeral s n) : Trimmed s.toList :=
  trimmed_of_not_blank fun _ ↦ h.not_isBlank

end Text

end ColumnStore
