import ColumnStore.Text.Lowercase

/-!
# Lower case is reached at once

No lower-case form is a character that has another one (`settled_of_mem_lowerChar`), and so a text
in lower case stays as it is (`lowercase_lowercase`).
-/

namespace ColumnStore

namespace Text

/-! ## Runs -/

namespace CaseRun

/-- No lower-case form of a run is in another one, because they lie apart or because one has only odd
and the other only even code points. -/
def avoids (r s : CaseRun) : Bool :=
  (r.lower + (r.last - r.first)).blt s.first || s.last.blt r.lower ||
    ((r.last == r.first || r.step % 2 == 0) && s.step % 2 == 0 && (r.lower + s.first) % 2 == 1)

theorem contains_iff {r : CaseRun} {n : Nat} :
    r.contains n = true ↔ r.first ≤ n ∧ n ≤ r.last ∧ (n - r.first) % r.step = 0 := by
  simp [contains, and_assoc]

theorem not_contains_lowerOf {r s : CaseRun} (h : r.avoids s = true) {n : Nat}
    (hn : r.contains n = true) : s.contains (r.lowerOf n) = false := by
  simp only [avoids, Bool.or_eq_true, Bool.and_eq_true, Nat.blt_eq, beq_iff_eq] at h
  rw [Bool.eq_false_iff]
  intro hcontains
  obtain ⟨hfirst, hlast, hstep⟩ := contains_iff.mp hn
  obtain ⟨hafter, hbefore, hmember⟩ := contains_iff.mp hcontains
  simp only [lowerOf] at hafter hbefore hmember
  rcases h with (hless | hgreater) | ⟨⟨hparity, heven⟩, hodd⟩
  · omega
  · omega
  · have hform : (r.lower + (n - r.first) - s.first) % 2 = 0 :=
      Nat.mod_eq_zero_of_dvd (Nat.dvd_trans (Nat.dvd_of_mod_eq_zero heven)
        (Nat.dvd_of_mod_eq_zero hmember))
    have hplace : (n - r.first) % 2 = 0 := by
      rcases hparity with hone | htwo
      · omega
      · exact Nat.mod_eq_zero_of_dvd (Nat.dvd_trans (Nat.dvd_of_mod_eq_zero htwo)
          (Nat.dvd_of_mod_eq_zero hstep))
    omega

end CaseRun

/-- The one character whose lower-case form is not a single character, as a run. -/
def dottedRun : CaseRun := ⟨0x130, 0x130, 2, 0x69⟩

-- One computation over all pairs of runs; the kernel does it in a few seconds.
theorem caseRuns_avoid :
    caseRuns.all (fun r ↦ (dottedRun :: caseRuns).all fun s ↦ r.avoids s) = true := by
  decide +kernel

/-! ## Characters -/

def settledAt (n : Nat) : Bool :=
  (dottedRun :: caseRuns).all fun s ↦ !s.contains n

theorem settledAt_lowerOf {r : CaseRun} (hr : r ∈ caseRuns) {n : Nat} (hn : r.contains n = true) :
    settledAt (r.lowerOf n) = true := by
  refine List.all_eq_true.mpr fun s hs ↦ ?_
  have havoids := List.all_eq_true.mp (List.all_eq_true.mp caseRuns_avoid r hr) s hs
  rw [CaseRun.not_contains_lowerOf havoids hn, Bool.not_false]

/-- The run of the letters A to Z, the only one among the first 128 code points. -/
def asciiRun : CaseRun := ⟨0x41, 0x5a, 1, 0x61⟩

theorem first_of_tail_caseRuns : (dottedRun :: caseRuns.tail).all (fun s ↦ 0x80 ≤ s.first) = true := by
  decide +kernel

theorem settledAt_of_lt {n : Nat} (hn : n < 0x80) : settledAt n = !asciiRun.contains n := by
  have hothers : ∀ s ∈ dottedRun :: caseRuns.tail, s.contains n = false := by
    intro s hs
    have hfirst := of_decide_eq_true (List.all_eq_true.mp first_of_tail_caseRuns s hs)
    rw [Bool.eq_false_iff]
    intro hcontains
    have hle := (CaseRun.contains_iff.mp hcontains).1
    omega
  obtain ⟨hdotted, htail⟩ := List.forall_mem_cons.mp hothers
  have hruns : caseRuns = asciiRun :: caseRuns.tail := rfl
  have hall : (caseRuns.tail.all fun s ↦ !s.contains n) = true := by
    refine List.all_eq_true.mpr fun s hs ↦ ?_
    rw [htail s hs, Bool.not_false]
  rw [settledAt, hruns, List.all_cons, List.all_cons, hdotted, hall]
  simp

theorem toLower_of_lt : ∀ n < 0x80, (Char.ofNat n).toLower.toNat < 0x80 ∧
    asciiRun.contains (Char.ofNat n).toLower.toNat = false ∧
    (asciiRun.contains n = false → (Char.ofNat n).toLower = Char.ofNat n) := by
  decide +kernel

def Settled (c : Char) : Prop :=
  settledAt c.toNat = true

instance : DecidablePred Settled := fun c ↦
  inferInstanceAs (Decidable (settledAt c.toNat = true))

theorem settled_ofNat {n : Nat} (h : settledAt n = true) : Settled (Char.ofNat n) := by
  rw [Settled]
  by_cases hvalid : n.isValidChar
  · have hnat : (Char.ofNat n).toNat = n := by
      rw [Char.ofNat, dif_pos hvalid]
      rfl
    rw [hnat]
    exact h
  · have hzero : (Char.ofNat n).toNat = 0 := by
      rw [Char.ofNat, dif_neg hvalid]
      rfl
    rw [hzero]
    decide +kernel

theorem Settled.find?_eq_none {c : Char} (h : Settled c) :
    caseRuns.find? (·.contains c.toNat) = none := by
  refine List.find?_eq_none.mpr fun s hs ↦ ?_
  have hs' := List.all_eq_true.mp h s (List.mem_cons_of_mem _ hs)
  simpa using hs'

theorem Settled.ne_dotted {c : Char} (h : Settled c) : c ≠ 'İ' := by
  rintro rfl
  exact absurd h (by decide +kernel)

theorem Settled.ne_sigma {c : Char} (h : Settled c) : c ≠ 'Σ' := by
  rintro rfl
  exact absurd h (by decide +kernel)

theorem settled_of_find? {c : Char} (hdotted : c ≠ 'İ')
    (hnone : caseRuns.find? (·.contains c.toNat) = none) : Settled c := by
  refine List.all_eq_true.mpr fun s hs ↦ ?_
  rcases List.mem_cons.mp hs with rfl | hs
  · rw [Bool.not_eq_true', Bool.eq_false_iff]
    intro hcontains
    obtain ⟨hfirst, hlast, -⟩ := CaseRun.contains_iff.mp hcontains
    have hnat : c.toNat = ('İ').toNat := Nat.le_antisymm hlast hfirst
    exact hdotted (Char.toNat_inj.mp hnat)
  · simpa using List.find?_eq_none.mp hnone s hs

theorem settled_of_mem_lowerChar {c d : Char} (h : d ∈ lowerChar c) : Settled d := by
  unfold lowerChar at h
  split at h
  · next hascii =>
    rw [List.mem_singleton.mp h]
    obtain ⟨hlt, hlower, -⟩ := toLower_of_lt c.toNat hascii
    rw [Char.ofNat_toNat] at hlt hlower
    rw [Settled, settledAt_of_lt hlt, hlower, Bool.not_false]
  · split at h
    · rcases List.mem_cons.mp h with rfl | hdot
      · decide +kernel
      · rw [List.mem_singleton.mp hdot]
        decide +kernel
    · next hdotted =>
      split at h
      · next run hrun =>
        rw [List.mem_singleton.mp h]
        have hcontains : run.contains c.toNat = true := by
          simpa using List.find?_some hrun
        exact settled_ofNat (settledAt_lowerOf (List.mem_of_find?_eq_some hrun) hcontains)
      · next hnone =>
        rw [List.mem_singleton.mp h]
        exact settled_of_find? hdotted hnone

theorem Settled.lowerChar_eq {c : Char} (h : Settled c) : lowerChar c = [c] := by
  unfold lowerChar
  split
  · next hascii =>
    obtain ⟨-, -, hlower⟩ := toLower_of_lt c.toNat hascii
    rw [Settled, settledAt_of_lt hascii, Bool.not_eq_true'] at h
    rw [Char.ofNat_toNat] at hlower
    rw [hlower h]
  · rw [if_neg h.ne_dotted, h.find?_eq_none]

/-! ## Texts -/

theorem settled_of_mem_lowerChars {before : Bool} {cs : List Char} {d : Char}
    (h : d ∈ lowerChars before cs) : Settled d := by
  induction cs generalizing before with
  | nil => cases h
  | cons c cs ih =>
      rw [lowerChars] at h
      rcases List.mem_append.mp h with hform | hrest
      · split at hform
        · rw [List.mem_singleton.mp hform]
          split <;> decide +kernel
        · exact settled_of_mem_lowerChar hform
      · exact ih hrest

theorem lowerChars_of_settled {before : Bool} {cs : List Char} (h : ∀ c ∈ cs, Settled c) :
    lowerChars before cs = cs := by
  induction cs generalizing before with
  | nil => rfl
  | cons c cs ih =>
      obtain ⟨hc, hcs⟩ := List.forall_mem_cons.mp h
      rw [lowerChars, if_neg hc.ne_sigma, hc.lowerChar_eq, ih hcs, List.singleton_append]

theorem lowercase_lowercase (s : String) : lowercase (lowercase s) = lowercase s := by
  have hsettled : ∀ c ∈ lowerChars false s.toList, Settled c :=
    fun c hc ↦ settled_of_mem_lowerChars hc
  rw [lowercase, lowercase, String.toList_ofList, lowerChars_of_settled hsettled]

end Text

end ColumnStore
