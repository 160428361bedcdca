import ColumnStore.Text.Lowercase
import Mathlib.Data.List.Forall2

/-!
# Lower case within a longer text

What stands around a text shows in its lower-case form only at its capital sigmas, and there only if
the text itself leaves it open whether they end a word. So the lower-case form of a text is found in
that of every longer text exactly if no capital sigma of it is left open (`found_iff_decided`).
-/

namespace ColumnStore

namespace Text

/-! ## Neighbours -/

def counts (cs : List Char) : Bool :=
  cs.any fun c ↦ !caseIgnorable.contains c.toNat

/-- Whether the last character that counts is cased after some characters, from whether it is before
them. -/
def casedAfter (before : Bool) : List Char → Bool
  | [] => before
  | c :: cs =>
    casedAfter (if caseIgnorable.contains c.toNat then before else cased.contains c.toNat) cs

theorem casedAfter_append (before : Bool) (cs ds : List Char) :
    casedAfter before (cs ++ ds) = casedAfter (casedAfter before cs) ds := by
  induction cs generalizing before with
  | nil => rfl
  | cons c cs ih => exact ih _

theorem casedAfter_of_counts {cs : List Char} (h : counts cs = true) (before : Bool) :
    casedAfter before cs = casedAfter false cs := by
  induction cs generalizing before with
  | nil => cases h
  | cons c cs ih =>
      rw [casedAfter, casedAfter]
      cases hc : caseIgnorable.contains c.toNat with
      | false => rfl
      | true =>
          rw [counts, List.any_cons, hc, Bool.not_true, Bool.false_or] at h
          exact ih h before

theorem casedAfter_of_not_counts {cs : List Char} (h : counts cs = false) (before : Bool) :
    casedAfter before cs = before := by
  induction cs generalizing before with
  | nil => rfl
  | cons c cs ih =>
      rw [counts, List.any_cons, Bool.or_eq_false_iff, Bool.not_eq_false'] at h
      rw [casedAfter, h.1, if_pos rfl]
      exact ih h.2 before

theorem casedFollows_append_of_counts {cs : List Char} (h : counts cs = true) (ds : List Char) :
    casedFollows (cs ++ ds) = casedFollows cs := by
  induction cs with
  | nil => cases h
  | cons c cs ih =>
      rw [List.cons_append, casedFollows, casedFollows]
      cases hc : caseIgnorable.contains c.toNat with
      | false => rfl
      | true =>
          rw [counts, List.any_cons, hc, Bool.not_true, Bool.false_or] at h
          rw [if_pos rfl, if_pos rfl, ih h]

theorem casedFollows_append_of_not_counts {cs : List Char} (h : counts cs = false)
    (ds : List Char) : casedFollows (cs ++ ds) = casedFollows ds := by
  induction cs with
  | nil => rfl
  | cons c cs ih =>
      rw [counts, List.any_cons, Bool.or_eq_false_iff, Bool.not_eq_false'] at h
      rw [List.cons_append, casedFollows, h.1, if_pos rfl]
      exact ih h.2

/-! ## Lower case between other characters -/

def endsWord (before : Bool) (after : List Char) : Bool :=
  before && !casedFollows after

def lowerBetween (before : Bool) (after : List Char) (c : Char) : List Char :=
  if c = 'Σ' then [if endsWord before after then 'ς' else 'σ'] else lowerChar c

/-- The lower-case form of a text with other characters after it, `before` saying whether the last
character that counts before it is cased. -/
def lowerWithin (before : Bool) (after : List Char) : List Char → List Char
  | [] => []
  | c :: cs => lowerBetween before (cs ++ after) c ++ lowerWithin (casedAfter before [c]) after cs

theorem lowerChars_append (before : Bool) (cs after : List Char) :
    lowerChars before (cs ++ after) =
      lowerWithin before after cs ++ lowerChars (casedAfter before cs) after := by
  induction cs generalizing before with
  | nil => rfl
  | cons c cs ih =>
      rw [List.cons_append, lowerChars, ih, lowerWithin, List.append_assoc]
      rfl

theorem lowerChars_eq (before : Bool) (cs : List Char) :
    lowerChars before cs = lowerWithin before [] cs := by
  have h := lowerChars_append before cs []
  rwa [List.append_nil, lowerChars, List.append_nil] at h

theorem lowerWithin_append (before : Bool) (after cs ds : List Char) :
    lowerWithin before after (cs ++ ds) =
      lowerWithin before (ds ++ after) cs ++ lowerWithin (casedAfter before cs) after ds := by
  induction cs generalizing before with
  | nil => rfl
  | cons c cs ih =>
      rw [List.cons_append, lowerWithin, ih, lowerWithin, List.append_assoc, List.append_assoc]
      rfl

theorem length_lowerWithin (before before' : Bool) (after after' cs : List Char) :
    (lowerWithin before after cs).length = (lowerWithin before' after' cs).length := by
  induction cs generalizing before before' with
  | nil => rfl
  | cons c cs ih =>
      rw [lowerWithin, lowerWithin, List.length_append, List.length_append,
        ih (casedAfter before [c]) (casedAfter before' [c]), lowerBetween, lowerBetween]
      split <;> rfl

/-! ## Sigmas that are decided -/

/-- Whether a sigma between two texts ends a word does not depend on what stands around these. -/
def Decided (p q : List Char) : Prop :=
  casedFollows q = true ∨ counts p = true ∧ (casedAfter false p = false ∨ counts q = true)

/-- No capital sigma of a text is left open. -/
def AllDecided (cs : List Char) : Prop :=
  ∀ p q, cs = p ++ 'Σ' :: q → Decided p q

theorem counts_of_casedFollows {cs : List Char} (h : casedFollows cs = true) : counts cs = true := by
  rw [← Bool.not_eq_false]
  intro hcounts
  have hnone := casedFollows_append_of_not_counts hcounts []
  rw [List.append_nil, h] at hnone
  cases hnone

theorem Decided.endsWord_eq {p q : List Char} (h : Decided p q) (before : Bool)
    (after : List Char) :
    endsWord (casedAfter before p) (q ++ after) = endsWord (casedAfter false p) q := by
  rcases h with hfollows | ⟨hp, hlast | hq⟩
  · have hq := casedFollows_append_of_counts (counts_of_casedFollows hfollows) after
    rw [endsWord, endsWord, hq, hfollows, Bool.not_true, Bool.and_false, Bool.and_false]
  · rw [endsWord, endsWord, casedAfter_of_counts hp, hlast, Bool.false_and, Bool.false_and]
  · rw [endsWord, endsWord, casedAfter_of_counts hp, casedFollows_append_of_counts hq]

theorem lowerWithin_of_decided (before : Bool) (after : List Char) {p cs : List Char}
    (h : ∀ q r, cs = q ++ 'Σ' :: r → Decided (p ++ q) r) :
    lowerWithin (casedAfter before p) after cs = lowerWithin (casedAfter false p) [] cs := by
  -- On the part of the text that is left, with the part before it in `p`.
  induction cs generalizing p with
  | nil => rfl
  | cons c cs ih =>
      have hc : lowerBetween (casedAfter before p) (cs ++ after) c =
          lowerBetween (casedAfter false p) (cs ++ []) c := by
        unfold lowerBetween
        split
        · next hsigma =>
          have hdecided := h [] cs (by rw [hsigma, List.nil_append])
          rw [List.append_nil] at hdecided
          rw [hdecided.endsWord_eq, hdecided.endsWord_eq]
        · rfl
      have hcs := @ih (p ++ [c]) (by
        intro q r hr
        rw [List.append_assoc]
        exact h (c :: q) r (by rw [hr, List.cons_append]))
      rw [casedAfter_append, casedAfter_append] at hcs
      rw [lowerWithin, lowerWithin, hc, hcs]

theorem AllDecided.lowerChars_append {cs : List Char} (h : AllDecided cs) (x y : List Char) :
    lowerChars false (x ++ (cs ++ y)) =
      lowerWithin false (cs ++ y) x ++ (lowerChars false cs ++
        lowerChars (casedAfter (casedAfter false x) cs) y) := by
  have hcs := @lowerWithin_of_decided (casedAfter false x) y [] cs h
  rw [Text.lowerChars_append, Text.lowerChars_append, lowerChars_eq false cs]
  rw [casedAfter, casedAfter] at hcs
  rw [hcs]

/-! ## Sigmas that are left open -/

/-- Some small sigmas of a text are replaced by final ones. -/
def Finalized : List Char → List Char → Prop :=
  List.Forall₂ fun c d ↦ c = d ∨ c = 'σ' ∧ d = 'ς'

theorem Finalized.refl (cs : List Char) : Finalized cs cs :=
  List.forall₂_same.mpr fun _ _ ↦ .inl rfl

theorem Finalized.eq_or_count_lt {cs ds : List Char} (h : Finalized cs ds) :
    cs = ds ∨ cs.count 'ς' < ds.count 'ς' ∧ ds.count 'σ' < cs.count 'σ' := by
  induction h with
  | nil => exact .inl rfl
  | @cons c d cs ds hc _ ih =>
      rcases hc with rfl | ⟨rfl, rfl⟩
      · rcases ih with rfl | ⟨hfinal, hsmall⟩
        · exact .inl rfl
        · refine .inr ?_
          rw [List.count_cons, List.count_cons, List.count_cons, List.count_cons]
          omega
      · refine .inr ?_
        rw [List.count_cons_self, List.count_cons_self, List.count_cons_of_ne (by decide),
          List.count_cons_of_ne (by decide)]
        rcases ih with rfl | ⟨hfinal, hsmall⟩ <;> omega

theorem endsWord_mono {before before' : Bool} {after after' : List Char}
    (hbefore : before = true → before' = true)
    (hafter : casedFollows after' = true → casedFollows after = true) (cs : List Char)
    (h : endsWord before (cs ++ after) = true) : endsWord before' (cs ++ after') = true := by
  rw [endsWord, Bool.and_eq_true, Bool.not_eq_true', ← Bool.not_eq_true] at h ⊢
  refine ⟨hbefore h.1, fun hfollows ↦ h.2 ?_⟩
  cases hcs : counts cs with
  | false =>
      rw [casedFollows_append_of_not_counts hcs] at hfollows ⊢
      exact hafter hfollows
  | true =>
      rw [casedFollows_append_of_counts hcs] at hfollows ⊢
      exact hfollows

theorem finalized_lowerWithin {before before' : Bool} {after after' : List Char}
    (hbefore : before = true → before' = true)
    (hafter : casedFollows after' = true → casedFollows after = true) (cs : List Char) :
    Finalized (lowerWithin before after cs) (lowerWithin before' after' cs) := by
  induction cs generalizing before before' with
  | nil => exact .nil
  | cons c cs ih =>
      rw [lowerWithin, lowerWithin]
      apply List.rel_append
      · unfold lowerBetween
        split
        · apply List.Forall₂.cons _ .nil
          cases hends : endsWord before (cs ++ after) with
          | true => exact .inl (by rw [endsWord_mono hbefore hafter cs hends])
          | false => cases endsWord before' (cs ++ after') <;> simp
        · exact Finalized.refl _
      · apply ih
        rw [casedAfter, casedAfter, casedAfter, casedAfter]
        split
        · exact hbefore
        · exact id

/-- Where a sigma ends a word only in one of two places, the text has different forms there. -/
theorem lowerWithin_ne {before before' : Bool} {after after' p q : List Char}
    (h : endsWord (casedAfter before p) (q ++ after) ≠ endsWord (casedAfter before' p) (q ++ after')) :
    lowerWithin before after (p ++ 'Σ' :: q) ≠ lowerWithin before' after' (p ++ 'Σ' :: q) := by
  intro hsame
  rw [lowerWithin_append, lowerWithin_append] at hsame
  obtain ⟨-, hsame⟩ := List.append_inj hsame (length_lowerWithin _ _ _ _ _)
  rw [lowerWithin, lowerWithin, lowerBetween, lowerBetween, if_pos rfl, if_pos rfl] at hsame
  have hsigma := (List.cons.inj hsame).1
  cases hends : endsWord (casedAfter before p) (q ++ after) <;>
    cases hends' : endsWord (casedAfter before' p) (q ++ after') <;> simp_all

/-! ## A letter -/

set_option maxRecDepth 100000 in
-- The kernel reads the table, once for all.
theorem cased_alpha : cased.contains ('Α').toNat = true := by
  rw [CodePoints.contains_iff, cased, CodePoints.ofTable, CodePoints.mem_ofRanges, CodePoints.words,
    show casedTable = String.ofList _ from rfl, String.toList_ofList, CodePoints.Covers]
  decide +kernel

set_option maxRecDepth 100000 in
theorem not_caseIgnorable_alpha : caseIgnorable.contains ('Α').toNat = false := by
  rw [← Bool.not_eq_true, CodePoints.contains_iff, caseIgnorable, CodePoints.ofTable,
    CodePoints.mem_ofRanges, CodePoints.words, show caseIgnorableTable = String.ofList _ from rfl,
    String.toList_ofList, CodePoints.Covers]
  decide +kernel

theorem lowerChar_alpha : lowerChar 'Α' = ['α'] := by
  decide +kernel

theorem casedFollows_alpha : casedFollows ['Α'] = true := by
  rw [casedFollows, not_caseIgnorable_alpha, cased_alpha]
  rfl

theorem lowerChars_alpha_cons (before : Bool) (cs : List Char) :
    lowerChars before ('Α' :: cs) = 'α' :: lowerChars true cs := by
  rw [lowerChars, if_neg (by decide), lowerChar_alpha, not_caseIgnorable_alpha, cased_alpha]
  rfl

/-! ## Finding a text -/

/-- A sigma at the end of a word is not final any more where the word goes on. -/
theorem not_infix_before_alpha {p q : List Char} (hp : casedAfter false p = true)
    (hq : counts q = false) :
    ¬lowerChars false (p ++ 'Σ' :: q) <:+: lowerChars false (p ++ 'Σ' :: q ++ ['Α']) := by
  intro hinfix
  have hfinalized : Finalized (lowerWithin false ['Α'] (p ++ 'Σ' :: q))
      (lowerWithin false [] (p ++ 'Σ' :: q)) := finalized_lowerWithin id (fun _ ↦ casedFollows_alpha) _
  have hne : lowerWithin false ['Α'] (p ++ 'Σ' :: q) ≠ lowerWithin false [] (p ++ 'Σ' :: q) := by
    apply lowerWithin_ne
    rw [endsWord, endsWord, casedFollows_append_of_not_counts hq,
      casedFollows_append_of_not_counts hq, casedFollows_alpha, hp]
    decide
  have hcount := (hfinalized.eq_or_count_lt.resolve_left hne).1
  have hle := hinfix.sublist.count_le 'ς'
  rw [lowerChars_append false (p ++ 'Σ' :: q), lowerChars_alpha_cons, lowerChars_eq false,
    List.count_append, List.count_cons_of_ne (by decide), lowerChars, List.count_nil,
    Nat.add_zero] at hle
  exact absurd (Nat.lt_of_lt_of_le hcount hle) (Nat.lt_irrefl _)

/-- A sigma that nothing stands before is final where a word stands before it. -/
theorem not_infix_after_alpha {p q : List Char} (hp : counts p = false)
    (hq : casedFollows q = false) :
    ¬lowerChars false (p ++ 'Σ' :: q) <:+: lowerChars false ('Α' :: (p ++ 'Σ' :: q)) := by
  intro hinfix
  have hfinalized : Finalized (lowerWithin false [] (p ++ 'Σ' :: q))
      (lowerWithin true [] (p ++ 'Σ' :: q)) := finalized_lowerWithin (fun _ ↦ rfl) id _
  have hne : lowerWithin false [] (p ++ 'Σ' :: q) ≠ lowerWithin true [] (p ++ 'Σ' :: q) := by
    apply lowerWithin_ne
    rw [endsWord, endsWord, casedAfter_of_not_counts hp, casedAfter_of_not_counts hp,
      List.append_nil, hq]
    decide
  have hcount := (hfinalized.eq_or_count_lt.resolve_left hne).2
  have hle := hinfix.sublist.count_le 'σ'
  rw [lowerChars_alpha_cons, lowerChars_eq, lowerChars_eq, List.count_cons_of_ne (by decide)] at hle
  exact absurd (Nat.lt_of_lt_of_le hcount hle) (Nat.lt_irrefl _)

theorem found_iff_decided (cs : List Char) :
    (∀ x y, lowerChars false cs <:+: lowerChars false (x ++ (cs ++ y))) ↔ AllDecided cs := by
  constructor
  · rintro hfound p q rfl
    by_contra hopen
    rw [Decided, not_or, not_and_or, not_or] at hopen
    obtain ⟨hfollows, hp | ⟨hlast, hq⟩⟩ := hopen
    · rw [Bool.not_eq_true] at hp hfollows
      have hafter := hfound ['Α'] []
      rw [List.append_nil] at hafter
      exact not_infix_after_alpha hp hfollows hafter
    · rw [Bool.not_eq_false] at hlast
      rw [Bool.not_eq_true] at hq
      exact not_infix_before_alpha hlast hq (hfound [] ['Α'])
  · intro h x y
    rw [h.lowerChars_append x y]
    exact List.infix_append' _ _ _

end Text

end ColumnStore
