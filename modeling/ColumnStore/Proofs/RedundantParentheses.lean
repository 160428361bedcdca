import ColumnStore.Proofs.FilterEquivalence
import ColumnStore.Proofs.FilterRoundTrip
import ColumnStore.Proofs.PlainText
import ColumnStore.Proofs.ScanEquivalence

/-!
# Parentheses that can be left out

Parentheses are redundant around what could stand in their place as it is, and around some operands of
the chain that they are in (`Unwraps`). Leaving them out gives another expression of the grammar, whose
filter differs in the grouping of operands at most (`Unwraps.derives`), so scans with the two do the same.
-/

namespace ColumnStore

namespace Filter

def enclosed (ts : List Token) : List Token :=
  .openParen :: (ts ++ [.closeParen])

def chained (c : Connective) : List (List Token) → List Token
  | [] => []
  | first :: others => first ++ others.flatMap (.word c.word :: ·)

/-- What operands are joined to. One operand alone is not joined to anything. -/
def Connective.joined (c : Connective) : List Filter → Filter
  | [f] => f
  | fs => c.combine fs

theorem alike_joined (c : Connective) (fs : List Filter) : Alike (c.joined fs) (c.combine fs) := by
  match fs with
  | [] => exact .refl _
  | [f] =>
      constructor
      · intro row place cell
        rw [keeps_combine, Connective.joined]
        cases c <;> simp [Connective.answer]
      · rw [stripsValues_combine, Connective.joined]
        simp
  | _ :: _ :: _ => exact .refl _

/-! ## Deriving chains -/

theorem derives_chained {c : Connective} {parts : List Phrase} (hparts : parts ≠ [])
    (h : ∀ p ∈ parts, Derives c.operand p.tokens p.meaning) :
    Derives (.chain c) (chained c (parts.map Phrase.tokens))
      (c.joined (parts.map Phrase.meaning)) := by
  match parts with
  | [] => exact absurd rfl hparts
  | [p] =>
      simp only [List.map_cons, List.map_nil, chained, List.flatMap_nil, List.append_nil]
      exact .single (h p List.mem_cons_self)
  | first :: second :: others =>
      have hchain := Derives.chain (List.cons_ne_nil second others) h
      have htokens : (second :: others).flatMap (Phrase.joined c) =
          ((second :: others).map Phrase.tokens).flatMap (.word c.word :: ·) := by
        rw [List.flatMap_map]
        rfl
      rw [htokens] at hchain
      exact hchain

theorem Derives.enclosed {s : Symbol} {ts : List Token} {f : Filter} (h : Derives s ts f) :
    Derives s (enclosed ts) f := by
  have hor : Derives (.chain .or) ts f → Derives .unary (Filter.enclosed ts) f :=
    fun h ↦ .primary (.parens h)
  match s with
  | .chain .or => exact (hor h).chain_of_unary
  | .chain .and => exact .single (c := .and) (hor (.single (c := .or) h))
  | .unary => exact hor h.chain_of_unary
  | .primary => exact .parens (Derives.primary h).chain_of_unary

theorem Derives.enclosed_operand {c : Connective} {ts : List Token} {f : Filter}
    (h : Derives (.chain c) ts f) : Derives c.operand (Filter.enclosed ts) f := by
  cases c with
  | or => exact .single (c := .and) (.primary (.parens h))
  | and => exact .primary (.parens (.single (c := .or) h))

/-! ## Redundant parentheses -/

/-- The tokens of a phrase become others by leaving out one pair of redundant parentheses. -/
inductive Unwraps : Symbol → List Token → List Token → Prop
  /-- Around what could stand in the same place by itself. -/
  | whole {s : Symbol} {ts : List Token} {f : Filter} (h : Derives s ts f) :
    Unwraps s (enclosed ts) ts
  /-- Around some operands of a chain. -/
  | operands {c : Connective} {before inner after : List Phrase} (hinner : inner ≠ [])
      (h : ∀ p ∈ before ++ inner ++ after, Derives c.operand p.tokens p.meaning) :
    Unwraps (.chain c)
      (chained c (before.map Phrase.tokens ++
        enclosed (chained c (inner.map Phrase.tokens)) :: after.map Phrase.tokens))
      (chained c ((before ++ inner ++ after).map Phrase.tokens))
  | operand {c : Connective} {before after : List Phrase} {ts us : List Token}
      (hothers : ∀ p ∈ before ++ after, Derives c.operand p.tokens p.meaning)
      (h : Unwraps c.operand ts us) :
    Unwraps (.chain c) (chained c (before.map Phrase.tokens ++ ts :: after.map Phrase.tokens))
      (chained c (before.map Phrase.tokens ++ us :: after.map Phrase.tokens))
  | skip {ts us : List Token} (h : Unwraps .unary ts us) :
    Unwraps .unary (.word "SKIP" :: ts) (.word "SKIP" :: us)
  | primary {ts us : List Token} (h : Unwraps .primary ts us) : Unwraps .unary ts us
  | parens {ts us : List Token} (h : Unwraps (.chain .or) ts us) :
    Unwraps .primary (enclosed ts) (enclosed us)

theorem Derives.operand {c : Connective} {before after : List Phrase} {ts : List Token} {f : Filter}
    (hothers : ∀ p ∈ before ++ after, Derives c.operand p.tokens p.meaning)
    (h : Derives c.operand ts f) :
    Derives (.chain c) (chained c (before.map Phrase.tokens ++ ts :: after.map Phrase.tokens))
      (c.joined (before.map Phrase.meaning ++ f :: after.map Phrase.meaning)) := by
  have hparts : ∀ p ∈ before ++ ⟨ts, f⟩ :: after, Derives c.operand p.tokens p.meaning := by
    intro p hp
    rcases List.mem_append.mp hp with hbefore | hp
    · exact hothers p (List.mem_append_left after hbefore)
    · rcases List.mem_cons.mp hp with rfl | hafter
      · exact h
      · exact hothers p (List.mem_append_right before hafter)
  have hchain := derives_chained (by simp) hparts
  rwa [List.map_append, List.map_cons, List.map_append, List.map_cons] at hchain

/-- Leaving out redundant parentheses changes the grouping of operands at most. -/
theorem Unwraps.derives {s : Symbol} {ts us : List Token} (h : Unwraps s ts us) :
    ∃ f g, Derives s ts f ∧ Derives s us g ∧ Alike f g := by
  induction h with
  | @whole s ts f h => exact ⟨f, f, h.enclosed, h, .refl f⟩
  | @operands c before inner after hinner h =>
      have hgroup := derives_chained hinner fun p hp ↦
        h p (List.mem_append_left after (List.mem_append_right before hp))
      have hothers : ∀ p ∈ before ++ after, Derives c.operand p.tokens p.meaning := by
        intro p hp
        apply h
        simp only [List.mem_append] at hp ⊢
        tauto
      have hchain := derives_chained (by simp [hinner]) h
      refine ⟨_, _, .operand hothers hgroup.enclosed_operand, hchain, ?_⟩
      rw [List.map_append, List.map_append]
      refine (alike_joined c _).trans (.trans ?_ (alike_joined c _).symm)
      exact ((alike_joined c _).operand c _ _).trans (alike_flatten c _ _ _)
  | @operand c before after ts us hothers _ ih =>
      obtain ⟨f, g, hts, hus, halike⟩ := ih
      refine ⟨_, _, .operand hothers hts, .operand hothers hus, ?_⟩
      exact (alike_joined c _).trans ((halike.operand c _ _).trans (alike_joined c _).symm)
  | skip _ ih =>
      obtain ⟨f, g, hts, hus, halike⟩ := ih
      exact ⟨_, _, .skip hts, .skip hus, halike.skip⟩
  | primary _ ih =>
      obtain ⟨f, g, hts, hus, halike⟩ := ih
      exact ⟨f, g, .primary hts, .primary hus, halike⟩
  | parens _ ih =>
      obtain ⟨f, g, hts, hus, halike⟩ := ih
      exact ⟨f, g, .parens hts, .parens hus, halike⟩

theorem alike_of_unwraps {s : Symbol} {ts us : List Token} (h : Relation.EqvGen (Unwraps s) ts us) :
    (∀ f, Derives s ts f → ∃ g, Derives s us g ∧ Alike f g) ∧
      ∀ g, Derives s us g → ∃ f, Derives s ts f ∧ Alike f g := by
  -- Both directions go through the induction together, since pairs are put in as well as left out.
  induction h with
  | rel ts us h =>
      obtain ⟨f, g, hts, hus, halike⟩ := h.derives
      constructor
      · intro f' hf'
        obtain rfl := hf'.unique hts
        exact ⟨g, hus, halike⟩
      · intro g' hg'
        obtain rfl := hg'.unique hus
        exact ⟨f, hts, halike⟩
  | refl ts => exact ⟨fun f hf ↦ ⟨f, hf, .refl f⟩, fun f hf ↦ ⟨f, hf, .refl f⟩⟩
  | symm ts us _ ih =>
      constructor
      · intro g hg
        obtain ⟨f, hf, halike⟩ := ih.2 g hg
        exact ⟨f, hf, halike.symm⟩
      · intro f hf
        obtain ⟨g, hg, halike⟩ := ih.1 f hf
        exact ⟨g, hg, halike.symm⟩
  | trans ts us vs _ _ ihleft ihright =>
      constructor
      · intro f hf
        obtain ⟨g, hg, hfg⟩ := ihleft.1 f hf
        obtain ⟨k, hk, hgk⟩ := ihright.1 g hg
        exact ⟨k, hk, hfg.trans hgk⟩
      · intro k hk
        obtain ⟨g, hg, hgk⟩ := ihright.2 k hk
        obtain ⟨f, hf, hfg⟩ := ihleft.2 g hg
        exact ⟨f, hf, hfg.trans hgk⟩

/-- Two expressions split into the same tokens but for redundant parentheses. -/
def SameButParentheses (e e' : String) : Prop :=
  ∃ ls ls', tokenize e = .ok ls ∧ tokenize e' = .ok ls' ∧
    Relation.EqvGen (Unwraps (.chain .or)) (ls.map Lexeme.token) (ls'.map Lexeme.token)

theorem SameButParentheses.parse {e e' : String} (h : SameButParentheses e e') {f : Filter}
    (hparse : parse e = .ok f) : ∃ g, Filter.parse e' = .ok g ∧ Alike f g := by
  obtain ⟨ls, ls', htokens, htokens', hsame⟩ := h
  obtain ⟨us, hus, hderives⟩ := derives_of_parse hparse
  rw [htokens] at hus
  cases hus
  obtain ⟨g, hg, halike⟩ := (alike_of_unwraps hsame).1 f hderives
  exact ⟨g, parse_of_derives htokens' hg, halike⟩

/-! ## Blank expressions -/

theorem not_isWordStart_of_isBlank {c : Char} (h : Text.isBlank c) : ¬isWordStart c := by
  have hstart : isWordStart c = ((decide ('A'.val ≤ c.val ∧ c.val ≤ 'Z'.val) ||
      (decide ('a'.val ≤ c.val) && decide (c.val ≤ 'z'.val))) || decide (c = '_')) := rfl
  simp only [Text.isBlank, Bool.or_eq_true, Bool.and_eq_true, decide_eq_true_eq, beq_iff_eq] at h
  rw [hstart]
  simp only [Bool.or_eq_true, Bool.and_eq_true, decide_eq_true_eq, Char.ext_iff,
    UInt32.le_iff_toNat_le, ← UInt32.toNat_inj]
  change ¬(((65 ≤ c.toNat ∧ c.toNat ≤ 90) ∨ (97 ≤ c.toNat ∧ c.toNat ≤ 122)) ∨ c.toNat = 95)
  omega

theorem scan_of_isBlank {c : Char} (h : Text.isBlank c) (cs : List Char) :
    scan c cs = .error (.strayCharacter c) := by
  unfold scan
  split
  case h_12 => exact if_neg (not_isWordStart_of_isBlank h)
  all_goals exact absurd h (by decide)

theorem lex_of_isAllBlank {cs : List Char} (h : ∀ c ∈ cs, Text.isBlank c) (position : Nat)
    {ls : List Lexeme} (hlex : lex position cs = .ok ls) : ls = [] := by
  induction cs generalizing position with
  | nil =>
      rw [lex] at hlex
      exact (Except.ok.inj hlex).symm
  | cons c cs ih =>
      obtain ⟨hc, hcs⟩ := List.forall_mem_cons.mp h
      rw [lex] at hlex
      split at hlex
      · exact ih hcs _ hlex
      · split at hlex
        · cases hlex
        · next hscan =>
          rw [scan_of_isBlank hc] at hscan
          cases hscan

theorem Derives.ne_nil {s : Symbol} {ts : List Token} {f : Filter} (h : Derives s ts f) : ts ≠ [] := by
  induction h with
  | single _ ih => exact ih
  | @chain c first others _ _ ih =>
      exact List.append_ne_nil_of_left_ne_nil (ih first List.mem_cons_self) _
  | primary _ ih => exact ih
  | skip | parens | call => exact List.cons_ne_nil _ _

theorem not_isAllBlank_of_parse {e : String} {f : Filter} (h : parse e = .ok f) :
    ¬Text.isAllBlank e := by
  intro hblank
  obtain ⟨ls, htokens, hderives⟩ := derives_of_parse h
  rw [lex_of_isAllBlank ((Text.isAllBlank_iff e).mp hblank) 0 htokens] at hderives
  exact hderives.ne_nil rfl

/-- A filter under `skip` keeps all or nothing of a row. It can be put under `skip` again, and a
conjunction operand by operand; of a disjunction that keeps less. The grouping and the order of operands
make no difference, and so redundant parentheses make none for a scan. -/
theorem skip_and_grouping :
    (∀ (f : Filter) (row : List Cell),
      (skip f).kept row = if f.kept row = row then row else []) ∧
    (∀ (f : Filter) (row : List Cell), (skip (.skip f)).apply row = (skip f).apply row) ∧
    (∀ (fs : List Filter) (row : List Cell),
      (skip (.and fs)).apply row = (and (fs.map .skip)).apply row) ∧
    (∀ (fs : List Filter) (row : List Cell),
      ((or (fs.map .skip)).kept row).Sublist ((skip (.or fs)).kept row)) ∧
    (∀ f g : Filter, Relation.EqvGen Regroups f g → ∀ row, f.apply row = g.apply row) ∧
    ∀ e e' : String, SameButParentheses e e' → ∀ f, parse e = .ok f →
      ∃ g, parse e' = .ok g ∧ (∀ row, f.apply row = g.apply row) ∧
        ∀ (η : Type) (service : Service Cluster), service.parse = parse →
          ∀ (c : Cluster) (r : Service.Request) (handler : RowHandler η) (h : η),
            service.scan c { r with expression := some e } handler h =
              service.scan c { r with expression := some e' } handler h := by
  refine ⟨kept_skip, ?_, ?_, kept_or_skip_sublist, ?_, ?_⟩
  · intro f row
    exact (alike_skip_skip f).apply_eq row
  · intro fs row
    exact (alike_skip_and fs).apply_eq row
  · intro f g h row
    exact (Alike.of_eqvGen h).apply_eq row
  · intro e e' hsame f hf
    obtain ⟨g, hg, halike⟩ := hsame.parse hf
    refine ⟨g, hg, halike.apply_eq, ?_⟩
    intro η service hparse c r handler h
    have hblank := not_isAllBlank_of_parse hf
    have hblank' := not_isAllBlank_of_parse hg
    rw [← hparse] at hf hg
    exact Service.scan_eq hf hblank hg hblank' halike.apply_eq c r handler h

def firstCall : Phrase :=
  ⟨.word "FirstKeyOnlyFilter" :: parenthesized [], .firstOfRow⟩

def keysCall : Phrase :=
  ⟨.word "KeyOnlyFilter" :: parenthesized [], .keysOnly⟩

def prefixCall : Phrase :=
  ⟨.word "PrefixFilter" :: parenthesized [.text "u"], .rowPrefix (Bytes.ofString "u")⟩

def groupedText : String :=
  "(FirstKeyOnlyFilter() AND KeyOnlyFilter()) AND PrefixFilter('u')"

def plainText : String :=
  "FirstKeyOnlyFilter() AND KeyOnlyFilter() AND PrefixFilter('u')"

def groupedSample : Filter :=
  .and [.and [.firstOfRow, .keysOnly], .rowPrefix [117]]

theorem regroups_sample : Relation.EqvGen Regroups groupedSample
    (.and [.rowPrefix [117], .firstOfRow, .keysOnly]) := by
  have hflat : Regroups groupedSample (.and ([.firstOfRow, .keysOnly] ++ [.rowPrefix [117]])) :=
    .flatten .and [] [.firstOfRow, .keysOnly] [.rowPrefix [117]]
  have horder : Regroups (.and ([.firstOfRow, .keysOnly] ++ [.rowPrefix [117]]))
      (.and ([.rowPrefix [117]] ++ [.firstOfRow, .keysOnly])) :=
    .permute .and List.perm_append_comm
  exact .trans _ _ _ (.rel _ _ hflat) (.rel _ _ horder)

theorem derives_sampleCalls : ∀ p ∈ [] ++ [firstCall, keysCall] ++ [prefixCall],
    Derives .unary p.tokens p.meaning := by
  simp only [List.nil_append, List.cons_append, List.forall_mem_cons, List.not_mem_nil,
    false_implies, implies_true, and_true]
  exact ⟨.primary (.call .firstOfRow), .primary (.call .keysOnly), .primary (.call (.rowPrefix "u"))⟩

theorem tokenize_groupedText : tokenize groupedText =
    .ok [⟨0, .openParen⟩, ⟨1, .word "FirstKeyOnlyFilter"⟩, ⟨19, .openParen⟩, ⟨20, .closeParen⟩,
      ⟨22, .word "AND"⟩, ⟨26, .word "KeyOnlyFilter"⟩, ⟨39, .openParen⟩, ⟨40, .closeParen⟩,
      ⟨41, .closeParen⟩, ⟨43, .word "AND"⟩, ⟨47, .word "PrefixFilter"⟩, ⟨59, .openParen⟩,
      ⟨60, .text "u"⟩, ⟨63, .closeParen⟩] := by
  decide +kernel

theorem tokenize_plainText : tokenize plainText =
    .ok [⟨0, .word "FirstKeyOnlyFilter"⟩, ⟨18, .openParen⟩, ⟨19, .closeParen⟩, ⟨21, .word "AND"⟩,
      ⟨25, .word "KeyOnlyFilter"⟩, ⟨38, .openParen⟩, ⟨39, .closeParen⟩, ⟨41, .word "AND"⟩,
      ⟨45, .word "PrefixFilter"⟩, ⟨57, .openParen⟩, ⟨58, .text "u"⟩, ⟨61, .closeParen⟩] := by
  decide +kernel

theorem sameButParentheses_sample : SameButParentheses groupedText plainText := by
  have hand := Unwraps.operands (c := .and) (List.cons_ne_nil _ _) derives_sampleCalls
  have hor : Unwraps (.chain .or) _ _ := @Unwraps.operand .or [] [] _ _ (by simp) hand
  exact ⟨_, _, tokenize_groupedText, tokenize_plainText, .rel _ _ hor⟩

theorem parse_groupedText : parse groupedText = .ok groupedSample := by
  have hgroup := derives_chained (c := .and) (List.cons_ne_nil _ _) fun p hp ↦
    derives_sampleCalls p (List.mem_append_left [prefixCall] hp)
  have hother : ∀ p ∈ [] ++ [prefixCall], Derives .unary p.tokens p.meaning := fun p hp ↦
    derives_sampleCalls p (List.mem_append_right [firstCall, keysCall] hp)
  have hchain := Derives.operand (c := .and) hother hgroup.enclosed_operand
  exact parse_of_derives tokenize_groupedText (.single (c := .or) hchain)

theorem skip_and_grouping_sample :
    Relation.EqvGen Regroups groupedSample (.and [.rowPrefix [117], .firstOfRow, .keysOnly]) ∧
      SameButParentheses groupedText plainText ∧
      (∀ row, groupedSample.apply row = (and [.rowPrefix [117], .firstOfRow, .keysOnly]).apply row) ∧
      ∃ g, parse plainText = .ok g ∧ (∀ row, groupedSample.apply row = g.apply row) ∧
        ∀ (c : Cluster) (r : Service.Request),
          Cluster.sampleService.scan c { r with expression := some groupedText } .counting 0 =
            Cluster.sampleService.scan c { r with expression := some plainText } .counting 0 := by
  obtain ⟨-, -, -, -, hregroups, hparentheses⟩ := skip_and_grouping
  obtain ⟨g, hg, happly, hscan⟩ :=
    hparentheses _ _ sameButParentheses_sample groupedSample parse_groupedText
  refine ⟨regroups_sample, sameButParentheses_sample, hregroups _ _ regroups_sample, g, hg, happly,
    fun c r ↦ ?_⟩
  exact hscan _ Cluster.sampleService rfl c r _ _

end Filter

end ColumnStore
