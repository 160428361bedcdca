import ColumnStore.Proofs.FilterCalls

/-!
# The grammar of filter expressions

`Derives` says which tokens stand for which filter. What a reader takes from the tokens is derived for
its symbol (`orExpr_sound` and the theorems after it), and what is derived is taken wherever the phrase
cannot go on (`Derives.read`). Together they give the language of `parse`, and that the grammar is
unambiguous.
-/

namespace ColumnStore

namespace Filter

/-! ## The grammar -/

inductive Connective where
  | or
  | and
  deriving DecidableEq

inductive Symbol where
  /-- Operands joined by a connective. -/
  | chain (c : Connective)
  | unary
  | primary
  deriving DecidableEq

namespace Connective

def word : Connective → String
  | or => "OR"
  | and => "AND"

def combine : Connective → List Filter → Filter
  | or => .or
  | and => .and

def operand : Connective → Symbol
  | or => .chain .and
  | and => .unary

end Connective

structure Phrase where
  tokens : List Token
  meaning : Filter

/-- A phrase and a connective before it. -/
def Phrase.joined (c : Connective) (p : Phrase) : List Token :=
  .word c.word :: p.tokens

inductive Derives : Symbol → List Token → Filter → Prop
  | single {c : Connective} {ts : List Token} {f : Filter} (h : Derives c.operand ts f) :
    Derives (.chain c) ts f
  | chain {c : Connective} {first : Phrase} {others : List Phrase} (hothers : others ≠ [])
      (h : ∀ p ∈ first :: others, Derives c.operand p.tokens p.meaning) :
    Derives (.chain c) (first.tokens ++ others.flatMap (Phrase.joined c))
      (c.combine (first.meaning :: others.map Phrase.meaning))
  | skip {ts : List Token} {f : Filter} (h : Derives .unary ts f) :
    Derives .unary (.word "SKIP" :: ts) (.skip f)
  | primary {ts : List Token} {f : Filter} (h : Derives .primary ts f) : Derives .unary ts f
  | parens {ts : List Token} {f : Filter} (h : Derives (.chain .or) ts f) :
    Derives .primary (.openParen :: (ts ++ [.closeParen])) f
  | call {name : String} {args : List Token} {f : Filter} (h : IsCall name args f) :
    Derives .primary (.word name :: parenthesized args) f

/-! ## Soundness -/

/-- The tokens before the rest stand for a filter. -/
def Spans (s : Symbol) (ls : List Lexeme) (f : Filter) (rest : List Lexeme) : Prop :=
  ∃ us, ls = us ++ rest ∧ Derives s (us.map Lexeme.token) f

/-- The tokens before the rest stand for operands, each after a connective. -/
def SpansTail (c : Connective) (ls : List Lexeme) (fs : List Filter) (rest : List Lexeme) : Prop :=
  ∃ (us : List Lexeme) (parts : List Phrase), ls = us ++ rest ∧
    us.map Lexeme.token = parts.flatMap (Phrase.joined c) ∧
    fs = parts.map Phrase.meaning ∧ ∀ p ∈ parts, Derives c.operand p.tokens p.meaning

theorem SpansTail.nil (c : Connective) (ls : List Lexeme) : SpansTail c ls [] ls :=
  ⟨[], [], rfl, rfl, rfl, by simp⟩

theorem SpansTail.cons {c : Connective} {l : Lexeme} {ls mid rest : List Lexeme} {f : Filter}
    {fs : List Filter} (hl : l.token = .word c.word) (hf : Spans c.operand ls f mid)
    (hfs : SpansTail c mid fs rest) : SpansTail c (l :: ls) (f :: fs) rest := by
  obtain ⟨us, rfl, hderives⟩ := hf
  obtain ⟨us', parts, rfl, htokens, rfl, hparts⟩ := hfs
  refine ⟨l :: (us ++ us'), ⟨us.map Lexeme.token, f⟩ :: parts, by simp, ?_, rfl, ?_⟩
  · simp [Phrase.joined, hl, htokens]
  · exact List.forall_mem_cons.mpr ⟨hderives, hparts⟩

/-- A chain of one operand is that operand, and a longer one combines all of them. -/
theorem Spans.chain {c : Connective} {ls mid rest : List Lexeme} {first : Filter}
    {others : List Filter} (hfirst : Spans c.operand ls first mid)
    (hothers : SpansTail c mid others rest) :
    Spans (.chain c) ls (join c.combine first others) rest := by
  obtain ⟨us, rfl, hderives⟩ := hfirst
  obtain ⟨us', parts, rfl, htokens, rfl, hparts⟩ := hothers
  refine ⟨us ++ us', by simp, ?_⟩
  rw [List.map_append, htokens]
  cases parts with
  | nil =>
      rw [List.flatMap_nil, List.append_nil]
      exact .single hderives
  | cons p parts =>
      let phrase : Phrase := ⟨us.map Lexeme.token, first⟩
      have hphrases : ∀ q ∈ phrase :: p :: parts, Derives c.operand q.tokens q.meaning :=
        List.forall_mem_cons.mpr ⟨hderives, hparts⟩
      exact .chain (List.cons_ne_nil p parts) hphrases

mutual

/-- The tokens that a reader takes derive the filter that it returns. All readers are gone through
together, since parentheses lead back to the first. -/
theorem orExpr_sound {stop : Nat} {ls : List Lexeme} {f : Filter} {rest : Rest ls}
    (h : orExpr stop ls = .ok (f, rest)) : Spans (.chain .or) ls f rest := by
  rw [orExpr] at h
  split at h
  · cases h
  · next first mid hfirst =>
    split at h
    · cases h
    · next others tail hothers =>
      cases h
      exact .chain (c := .or) (andExpr_sound hfirst) (orTail_sound hothers)
termination_by (ls.length, 4)

theorem orTail_sound {stop : Nat} : {ls : List Lexeme} → {fs : List Filter} → {rest : Tail ls} →
    orTail stop ls = .ok (fs, rest) → SpansTail .or ls fs rest
  | [], _, _, h => by
      rw [orTail] at h
      cases h
      exact .nil .or []
  | l :: ls, _, _, h => by
      rw [orTail] at h
      split at h
      · next hl =>
        split at h
        · cases h
        · next next mid hnext =>
          split at h
          · cases h
          · next others tail hothers =>
            cases h
            exact .cons hl (andExpr_sound hnext) (orTail_sound hothers)
      · cases h
        exact .nil .or (l :: ls)
termination_by ls => (ls.length, 0)

theorem andExpr_sound {stop : Nat} {ls : List Lexeme} {f : Filter} {rest : Rest ls}
    (h : andExpr stop ls = .ok (f, rest)) : Spans (.chain .and) ls f rest := by
  rw [andExpr] at h
  split at h
  · cases h
  · next first mid hfirst =>
    split at h
    · cases h
    · next others tail hothers =>
      cases h
      exact .chain (c := .and) (unary_sound hfirst) (andTail_sound hothers)
termination_by (ls.length, 3)

theorem andTail_sound {stop : Nat} : {ls : List Lexeme} → {fs : List Filter} → {rest : Tail ls} →
    andTail stop ls = .ok (fs, rest) → SpansTail .and ls fs rest
  | [], _, _, h => by
      rw [andTail] at h
      cases h
      exact .nil .and []
  | l :: ls, _, _, h => by
      rw [andTail] at h
      split at h
      · next hl =>
        split at h
        · cases h
        · next next mid hnext =>
          split at h
          · cases h
          · next others tail hothers =>
            cases h
            exact .cons hl (unary_sound hnext) (andTail_sound hothers)
      · cases h
        exact .nil .and (l :: ls)
termination_by ls => (ls.length, 0)

theorem unary_sound {stop : Nat} : {ls : List Lexeme} → {f : Filter} → {rest : Rest ls} →
    unary stop ls = .ok (f, rest) → Spans .unary ls f rest
  | [], _, _, h => by
      rw [unary] at h
      cases h
  | l :: ls, _, _, h => by
      rw [unary] at h
      split at h
      · next hl =>
        split at h
        · cases h
        · next inner tail hinner =>
          cases h
          obtain ⟨us, hus, hderives⟩ := unary_sound hinner
          refine ⟨l :: us, congrArg (l :: ·) hus, ?_⟩
          rw [List.map_cons, hl]
          exact .skip hderives
      · obtain ⟨us, hus, hderives⟩ := primary_sound h
        exact ⟨us, hus, .primary hderives⟩
termination_by ls => (ls.length, 2)

theorem primary_sound {stop : Nat} {l : Lexeme} {ls : List Lexeme} {f : Filter}
    {rest : Rest (l :: ls)} (h : primary stop l ls = .ok (f, rest)) :
    Spans .primary (l :: ls) f rest := by
  rw [primary] at h
  split at h
  · next hl =>
    split at h
    · cases h
    · next inner mid hinner =>
      split at h
      · cases h
      · next tail hexpect =>
        cases h
        obtain ⟨close, hmid, hclose⟩ := expect_eq_ok_iff.mp hexpect
        obtain ⟨us, hus, hderives⟩ := orExpr_sound hinner
        refine ⟨l :: (us ++ [close]), by simp [hus, hmid], ?_⟩
        rw [List.map_cons, List.map_append, List.map_singleton, hl, hclose]
        exact .parens hderives
  · next name hl =>
    split at h
    · cases h
    · next args tail hargs =>
      split at h
      · cases h
      · next filter hbuild =>
        cases h
        obtain ⟨us, hus, htokens⟩ := arguments_sound hargs
        refine ⟨l :: us, congrArg (l :: ·) hus, ?_⟩
        rw [List.map_cons, hl, htokens]
        exact .call (build_eq_ok_iff.mp hbuild)
  · cases h
termination_by (ls.length, 5)

end

/-! ## Completeness -/

def BeginsWith (word : String) (ls : List Lexeme) : Prop :=
  ls.head?.map Lexeme.token = some (.word word)

/-- The words with which a phrase could go on. -/
def Symbol.continuations : Symbol → List String
  | .chain .or => ["OR", "AND"]
  | .chain .and => ["AND"]
  | .unary | .primary => []

/-- A phrase cannot go on. -/
def Symbol.StopsAt (s : Symbol) (ls : List Lexeme) : Prop :=
  ∀ word ∈ s.continuations, ¬BeginsWith word ls

/-- The reader of a phrase finds a filter and leaves the rest. -/
def Reads (stop : Nat) : Symbol → List Lexeme → Filter → List Lexeme → Prop
  | .chain .or, ls, f, rest => ∃ h, orExpr stop ls = .ok (f, ⟨rest, h⟩)
  | .chain .and, ls, f, rest => ∃ h, andExpr stop ls = .ok (f, ⟨rest, h⟩)
  | .unary, ls, f, rest => ∃ h, unary stop ls = .ok (f, ⟨rest, h⟩)
  | .primary, ls, f, rest => ∃ l ls', ls = l :: ls' ∧ l.token ≠ .word "SKIP" ∧
    ∃ h, primary stop l ls' = .ok (f, ⟨rest, h⟩)

/-- The reader of further operands finds some filters and leaves the rest. -/
def ReadsTail (stop : Nat) : Connective → List Lexeme → List Filter → List Lexeme → Prop
  | .or, ls, fs, rest => ∃ h, orTail stop ls = .ok (fs, ⟨rest, h⟩)
  | .and, ls, fs, rest => ∃ h, andTail stop ls = .ok (fs, ⟨rest, h⟩)

variable {stop : Nat} {c : Connective} {l : Lexeme} {ls mid rest : List Lexeme} {f : Filter}
  {fs : List Filter}

theorem ReadsTail.nil (h : ¬BeginsWith c.word ls) : ReadsTail stop c ls [] ls := by
  have hword : ∀ l ls', ls = l :: ls' → l.token ≠ .word c.word := by
    rintro l ls' rfl hl
    apply h
    rw [BeginsWith, List.head?_cons, Option.map_some, hl]
  cases c with
  | or =>
      refine ⟨Nat.le_refl _, ?_⟩
      cases ls with
      | nil => rw [orTail]
      | cons l ls' =>
          rw [orTail]
          exact if_neg (hword l ls' rfl)
  | and =>
      refine ⟨Nat.le_refl _, ?_⟩
      cases ls with
      | nil => rw [andTail]
      | cons l ls' =>
          rw [andTail]
          exact if_neg (hword l ls' rfl)

theorem ReadsTail.cons (hl : l.token = .word c.word) (hf : Reads stop c.operand ls f mid)
    (hfs : ReadsTail stop c mid fs rest) : ReadsTail stop c (l :: ls) (f :: fs) rest := by
  cases c with
  | or =>
      obtain ⟨hmid, hf⟩ := hf
      obtain ⟨hrest, hfs⟩ := hfs
      refine ⟨Nat.le_succ_of_le (Nat.le_of_lt (Nat.lt_of_le_of_lt hrest hmid)), ?_⟩
      have hword : l.token = .word "OR" := hl
      rw [orTail, if_pos hword]
      simp only [hf, hfs]
  | and =>
      obtain ⟨hmid, hf⟩ := hf
      obtain ⟨hrest, hfs⟩ := hfs
      refine ⟨Nat.le_succ_of_le (Nat.le_of_lt (Nat.lt_of_le_of_lt hrest hmid)), ?_⟩
      have hword : l.token = .word "AND" := hl
      rw [andTail, if_pos hword]
      simp only [hf, hfs]

theorem Reads.chain (hf : Reads stop c.operand ls f mid) (hfs : ReadsTail stop c mid fs rest) :
    Reads stop (.chain c) ls (join c.combine f fs) rest := by
  cases c with
  | or =>
      obtain ⟨hmid, hf⟩ := hf
      obtain ⟨hrest, hfs⟩ := hfs
      refine ⟨Nat.lt_of_le_of_lt hrest hmid, ?_⟩
      rw [orExpr]
      simp only [hf, hfs]
      rfl
  | and =>
      obtain ⟨hmid, hf⟩ := hf
      obtain ⟨hrest, hfs⟩ := hfs
      refine ⟨Nat.lt_of_le_of_lt hrest hmid, ?_⟩
      rw [andExpr]
      simp only [hf, hfs]
      rfl

/-- The reader of a kind of phrase reads some tokens as a filter, wherever they end a phrase. -/
def Read (stop : Nat) (s : Symbol) (ts : List Token) (f : Filter) : Prop :=
  ∀ us vs, us.map Lexeme.token = ts → s.StopsAt vs → Reads stop s (us ++ vs) f vs

theorem Symbol.StopsAt.not_beginsWith (h : (Symbol.chain c).StopsAt ls) :
    ¬BeginsWith c.word ls := by
  apply h
  cases c <;> exact List.mem_cons_self

theorem Symbol.StopsAt.operand (h : (Symbol.chain c).StopsAt ls) : c.operand.StopsAt ls := by
  intro word hword
  apply h
  cases c with
  | or => exact List.mem_cons_of_mem _ hword
  | and => cases hword

theorem stopsAt_operand_of_word (hl : l.token = .word c.word) (ls : List Lexeme) :
    c.operand.StopsAt (l :: ls) := by
  intro word hword hbegins
  rw [BeginsWith, List.head?_cons, Option.map_some, hl] at hbegins
  cases c with
  | or =>
      rw [List.mem_singleton.mp hword] at hbegins
      simp [Connective.word] at hbegins
  | and => cases hword

/-- An operand stops where the next one follows, and where the whole chain stops. -/
theorem stopsAt_operand {parts : List Phrase} {us vs : List Lexeme}
    (hus : us.map Lexeme.token = parts.flatMap (Phrase.joined c))
    (hvs : (Symbol.chain c).StopsAt vs) : c.operand.StopsAt (us ++ vs) := by
  cases parts with
  | nil =>
      rw [List.map_eq_nil_iff.mp hus]
      exact hvs.operand
  | cons p parts =>
      obtain ⟨l, ws, rfl, hl, -⟩ := List.map_eq_cons_iff.mp hus
      exact stopsAt_operand_of_word hl (ws ++ vs)

theorem readsTail_of_read {parts : List Phrase}
    (hparts : ∀ p ∈ parts, Read stop c.operand p.tokens p.meaning) {us vs : List Lexeme}
    (hus : us.map Lexeme.token = parts.flatMap (Phrase.joined c))
    (hvs : (Symbol.chain c).StopsAt vs) :
    ReadsTail stop c (us ++ vs) (parts.map Phrase.meaning) vs := by
  induction parts generalizing us with
  | nil =>
      rw [List.map_eq_nil_iff.mp hus]
      exact .nil hvs.not_beginsWith
  | cons p parts ih =>
      obtain ⟨hp, hparts⟩ := List.forall_mem_cons.mp hparts
      obtain ⟨l, ws, rfl, hl, htail⟩ := List.map_eq_cons_iff.mp hus
      obtain ⟨xs, ys, rfl, hxs, hys⟩ := List.map_eq_append_iff.mp htail
      -- The operand ends where the next connective stands, or else where the whole chain ends.
      have hread := hp xs (ys ++ vs) hxs (stopsAt_operand hys hvs)
      rw [List.cons_append, List.append_assoc]
      exact .cons hl hread (ih hparts hys)

theorem Read.single {ts : List Token} (h : Read stop c.operand ts f) :
    Read stop (.chain c) ts f := by
  intro us vs hus hvs
  exact (h us vs hus hvs.operand).chain (.nil hvs.not_beginsWith)

theorem Read.chain {first : Phrase} {others : List Phrase}
    (h : ∀ p ∈ first :: others, Read stop c.operand p.tokens p.meaning) :
    Read stop (.chain c) (first.tokens ++ others.flatMap (Phrase.joined c))
      (join c.combine first.meaning (others.map Phrase.meaning)) := by
  intro us vs hus hvs
  obtain ⟨hfirst, hothers⟩ := List.forall_mem_cons.mp h
  obtain ⟨xs, ys, rfl, hxs, hys⟩ := List.map_eq_append_iff.mp hus
  rw [List.append_assoc]
  exact .chain (hfirst xs (ys ++ vs) hxs (stopsAt_operand hys hvs))
    (readsTail_of_read hothers hys hvs)

theorem Read.skip {ts : List Token} (h : Read stop .unary ts f) :
    Read stop .unary (.word "SKIP" :: ts) (.skip f) := by
  intro us vs hus hvs
  obtain ⟨l, us, rfl, hl, htail⟩ := List.map_eq_cons_iff.mp hus
  obtain ⟨hlength, hread⟩ := h us vs htail hvs
  rw [List.cons_append]
  refine ⟨Nat.lt_succ_of_lt hlength, ?_⟩
  rw [Filter.unary, if_pos hl]
  simp only [hread]

theorem Read.unary {ts : List Token} (h : Read stop .primary ts f) : Read stop .unary ts f := by
  intro us vs hus hvs
  obtain ⟨l, ls, hls, hl, hlength, hread⟩ := h us vs hus hvs
  rw [hls]
  refine ⟨hlength, ?_⟩
  rw [Filter.unary, if_neg hl]
  exact hread

theorem primary_of_orExpr {close : Lexeme} (hl : l.token = .openParen)
    (hread : Reads stop (.chain .or) ls f (close :: rest)) (hclose : close.token = .closeParen) :
    ∃ h, Filter.primary stop l ls = .ok (f, ⟨rest, h⟩) := by
  obtain ⟨hlength, hread⟩ := hread
  refine ⟨by simp only [List.length_cons] at hlength ⊢; omega, ?_⟩
  have hexpect : expect stop .closeParen (close :: rest) = .ok rest :=
    expect_eq_ok_iff.mpr ⟨close, rfl, hclose⟩
  rw [primary, hl]
  simp only [hread]
  split
  · next e he =>
    rw [hexpect] at he
    cases he
  · next tail htail =>
    rw [hexpect] at htail
    cases htail
    rfl

theorem primary_of_arguments {name : String} {args : List Argument} (hl : l.token = .word name)
    (hargs : arguments stop ls = .ok (args, rest)) (hbuild : build l.position name args = .ok f) :
    ∃ h, Filter.primary stop l ls = .ok (f, ⟨rest, h⟩) := by
  refine ⟨Nat.lt_succ_of_lt (length_arguments_lt hargs), ?_⟩
  rw [primary, hl]
  dsimp only
  split
  · next e he =>
    rw [hargs] at he
    cases he
  · next args' rest' hargs' =>
    rw [hargs] at hargs'
    cases hargs'
    simp only [hbuild]

theorem Read.parens {ts : List Token} (h : Read stop (.chain .or) ts f) :
    Read stop .primary (.openParen :: (ts ++ [.closeParen])) f := by
  intro us vs hus hvs
  obtain ⟨l, ws, rfl, hl, htail⟩ := List.map_eq_cons_iff.mp hus
  obtain ⟨xs, ys, rfl, hxs, hys⟩ := List.map_eq_append_iff.mp htail
  obtain ⟨close, rfl, hclose⟩ := List.map_eq_singleton_iff.mp hys
  -- Inside the parentheses the closing one follows, whatever comes after it.
  have hstops : (Symbol.chain .or).StopsAt (close :: vs) := by
    intro word _
    simp [BeginsWith, hclose]
  have hread := h xs (close :: vs) hxs hstops
  rw [List.cons_append, List.append_assoc]
  exact ⟨l, _, rfl, by simp [hl], primary_of_orExpr hl hread hclose⟩

theorem Read.call {name : String} {args : List Token} (h : IsCall name args f) :
    Read stop .primary (.word name :: parenthesized args) f := by
  intro us vs hus hvs
  obtain ⟨l, ws, rfl, hl, htail⟩ := List.map_eq_cons_iff.mp hus
  obtain ⟨args, rfl, hargs⟩ := arguments_complete stop vs h.isArgument htail
  refine ⟨l, ws ++ vs, rfl, ?_, primary_of_arguments hl hargs (build_eq_ok_iff.mpr h)⟩
  rw [hl]
  exact fun hskip ↦ h.ne_skip (Token.word.inj hskip)

/-- Whatever the grammar derives is read. -/
theorem Derives.read {s : Symbol} {ts : List Token} (h : Derives s ts f) : Read stop s ts f := by
  -- On the derivation, for every rest where the phrase stops: an operand is followed by other things
  -- than the chain that it is in.
  induction h with
  | single _ ih => exact ih.single
  | @chain c first others hothers _ ih =>
      obtain ⟨second, rest, rfl⟩ := List.exists_cons_of_ne_nil hothers
      exact Read.chain ih
  | skip _ ih => exact ih.skip
  | primary _ ih => exact ih.unary
  | parens _ ih => exact ih.parens
  | call h => exact .call h

/-! ## The language of the parser -/

theorem Reads.unique {s : Symbol} {g : Filter} (hf : Reads stop s ls f rest)
    (hg : Reads stop s ls g rest) : f = g := by
  match s with
  | .chain .or | .chain .and | .unary =>
      obtain ⟨_, hf⟩ := hf
      obtain ⟨_, hg⟩ := hg
      rw [hf] at hg
      cases hg
      rfl
  | .primary =>
      obtain ⟨l, ls', rfl, -, _, hf⟩ := hf
      obtain ⟨_, _, hcons, -, _, hg⟩ := hg
      cases hcons
      rw [hf] at hg
      cases hg
      rfl

theorem Symbol.stopsAt_nil (s : Symbol) : s.StopsAt [] := by
  intro word _
  simp [BeginsWith]

/-- Tokens stand for one filter at most. -/
theorem Derives.unique {s : Symbol} {ts : List Token} {f g : Filter} (hf : Derives s ts f)
    (hg : Derives s ts g) : f = g := by
  -- Both filters are what the reader finds in the same tokens, at whatever offsets they stand.
  have htokens : (ts.map (Lexeme.mk 0)).map Lexeme.token = ts := by
    simp [Function.comp_def]
  have hreadf : Read 0 s ts f := hf.read
  have hreadg : Read 0 s ts g := hg.read
  exact (hreadf _ _ htokens s.stopsAt_nil).unique (hreadg _ _ htokens s.stopsAt_nil)

theorem derives_of_parse {expression : String} (h : parse expression = .ok f) :
    ∃ ls, tokenize expression = .ok ls ∧ Derives (.chain .or) (ls.map Lexeme.token) f := by
  unfold parse at h
  split at h
  · cases h
  · next ls htokens =>
    split at h
    · cases h
    · next filter _ hread =>
      cases h
      obtain ⟨us, hus, hderives⟩ := orExpr_sound hread
      rw [List.append_nil] at hus
      exact ⟨ls, htokens, hus ▸ hderives⟩
    · cases h

theorem parse_of_derives {expression : String} (htokens : tokenize expression = .ok ls)
    (h : Derives (.chain .or) (ls.map Lexeme.token) f) : parse expression = .ok f := by
  have hread : Reads (octets expression.toList) (.chain .or) (ls ++ []) f [] :=
    h.read ls [] rfl (Symbol.stopsAt_nil _)
  rw [List.append_nil] at hread
  obtain ⟨hlength, hread⟩ := hread
  simp only [parse, htokens, hread]

/-- An expression is a text that splits into tokens of the grammar. -/
theorem parse_eq_ok_iff_derives (expression : String) :
    (∀ f, parse expression = .ok f ↔
      ∃ ls, tokenize expression = .ok ls ∧ Derives (.chain .or) (ls.map Lexeme.token) f) ∧
    ((∃ e, parse expression = .error e) ↔
      ∀ ls, tokenize expression = .ok ls →
        ¬∃ f, Derives (.chain .or) (ls.map Lexeme.token) f) ∧
    ∀ s ts f g, Derives s ts f → Derives s ts g → f = g := by
  have hok : ∀ f, parse expression = .ok f ↔
      ∃ ls, tokenize expression = .ok ls ∧ Derives (.chain .or) (ls.map Lexeme.token) f := by
    intro f
    constructor
    · exact derives_of_parse
    · rintro ⟨ls, htokens, hderives⟩
      exact parse_of_derives htokens hderives
  refine ⟨hok, ⟨?_, ?_⟩, fun s ts f g hf hg ↦ hf.unique hg⟩
  · rintro ⟨e, herror⟩ ls htokens ⟨f, hderives⟩
    rw [parse_of_derives htokens hderives] at herror
    cases herror
  · intro hnone
    cases hparse : parse expression with
    | error e => exact ⟨e, rfl⟩
    | ok f =>
      obtain ⟨ls, htokens, hderives⟩ := derives_of_parse hparse
      exact absurd ⟨f, hderives⟩ (hnone ls htokens)

end Filter

end ColumnStore
