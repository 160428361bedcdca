import ColumnStore.Proofs.CheckedParsing

/-!
# Refused tokens

A reader of tokens refuses them at one of them or at their end (`chain_points`), and at their end only where
they are the beginning of a phrase and close less than they open, so that they are no phrase themselves
(`Shaped.closed`). What counts as a phrase here is its shape: no matter which filters there are.
-/

namespace ColumnStore

namespace Filter

/-! ## Shapes -/

/-- The grammar, whatever the names of filters are and what the arguments say. -/
inductive Shaped : Symbol → List Token → Prop
  | single {c : Connective} {ts : List Token} (h : Shaped c.operand ts) : Shaped (.chain c) ts
  | chain {c : Connective} {ts us : List Token} (h : Shaped (.chain c) ts)
      (hus : Shaped c.operand us) : Shaped (.chain c) (ts ++ .word c.word :: us)
  | skip {ts : List Token} (h : Shaped .unary ts) : Shaped .unary (.word "SKIP" :: ts)
  | primary {ts : List Token} (h : Shaped .primary ts) : Shaped .unary ts
  | parens {ts : List Token} (h : Shaped (.chain .or) ts) :
    Shaped .primary (.openParen :: (ts ++ [.closeParen]))
  | call {name : String} {args : List Token} (hname : name ≠ "SKIP") (hargs : ∀ t ∈ args, t.isArgument) :
    Shaped .primary (.word name :: parenthesized args)

/-- Tokens that end with a closing parenthesis and close every one that they open. -/
structure Closed (ts : List Token) : Prop where
  last : ts.getLast? = some .closeParen
  balanced : ts.count .openParen = ts.count .closeParen

variable {c : Connective} {ts us : List Token}

theorem Shaped.append_joined {parts : List Phrase} (h : Shaped (.chain c) ts)
    (hparts : ∀ p ∈ parts, Shaped c.operand p.tokens) :
    Shaped (.chain c) (ts ++ parts.flatMap (Phrase.joined c)) := by
  induction parts generalizing ts with
  | nil =>
      rw [List.flatMap_nil, List.append_nil]
      exact h
  | cons p parts ih =>
      obtain ⟨hp, hparts⟩ := List.forall_mem_cons.mp hparts
      rw [List.flatMap_cons, ← List.append_assoc]
      exact ih (.chain h hp) hparts

theorem Derives.shaped {s : Symbol} {f : Filter} (h : Derives s ts f) : Shaped s ts := by
  induction h with
  | single _ ih => exact .single ih
  | chain _ _ ih =>
      obtain ⟨hfirst, hothers⟩ := List.forall_mem_cons.mp ih
      exact (Shaped.single hfirst).append_joined hothers
  | skip _ ih => exact .skip ih
  | primary _ ih => exact .primary ih
  | parens _ ih => exact .parens ih
  | call h => exact .call h.ne_skip h.isArgument

theorem Closed.append (h : Closed us) (hbalanced : ts.count .openParen = ts.count .closeParen) :
    Closed (ts ++ us) where
  last := by rw [List.getLast?_append, h.last, Option.some_or]
  balanced := by rw [List.count_append, List.count_append, hbalanced, h.balanced]

theorem Closed.word (h : Closed ts) (name : String) : Closed (.word name :: ts) := by
  have hbalanced : [Token.word name].count .openParen = [Token.word name].count .closeParen := by simp
  exact h.append hbalanced

theorem Closed.enclose (h : ts.count .openParen = ts.count .closeParen) :
    Closed (.openParen :: (ts ++ [.closeParen])) where
  last := by rw [← List.cons_append, List.getLast?_concat]
  balanced := by simp [h]

theorem parenthesized_eq_enclosed (args : List Token) : ∃ inner,
    parenthesized args = .openParen :: (inner ++ [.closeParen]) ∧ ∀ t ∈ inner, t = .comma ∨ t ∈ args := by
  cases args with
  | nil => exact ⟨[], rfl, fun t ht ↦ absurd ht List.not_mem_nil⟩
  | cons first others =>
      refine ⟨first :: others.flatMap fun arg ↦ [.comma, arg], rfl, ?_⟩
      intro t ht
      rcases List.mem_cons.mp ht with rfl | ht
      · exact .inr List.mem_cons_self
      · obtain ⟨arg, harg, ht⟩ := List.mem_flatMap.mp ht
        rcases List.mem_cons.mp ht with rfl | ht
        · exact .inl rfl
        · rw [List.mem_singleton.mp ht]
          exact .inr (List.mem_cons_of_mem first harg)

theorem closed_parenthesized {args : List Token} (h : ∀ t ∈ args, t.isArgument) :
    Closed (parenthesized args) := by
  obtain ⟨inner, heq, hinner⟩ := parenthesized_eq_enclosed args
  have hnone : ∀ t : Token, ¬t.isArgument → t ≠ .comma → inner.count t = 0 := by
    intro t hargument hcomma
    refine List.count_eq_zero.mpr fun ht ↦ ?_
    rcases hinner t ht with rfl | ht
    · exact hcomma rfl
    · exact hargument (h t ht)
  rw [heq]
  apply Closed.enclose
  rw [hnone .openParen (by decide) (by decide), hnone .closeParen (by decide) (by decide)]

theorem Shaped.closed {s : Symbol} (h : Shaped s ts) : Closed ts := by
  induction h with
  | single _ ih => exact ih
  | chain _ _ ih ihus => exact (ihus.word _).append ih.balanced
  | skip _ ih => exact ih.word "SKIP"
  | primary _ ih => exact ih
  | parens _ ih => exact .enclose ih.balanced
  | @call name _ _ hargs => exact (closed_parenthesized hargs).word name

/-! ## Unfinished tokens -/

/-- Tokens that do not end with a closing parenthesis, or leave one open. -/
def Unclosed (ts : List Token) : Prop :=
  ts.getLast? ≠ some .closeParen ∨ ts.count .closeParen < ts.count .openParen

theorem Unclosed.not_closed (h : Unclosed ts) : ¬Closed ts := by
  rintro ⟨hlast, hbalanced⟩
  rcases h with hend | hopen
  · exact hend hlast
  · exact absurd hbalanced (Nat.ne_of_gt hopen)

theorem Unclosed.cons {t : Token} (ht : t ≠ .closeParen) (h : Unclosed ts) : Unclosed (t :: ts) := by
  rcases h with hend | hopen
  · left
    cases ts with
    | nil => simp [ht]
    | cons u us => rwa [List.getLast?_cons_cons]
  · right
    have hle : ts.count .openParen ≤ (t :: ts).count .openParen := List.count_le_count_cons
    rw [List.count_cons_of_ne ht]
    omega

/-- What is closed does not close anything that is opened after it. -/
theorem Unclosed.append (hne : us ≠ []) (h : Unclosed us) (hts : Closed ts) : Unclosed (ts ++ us) := by
  rcases h with hend | hopen
  · left
    rwa [List.getLast?_append_of_ne_nil _ hne]
  · right
    have hbalanced := hts.balanced
    rw [List.count_append, List.count_append]
    omega

theorem Closed.unclosed_of_open (h : Closed ts) : Unclosed (.openParen :: ts) := by
  right
  have hbalanced := h.balanced
  rw [List.count_cons_self, List.count_cons_of_ne (by decide)]
  omega

theorem unclosed_nil : Unclosed [] :=
  .inl nofun

theorem unclosed_singleton {t : Token} (h : t ≠ .closeParen) : Unclosed [t] :=
  .inl fun heq ↦ h (Option.some.inj heq)

/-! ## Arguments -/

/-- Where a reader points when it refuses tokens: at one of them, or at the end, if what they are the
beginning of is not closed yet. -/
inductive Points (stop : Nat) (Begun : List Token → Prop) (ls : List Lexeme) (e : FilterError) : Prop
  | at_token {l : Lexeme} (hl : l ∈ ls) (hposition : e.position = l.position)
  | at_end (hposition : e.position = stop) (hbegun : Begun (ls.map Lexeme.token))
      (hunclosed : Unclosed (ls.map Lexeme.token))

variable {stop : Nat} {P Q : List Token → Prop} {l : Lexeme} {ls vs : List Lexeme} {e : FilterError}

theorem Points.mono (h : Points stop P ls e) (hPQ : ∀ ts, P ts → Q ts) : Points stop Q ls e := by
  cases h with
  | at_token hl hposition => exact .at_token hl hposition
  | at_end hposition hbegun hunclosed => exact .at_end hposition (hPQ _ hbegun) hunclosed

theorem Points.cons (h : Points stop P ls e) (hl : l.token ≠ .closeParen)
    (hPQ : ∀ ts, P ts → Q (l.token :: ts)) : Points stop Q (l :: ls) e := by
  cases h with
  | at_token hmem hposition => exact .at_token (List.mem_cons_of_mem l hmem) hposition
  | at_end hposition hbegun hunclosed => exact .at_end hposition (hPQ _ hbegun) (hunclosed.cons hl)

theorem Points.append (h : Points stop P ls e) (hne : ls ≠ []) (hvs : Closed (vs.map Lexeme.token))
    (hPQ : ∀ ts, P ts → Q (vs.map Lexeme.token ++ ts)) : Points stop Q (vs ++ ls) e := by
  cases h with
  | at_token hmem hposition => exact .at_token (List.mem_append_right vs hmem) hposition
  | at_end hposition hbegun hunclosed =>
      refine .at_end hposition ?_ ?_
      · rw [List.map_append]
        exact hPQ _ hbegun
      · rw [List.map_append]
        exact hunclosed.append (fun hnil ↦ hne (List.map_eq_nil_iff.mp hnil)) hvs

/-- The beginning of arguments up to the closing parenthesis. -/
def BegunList (ts : List Token) : Prop :=
  ∃ first others more, (∀ t ∈ first :: others, t.isArgument) ∧ ts ++ more = listed first others

/-- The beginning of arguments in parentheses. -/
def BegunArguments (ts : List Token) : Prop :=
  ∃ args more, (∀ t ∈ args, t.isArgument) ∧ ts ++ more = parenthesized args

theorem BegunList.nil : BegunList [] :=
  ⟨.text "", [], _, by simp [Token.isArgument], rfl⟩

theorem BegunList.single {t : Token} (ht : t.isArgument) : BegunList [t] :=
  ⟨t, [], _, by simpa using ht, rfl⟩

theorem BegunList.cons {t : Token} (ht : t.isArgument) (h : BegunList ts) :
    BegunList (t :: .comma :: ts) := by
  obtain ⟨first, others, more, hargs, heq⟩ := h
  refine ⟨t, first :: others, more, List.forall_mem_cons.mpr ⟨ht, hargs⟩, ?_⟩
  rw [List.cons_append, List.cons_append, heq]
  simp [listed]

theorem BegunList.enclosed (h : BegunList ts) : BegunArguments (.openParen :: ts) := by
  obtain ⟨first, others, more, hargs, heq⟩ := h
  refine ⟨first :: others, more, hargs, ?_⟩
  rw [List.cons_append, heq]
  rfl

theorem isArgument_of_argument? {a : Argument} (h : l.argument? = some a) : l.token.isArgument := by
  rw [← Lexeme.token_of_argument? h]
  cases a <;> rfl

theorem ne_closeParen_of_isArgument {t : Token} (h : t.isArgument) : t ≠ .closeParen := by
  rintro rfl
  cases h

theorem argumentList_points (h : argumentList stop ls = .error e) : Points stop BegunList ls e := by
  fun_induction argumentList stop ls with
  | case1 =>
      cases h
      exact .at_end rfl .nil unclosed_nil
  | case2 a argument ha =>
      cases h
      have harg := isArgument_of_argument? ha
      exact .at_end rfl (.single harg) (unclosed_singleton (ne_closeParen_of_isArgument harg))
  | case3 | case4 =>
      cases h
      exact .at_token List.mem_cons_self rfl
  | case5 | case7 => cases h
  | case6 a s rest argument ha hs e' herror ih =>
      cases h
      have harg := isArgument_of_argument? ha
      have hcomma : Points stop (fun ts ↦ ∃ us, ts = .comma :: us ∧ BegunList us) (s :: rest) e :=
        (ih herror).cons (by simp [hs]) fun ts hts ↦ ⟨ts, by rw [hs], hts⟩
      refine hcomma.cons (ne_closeParen_of_isArgument harg) ?_
      rintro _ ⟨us, rfl, hus⟩
      exact hus.cons harg
  | case8 a s rest =>
      cases h
      exact .at_token (List.mem_cons_of_mem a List.mem_cons_self) rfl

theorem expect_eq_error {wanted : Token} (h : expect stop wanted ls = .error e) :
    (∃ l ∈ ls, e.position = l.position) ∨ ls = [] ∧ e.position = stop := by
  cases ls with
  | nil =>
      cases h
      exact .inr ⟨rfl, rfl⟩
  | cons l ls =>
      rw [expect] at h
      split at h
      · cases h
      · cases h
        exact .inl ⟨l, List.mem_cons_self, rfl⟩

theorem arguments_points (h : arguments stop ls = .error e) : Points stop BegunArguments ls e := by
  have hnone : BegunArguments [] := ⟨[], _, nofun, rfl⟩
  have hopen : BegunArguments [.openParen] := ⟨[], [.closeParen], nofun, rfl⟩
  unfold arguments at h
  split at h
  · next herror =>
    cases h
    rcases expect_eq_error herror with ⟨l, hl, hposition⟩ | ⟨rfl, hposition⟩
    · exact .at_token hl hposition
    · exact .at_end hposition hnone unclosed_nil
  · next hexpect =>
    cases h
    obtain ⟨p, rfl, hp⟩ := expect_eq_ok_iff.mp hexpect
    refine .at_end rfl ?_ (unclosed_singleton (by simp [hp]))
    rw [List.map_singleton, hp]
    exact hopen
  · next l rest hexpect =>
    obtain ⟨p, rfl, hp⟩ := expect_eq_ok_iff.mp hexpect
    split at h
    · cases h
    · refine (argumentList_points h).cons (by simp [hp]) fun ts hts ↦ ?_
      rw [hp]
      exact hts.enclosed

/-! ## Filters -/

def Argument.position : Argument → Nat
  | .text position _ | .op position _ => position

theorem Lexeme.position_of_argument? {a : Argument} (h : l.argument? = some a) :
    a.position = l.position := by
  unfold Lexeme.argument? at h
  split at h
  · cases h
    rfl
  · cases h
    rfl
  · cases h

theorem position_of_argumentList {rest : List Lexeme} {args : List Argument}
    (h : argumentList stop ls = .ok (args, rest)) :
    ∀ a ∈ args, ∃ l ∈ ls, a.position = l.position := by
  fun_induction argumentList stop ls generalizing args rest with
  | case1 | case2 | case3 | case4 | case6 | case8 => cases h
  | case5 a s rest' argument ha _ args' rest'' hrec ih =>
      cases h
      refine List.forall_mem_cons.mpr ⟨⟨a, List.mem_cons_self, Lexeme.position_of_argument? ha⟩, ?_⟩
      intro b hb
      obtain ⟨l, hl, hposition⟩ := ih hrec b hb
      exact ⟨l, List.mem_cons_of_mem a (List.mem_cons_of_mem s hl), hposition⟩
  | case7 a s rest' argument ha =>
      cases h
      exact List.forall_mem_singleton.mpr ⟨a, List.mem_cons_self, Lexeme.position_of_argument? ha⟩

theorem position_of_arguments {rest : List Lexeme} {args : List Argument}
    (h : arguments stop ls = .ok (args, rest)) : ∀ a ∈ args, ∃ l ∈ ls, a.position = l.position := by
  unfold arguments at h
  split at h
  · cases h
  · cases h
  · next l rest' hexpect =>
    obtain ⟨p, rfl, -⟩ := expect_eq_ok_iff.mp hexpect
    split at h
    · cases h
      exact nofun
    · intro a ha
      obtain ⟨m, hm, hposition⟩ := position_of_argumentList h a ha
      exact ⟨m, List.mem_cons_of_mem p hm, hposition⟩

theorem comparator_position {position : Nat} {content : String} {op : CompareOp}
    (h : comparator position content op = .error e) : e.position = position := by
  unfold comparator at h
  split at h
  · cases h
    rfl
  · dsimp only at h
    split at h
    · cases h
    · cases h
    · split at h
      · cases h
      · cases h
        rfl
    · split at h
      · split at h
        · cases h
        · cases h
          rfl
      · cases h
        rfl
    · cases h
      rfl

namespace Argument

variable {a : Argument}

theorem text?_position (h : a.text? = .error e) : e.position = a.position := by
  cases a with
  | text => cases h
  | op =>
      cases h
      rfl

theorem op?_position (h : a.op? = .error e) : e.position = a.position := by
  cases a with
  | op => cases h
  | text =>
      cases h
      rfl

theorem comparator?_position {op : CompareOp} (h : a.comparator? op = .error e) :
    e.position = a.position := by
  cases a with
  | op =>
      cases h
      rfl
  | text => exact comparator_position h

end Argument

/-- A filter is refused at its name or at one of its arguments, if at all. -/
def Blames {α : Type} (position : Nat) (args : List Argument) (result : Except FilterError α) : Prop :=
  ∀ e, result = .error e → e.position = position ∨ ∃ a ∈ args, e.position = a.position

namespace Blames

variable {α β : Type} {position : Nat} {args : List Argument}

theorem ok (result : α) : Blames position args (.ok result) :=
  nofun

theorem name (fault : SyntaxFault) : Blames position args (.error ⟨position, fault⟩ : Except _ α) := by
  rintro _ ⟨⟩
  exact .inl rfl

theorem bind {x : Except FilterError α} {f : α → Except FilterError β} (hx : Blames position args x)
    (hf : ∀ a, Blames position args (f a)) : Blames position args (x >>= f) := by
  cases x with
  | error e =>
      rintro _ ⟨⟩
      exact hx e rfl
  | ok a => exact hf a

theorem text? {a : Argument} (ha : a ∈ args) : Blames position args a.text? :=
  fun _ h ↦ .inr ⟨a, ha, Argument.text?_position h⟩

theorem op? {a : Argument} (ha : a ∈ args) : Blames position args a.op? :=
  fun _ h ↦ .inr ⟨a, ha, Argument.op?_position h⟩

theorem comparator? {a : Argument} (ha : a ∈ args) (op : CompareOp) :
    Blames position args (a.comparator? op) :=
  fun _ h ↦ .inr ⟨a, ha, Argument.comparator?_position h⟩

end Blames

theorem buildCompare_blames (position : Nat) (name : String) (field : FilterField)
    (args : List Argument) : Blames position args (buildCompare position name field args) := by
  unfold buildCompare
  split
  · exact .bind (.op? (by simp)) fun op ↦ .bind (.comparator? (by simp) op) fun _ ↦ .ok _
  · exact .name _

theorem build_blames (position : Nat) (name : String) (args : List Argument) :
    Blames position args (build position name args) := by
  unfold build
  dsimp only
  split
  · split
    · exact .bind (.text? (by simp)) fun _ ↦ .ok _
    · exact .name _
  · split
    · exact .bind (.text? (by simp)) fun _ ↦ .ok _
    · exact .name _
  · exact buildCompare_blames _ _ _ _
  · exact buildCompare_blames _ _ _ _
  · exact buildCompare_blames _ _ _ _
  · exact buildCompare_blames _ _ _ _
  · split
    · exact .bind (.text? (by simp)) fun _ ↦ .bind (.text? (by simp)) fun _ ↦
        .bind (.op? (by simp)) fun op ↦ .bind (.comparator? (by simp) op) fun _ ↦ .ok _
    · exact .name _
  · split
    · exact .ok _
    · exact .name _
  · split
    · exact .ok _
    · exact .name _
  · exact .name _

/-! ## Phrases -/

def Begun (s : Symbol) (ts : List Token) : Prop :=
  ∃ more, Shaped s (ts ++ more)

/-- The beginning of what can follow operands of a chain. -/
def BegunFurther (c : Connective) (ts : List Token) : Prop :=
  ∃ more, ∀ vs, Shaped (.chain c) vs → Shaped (.chain c) (vs ++ (ts ++ more))

theorem BegunFurther.chain (h : BegunFurther c ts) (hus : Shaped c.operand us) :
    Begun (.chain c) (us ++ ts) := by
  obtain ⟨more, hmore⟩ := h
  refine ⟨more, ?_⟩
  rw [List.append_assoc]
  exact hmore us (.single hus)

theorem BegunFurther.cons (h : BegunFurther c ts) (hus : Shaped c.operand us) :
    BegunFurther c (.word c.word :: (us ++ ts)) := by
  obtain ⟨more, hmore⟩ := h
  refine ⟨more, fun vs hvs ↦ ?_⟩
  have hshaped := hmore _ (.chain hvs hus)
  rwa [List.append_assoc, List.cons_append, ← List.append_assoc us] at hshaped

namespace Begun

theorem further (h : Begun c.operand ts) : BegunFurther c (.word c.word :: ts) := by
  obtain ⟨more, hmore⟩ := h
  exact ⟨more, fun vs hvs ↦ .chain hvs hmore⟩

theorem single (h : Begun c.operand ts) : Begun (.chain c) ts := by
  obtain ⟨more, hmore⟩ := h
  exact ⟨more, .single hmore⟩

theorem skip (h : Begun .unary ts) : Begun .unary (.word "SKIP" :: ts) := by
  obtain ⟨more, hmore⟩ := h
  exact ⟨more, .skip hmore⟩

theorem unary (h : Begun .primary ts) : Begun .unary ts := by
  obtain ⟨more, hmore⟩ := h
  exact ⟨more, .primary hmore⟩

theorem parens (h : Begun (.chain .or) ts) : Begun .primary (.openParen :: ts) := by
  obtain ⟨more, hmore⟩ := h
  refine ⟨more ++ [.closeParen], ?_⟩
  rw [List.cons_append, ← List.append_assoc]
  exact .parens hmore

theorem call {name : String} (h : BegunArguments ts) (hname : name ≠ "SKIP") :
    Begun .primary (.word name :: ts) := by
  obtain ⟨args, more, hargs, heq⟩ := h
  refine ⟨more, ?_⟩
  rw [List.cons_append, heq]
  exact .call hname hargs

theorem nil : Begun .unary [] :=
  ⟨.word "KeyOnlyFilter" :: parenthesized [], .primary (.call (by decide) nofun)⟩

end Begun

theorem Spans.shaped {s : Symbol} {f : Filter} {rest : List Lexeme} (h : Spans s ls f rest) :
    ∃ vs, ls = vs ++ rest ∧ Shaped s (vs.map Lexeme.token) := by
  obtain ⟨vs, hvs, hderives⟩ := h
  exact ⟨vs, hvs, hderives.shaped⟩

theorem readOperand_sound {f : Filter} {rest : Rest ls} (h : c.readOperand stop ls = .ok (f, rest)) :
    Spans c.operand ls f rest := by
  cases c with
  | or => exact andExpr_sound h
  | and => exact unary_sound h

theorem parens_points {rest : List Lexeme} (hopen : l.token = .openParen)
    (hshaped : Shaped (.chain .or) (vs.map Lexeme.token)) (h : expect stop .closeParen rest = .error e) :
    Points stop (Begun .primary) (l :: (vs ++ rest)) e := by
  rcases expect_eq_error h with ⟨m, hm, hposition⟩ | ⟨rfl, hposition⟩
  · exact .at_token (List.mem_cons_of_mem l (List.mem_append_right vs hm)) hposition
  · rw [List.append_nil]
    refine .at_end hposition ?_ ?_
    · -- Only the closing parenthesis is missing.
      rw [List.map_cons, hopen]
      exact ⟨[.closeParen], .parens hshaped⟩
    · rw [List.map_cons, hopen]
      exact hshaped.closed.unclosed_of_open

-- Refusals come from further in: what was read before them is closed (`Shaped.closed`), so that tokens
-- that are unclosed after it are unclosed with it.
mutual

theorem chain_points {c : Connective} {stop : Nat} {ls : List Lexeme} {e : FilterError}
    (h : c.readChain stop ls = .error e) : Points stop (Begun (.chain c)) ls e := by
  rw [c.readChain_eq] at h
  split at h
  · next herror =>
    cases h
    exact (operand_points herror).mono fun _ ↦ Begun.single
  · next first rest hfirst =>
    split at h
    · next herror =>
      cases h
      obtain ⟨hne, hpoints⟩ := further_points herror
      obtain ⟨vs, hvs, hshaped⟩ := (readOperand_sound hfirst).shaped
      rw [hvs]
      exact hpoints.append hne hshaped.closed fun ts hts ↦ hts.chain hshaped
    · cases h
termination_by (ls.length, Checked.depth c + 1)

theorem operand_points {c : Connective} {stop : Nat} {ls : List Lexeme} {e : FilterError}
    (h : c.readOperand stop ls = .error e) : Points stop (Begun c.operand) ls e := by
  cases c with
  | or => exact chain_points h
  | and => exact unary_points h
termination_by (ls.length, Checked.depth c)

theorem further_points {c : Connective} {stop : Nat} {e : FilterError} : {ls : List Lexeme} →
    c.readTail stop ls = .error e → ls ≠ [] ∧ Points stop (BegunFurther c) ls e
  | [], h => by
      rw [c.readTail_nil] at h
      cases h
  | l :: ls, h => by
      refine ⟨List.cons_ne_nil l ls, ?_⟩
      rw [c.readTail_cons] at h
      split at h
      · next hl =>
        split at h
        · next herror =>
          cases h
          exact (operand_points herror).cons (by simp [hl]) fun ts hts ↦ hl ▸ hts.further
        · next next rest hnext =>
          split at h
          · next herror =>
            cases h
            obtain ⟨hne, hpoints⟩ := further_points herror
            obtain ⟨vs, hvs, hshaped⟩ := (readOperand_sound hnext).shaped
            have hafter : Points stop (fun ts ↦ BegunFurther c (.word c.word :: ts)) ls e := by
              rw [hvs]
              exact hpoints.append hne hshaped.closed fun ts hts ↦ hts.cons hshaped
            exact hafter.cons (by simp [hl]) fun ts hts ↦ hl ▸ hts
          · cases h
      · cases h
termination_by ls => (ls.length, 0)

theorem unary_points {stop : Nat} {e : FilterError} : {ls : List Lexeme} →
    unary stop ls = .error e → Points stop (Begun .unary) ls e
  | [], h => by
      rw [unary] at h
      cases h
      exact .at_end rfl .nil unclosed_nil
  | l :: ls, h => by
      rw [unary] at h
      split at h
      · next hl =>
        split at h
        · next herror =>
          cases h
          exact (unary_points herror).cons (by simp [hl]) fun ts hts ↦ hl ▸ hts.skip
        · cases h
      · next hl => exact (primary_points hl h).mono fun _ ↦ Begun.unary
termination_by ls => (ls.length, 1)

theorem primary_points {stop : Nat} {l : Lexeme} {ls : List Lexeme} {e : FilterError}
    (hl : l.token ≠ .word "SKIP") (h : primary stop l ls = .error e) :
    Points stop (Begun .primary) (l :: ls) e := by
  rw [primary] at h
  split at h
  · next hopen =>
    split at h
    · next herror =>
      cases h
      have hinner : Points stop (Begun (.chain .or)) ls e := chain_points (c := .or) herror
      exact hinner.cons (by simp [hopen]) fun ts hts ↦ hopen ▸ hts.parens
    · next inner rest hinner =>
      obtain ⟨vs, hvs, hshaped⟩ := (orExpr_sound hinner).shaped
      split at h
      · next herror =>
        cases h
        rw [hvs]
        exact parens_points hopen hshaped herror
      · cases h
  · next name hname =>
    split at h
    · next herror =>
      cases h
      refine (arguments_points herror).cons (by simp [hname]) fun ts hts ↦ ?_
      rw [hname]
      exact .call hts fun hskip ↦ hl (hskip ▸ hname)
    · next args rest hargs =>
      split at h
      · next herror =>
        cases h
        rcases build_blames _ _ _ _ herror with hposition | ⟨a, ha, hposition⟩
        · exact .at_token List.mem_cons_self hposition
        · obtain ⟨m, hm, hm'⟩ := position_of_arguments hargs a ha
          exact .at_token (List.mem_cons_of_mem l hm) (hposition.trans hm')
      · cases h
  · cases h
    exact .at_token List.mem_cons_self rfl
termination_by (ls.length, 6)

end

end Filter

end ColumnStore
