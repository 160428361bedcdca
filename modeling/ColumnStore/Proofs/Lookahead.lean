import ColumnStore.Proofs.CheckedParsing

/-!
# What the readers of filter expressions look at

A reader that succeeds takes a token at least, and it looks at the tokens that it takes and at the one
behind them (`Local`). So nothing that comes later changes what it finds or where it stops (`Forward`).
-/

namespace ColumnStore

namespace Filter

/-! ## Readers and what they leave -/

def plain {α : Type} {p : List Lexeme → Prop} (result : Except FilterError (α × { rest // p rest })) :
    Except FilterError (α × List Lexeme) :=
  result.map fun read ↦ (read.1, read.2.1)

theorem plain_eq_ok_iff {α : Type} {p : List Lexeme → Prop}
    {result : Except FilterError (α × { rest // p rest })} {a : α} {rest : List Lexeme} :
    plain result = .ok (a, rest) ↔ ∃ h, result = .ok (a, ⟨rest, h⟩) := by
  cases result with
  | error e => simp [plain, Except.map]
  | ok read =>
      obtain ⟨b, rest', hrest'⟩ := read
      simp only [plain, Except.map, Except.ok.injEq, Prod.mk.injEq, Subtype.mk.injEq]
      constructor
      · rintro ⟨rfl, rfl⟩
        exact ⟨hrest', rfl, rfl⟩
      · rintro ⟨-, rfl, rfl⟩
        exact ⟨rfl, rfl⟩

def Symbol.reader : Symbol → Nat → List Lexeme → Except FilterError (Filter × List Lexeme)
  | .chain c, stop, ls => plain (c.readChain stop ls)
  | .unary, stop, ls => plain (Filter.unary stop ls)
  | .primary, stop, [] => .error ⟨stop, .expectedFilter none⟩
  | .primary, stop, l :: ls => plain (Filter.primary stop l ls)

def Connective.tailReader (c : Connective) (stop : Nat) (ls : List Lexeme) :
    Except FilterError (List Filter × List Lexeme) :=
  plain (c.readTail stop ls)

section Equations

variable (c : Connective) (stop : Nat)

theorem reader_operand (ls : List Lexeme) :
    c.operand.reader stop ls = plain (c.readOperand stop ls) := by
  cases c <;> rfl

theorem reader_chain (ls : List Lexeme) :
    (Symbol.chain c).reader stop ls = (do
      let (first, rest) ← c.operand.reader stop ls
      let (others, tail) ← c.tailReader stop rest
      .ok (join c.combine first others, tail)) := by
  rw [reader_operand, Symbol.reader, c.readChain_eq]
  cases c.readOperand stop ls with
  | error e => rfl
  | ok read =>
      obtain ⟨first, rest⟩ := read
      dsimp only
      change _ = (do
        let (others, tail) ← plain (c.readTail stop rest)
        Except.ok (join c.combine first others, tail))
      cases c.readTail stop rest.1 <;> rfl

theorem tailReader_nil : c.tailReader stop [] = .ok ([], []) := by
  rw [Connective.tailReader, c.readTail_nil]
  rfl

theorem tailReader_cons (l : Lexeme) (ls : List Lexeme) :
    c.tailReader stop (l :: ls) =
      if l.token = .word c.word then do
        let (next, rest) ← c.operand.reader stop ls
        let (others, tail) ← c.tailReader stop rest
        .ok (next :: others, tail)
      else .ok ([], l :: ls) := by
  rw [reader_operand, Connective.tailReader, c.readTail_cons]
  split
  · cases c.readOperand stop ls with
    | error e => rfl
    | ok read =>
        obtain ⟨next, rest⟩ := read
        dsimp only
        change _ = (do
          let (others, tail) ← plain (c.readTail stop rest)
          Except.ok (next :: others, tail))
        cases c.readTail stop rest.1 <;> rfl
  · rfl

theorem reader_unary_nil : Symbol.unary.reader stop [] = Symbol.primary.reader stop [] := by
  rw [Symbol.reader, Filter.unary]
  rfl

theorem reader_unary_cons (l : Lexeme) (ls : List Lexeme) :
    Symbol.unary.reader stop (l :: ls) =
      if l.token = .word "SKIP" then do
        let (inner, rest) ← Symbol.unary.reader stop ls
        .ok (.skip inner, rest)
      else Symbol.primary.reader stop (l :: ls) := by
  rw [Symbol.reader, Filter.unary]
  split
  · rw [Symbol.reader]
    cases Filter.unary stop ls <;> rfl
  · rfl

theorem reader_primary_cons (l : Lexeme) (ls : List Lexeme) :
    Symbol.primary.reader stop (l :: ls) =
      match l.token with
      | .openParen => do
        let (inner, rest) ← (Symbol.chain .or).reader stop ls
        let tail ← expect stop .closeParen rest
        .ok (inner, tail)
      | .word name => do
        let (args, rest) ← arguments stop ls
        let filter ← build l.position name args
        .ok (filter, rest)
      | other => .error ⟨l.position, .expectedFilter (some other)⟩ := by
  change plain (Filter.primary stop l ls) = _
  rw [Filter.primary]
  generalize l.token = token
  cases token with
  | openParen =>
      dsimp only
      rw [Symbol.reader, Connective.readChain]
      cases orExpr stop ls with
      | error e => rfl
      | ok read =>
          obtain ⟨inner, rest⟩ := read
          dsimp only
          change _ = (do
            let tail ← expect stop .closeParen rest
            Except.ok (inner, tail))
          split
          · next e herror =>
            rw [herror]
            rfl
          · next tail htail =>
            simp only [htail]
            rfl
  | word name =>
      dsimp only
      split
      · next e herror =>
        rw [herror]
        rfl
      · next args rest hargs =>
        simp only [hargs]
        change _ = (do
          let filter ← build l.position name args
          Except.ok (filter, rest))
        cases build l.position name args <;> rfl
  | text | op | closeParen | comma => rfl

end Equations

/-! ## Where a reader stops -/

variable {c : Connective} {s : Symbol} {stop : Nat} {ls rest : List Lexeme} {f : Filter}
  {fs : List Filter}

theorem length_reader_lt (h : s.reader stop ls = .ok (f, rest)) : rest.length < ls.length := by
  match s, ls with
  | .chain c, ls => exact (plain_eq_ok_iff.mp h).1
  | .unary, ls => exact (plain_eq_ok_iff.mp h).1
  | .primary, [] => cases h
  | .primary, l :: ls => exact (plain_eq_ok_iff.mp h).1

theorem stopsAt_chain (hword : ¬BeginsWith c.word ls) (hoperand : c.operand.StopsAt ls) :
    (Symbol.chain c).StopsAt ls := by
  intro word hmem
  cases c with
  | or =>
      rcases List.mem_cons.mp hmem with rfl | hmem
      · exact hword
      · exact hoperand word hmem
  | and =>
      rw [List.mem_singleton.mp hmem]
      exact hword

/-- Further operands are read as long as there are any, so that the chain cannot go on behind them. -/
theorem tailReader_stops
    (hoperand : ∀ ls f rest, c.operand.reader stop ls = .ok (f, rest) → c.operand.StopsAt rest) :
    (ls : List Lexeme) → {fs : List Filter} → {rest : List Lexeme} →
      c.tailReader stop ls = .ok (fs, rest) → c.operand.StopsAt ls → (Symbol.chain c).StopsAt rest
  | [], _, _, h, hls => by
      rw [tailReader_nil] at h
      cases h
      exact Symbol.stopsAt_nil _
  | l :: ls, _, _, h, hls => by
      rw [tailReader_cons] at h
      split at h
      · obtain ⟨⟨next, mid⟩, hnext, h⟩ := bind_eq_ok_iff.mp h
        obtain ⟨⟨others, tail⟩, hothers, h⟩ := bind_eq_ok_iff.mp h
        cases h
        have hshorter := length_reader_lt hnext
        exact tailReader_stops hoperand mid hothers (hoperand ls next mid hnext)
      · next hword =>
        cases h
        refine stopsAt_chain (fun hbegins ↦ hword ?_) hls
        simpa [BeginsWith] using hbegins
termination_by ls => ls.length

theorem reader_chain_stops
    (hoperand : ∀ ls f rest, c.operand.reader stop ls = .ok (f, rest) → c.operand.StopsAt rest)
    (h : (Symbol.chain c).reader stop ls = .ok (f, rest)) : (Symbol.chain c).StopsAt rest := by
  rw [reader_chain] at h
  obtain ⟨⟨first, mid⟩, hfirst, h⟩ := bind_eq_ok_iff.mp h
  obtain ⟨⟨others, tail⟩, hothers, h⟩ := bind_eq_ok_iff.mp h
  cases h
  exact tailReader_stops hoperand mid hothers (hoperand ls first mid hfirst)

/-- A reader that succeeds could not have gone on. -/
theorem reader_stops (h : s.reader stop ls = .ok (f, rest)) : s.StopsAt rest := by
  have hand : ∀ ls f rest, (Symbol.chain .and).reader stop ls = .ok (f, rest) →
      (Symbol.chain .and).StopsAt rest := fun ls f rest ↦
    reader_chain_stops fun _ _ _ _ word hword ↦ absurd hword (List.not_mem_nil)
  match s with
  | .chain .or => exact reader_chain_stops hand h
  | .chain .and => exact hand ls f rest h
  | .unary | .primary =>
      intro word hword
      cases hword

/-! ## What a reader depends on -/

/-- A reader that succeeds takes some tokens, and it takes them as well before another rest that begins
with the same token. -/
def Local {α : Type} (reader : Nat → List Lexeme → Except FilterError (α × List Lexeme)) : Prop :=
  ∀ {stop ls a rest}, reader stop ls = .ok (a, rest) → ∃ us, us ≠ [] ∧ ls = us ++ rest ∧
    ∀ stop' rest', rest'.head? = rest.head? → reader stop' (us ++ rest') = .ok (a, rest')

theorem reader_sound (h : s.reader stop ls = .ok (f, rest)) : Spans s ls f rest := by
  match s, ls with
  | .chain .or, ls => exact orExpr_sound (plain_eq_ok_iff.mp h).2
  | .chain .and, ls => exact andExpr_sound (plain_eq_ok_iff.mp h).2
  | .unary, ls => exact unary_sound (plain_eq_ok_iff.mp h).2
  | .primary, [] => cases h
  | .primary, l :: ls => exact primary_sound (plain_eq_ok_iff.mp h).2

theorem reader_of_reads (h : Reads stop s ls f rest) : s.reader stop ls = .ok (f, rest) := by
  match s with
  | .chain .or | .chain .and | .unary => exact plain_eq_ok_iff.mpr h
  | .primary =>
      obtain ⟨l, ls', rfl, -, h⟩ := h
      exact plain_eq_ok_iff.mpr h

/-- Every reader of filters takes the same tokens before all rests that begin alike. -/
theorem local_reader (s : Symbol) : Local s.reader := by
  intro stop ls f rest h
  obtain ⟨us, hls, hderives⟩ := reader_sound h
  refine ⟨us, ?_, hls, fun stop' rest' hrest' ↦ ?_⟩
  · rintro rfl
    have hlength := length_reader_lt h
    rw [hls, List.nil_append] at hlength
    exact Nat.lt_irrefl _ hlength
  · -- Whether a reader goes on is decided by the next token alone, so it stops before `rest'` too.
    have hstops : s.StopsAt rest' := by
      intro word hword
      rw [BeginsWith, hrest']
      exact reader_stops h word hword
    exact reader_of_reads (hderives.read us rest' rfl hstops)

theorem local_argumentList : Local argumentList := by
  intro stop ls args rest h
  fun_induction argumentList stop ls generalizing args rest with
  | case1 | case2 | case3 | case4 | case6 | case8 => cases h
  | case5 a s rest' argument ha hs args' rest'' hrec ih =>
      cases h
      obtain ⟨us, -, rfl, hus⟩ := ih hrec
      refine ⟨a :: s :: us, List.cons_ne_nil _ _, rfl, fun stop' rest' hrest' ↦ ?_⟩
      simp [argumentList, ha, hs, hus stop' rest' hrest']
  | case7 a s rest' argument ha hs hclose =>
      cases h
      refine ⟨[a, s], List.cons_ne_nil _ _, rfl, fun stop' rest' _ ↦ ?_⟩
      simp [argumentList, ha, hclose]

theorem local_arguments : Local arguments := by
  intro stop ls args rest h
  unfold arguments at h
  split at h
  · cases h
  · cases h
  · next l ls' hexpect =>
    obtain ⟨p, rfl, hp⟩ := expect_eq_ok_iff.mp hexpect
    split at h
    · next hclose =>
      cases h
      refine ⟨[p, l], List.cons_ne_nil _ _, rfl, fun stop' rest' _ ↦ ?_⟩
      simp [arguments, expect, hp, hclose]
    · next hclose =>
      obtain ⟨us, hne, hls, hus⟩ := local_argumentList h
      obtain ⟨l', us, rfl⟩ := List.exists_cons_of_ne_nil hne
      obtain ⟨rfl, rfl⟩ := List.cons.inj hls
      refine ⟨p :: l :: us, List.cons_ne_nil _ _, rfl, fun stop' rest' hrest' ↦ ?_⟩
      simp [arguments, expect, hp, hclose, ← hus stop' rest' hrest']

/-! ## Readers by place -/

section Places

variable {α : Type} {reader : Nat → List Lexeme → Except FilterError (α × List Lexeme)}

/-- What is read, and the place of what is left. -/
def place (tokens : List Lexeme) (read : α × List Lexeme) : α × Nat :=
  (read.1, tokens.length - read.2.length)

/-- What a reader finds from a place on, and where it stops. -/
def outcome (reader : Nat → List Lexeme → Except FilterError (α × List Lexeme))
    (tokens : List Lexeme) (stop pos : Nat) : Except FilterError (α × Nat) :=
  (reader stop (tokens.drop pos)).map (place tokens)

/-- A reader that succeeds goes forward, and what it finds depends on the tokens that it takes and on the
one behind them. -/
structure Forward (run : List Lexeme → Nat → Nat → Except FilterError (α × Nat)) : Prop where
  progress : ∀ {tokens stop pos a pos'}, run tokens stop pos = .ok (a, pos') →
    pos < pos' ∧ pos' ≤ tokens.length
  lookahead : ∀ {tokens stop pos a pos'}, run tokens stop pos = .ok (a, pos') →
    ∀ tokens' stop', (∀ k, pos ≤ k → k ≤ pos' → tokens'[k]? = tokens[k]?) →
      run tokens' stop' pos = .ok (a, pos')
  appended : ∀ {tokens stop pos a pos'}, run tokens stop pos = .ok (a, pos') →
    pos' < tokens.length → ∀ more stop',
      run (tokens.take (pos' + 1) ++ more) stop' pos = .ok (a, pos')

theorem drop_eq_of_append {tokens us rest : List Lexeme} {pos : Nat}
    (h : tokens.drop pos = us ++ rest) : tokens.drop (pos + us.length) = rest := by
  rw [← List.drop_drop, h, List.drop_left]

theorem outcome_eq_ok {tokens us rest : List Lexeme} {stop pos : Nat} {a : α} (hne : us ≠ [])
    (hdrop : tokens.drop pos = us ++ rest) (h : reader stop (us ++ rest) = .ok (a, rest)) :
    outcome reader tokens stop pos = .ok (a, pos + us.length) := by
  have hlength := congrArg List.length hdrop
  have hpos := List.length_pos_of_ne_nil hne
  rw [List.length_drop, List.length_append] at hlength
  have hplace : tokens.length - rest.length = pos + us.length := by omega
  rw [outcome, hdrop, h, Except.map, place, hplace]

theorem exists_of_outcome (hlocal : Local reader) {tokens : List Lexeme} {stop pos pos' : Nat} {a : α}
    (h : outcome reader tokens stop pos = .ok (a, pos')) :
    ∃ us, us ≠ [] ∧ pos' = pos + us.length ∧ tokens.drop pos = us ++ tokens.drop pos' ∧
      ∀ stop' rest', rest'.head? = tokens[pos']? → reader stop' (us ++ rest') = .ok (a, rest') := by
  cases hread : reader stop (tokens.drop pos) with
  | error e =>
      rw [outcome, hread] at h
      cases h
  | ok read =>
      obtain ⟨b, rest⟩ := read
      obtain ⟨us, hne, hdrop, hus⟩ := hlocal hread
      obtain ⟨rfl, rfl⟩ := Prod.mk.inj
        (Except.ok.inj ((outcome_eq_ok hne hdrop (hdrop ▸ hread)).symm.trans h))
      rw [drop_eq_of_append hdrop, ← List.head?_drop, drop_eq_of_append hdrop]
      exact ⟨us, hne, rfl, hdrop, hus⟩

theorem lookahead_of_local (hlocal : Local reader) {tokens : List Lexeme} {stop pos pos' : Nat} {a : α}
    (h : outcome reader tokens stop pos = .ok (a, pos')) (tokens' : List Lexeme) (stop' : Nat)
    (hagree : ∀ k, pos ≤ k → k ≤ pos' → tokens'[k]? = tokens[k]?) :
    outcome reader tokens' stop' pos = .ok (a, pos') := by
  obtain ⟨us, hne, rfl, hdrop, hus⟩ := exists_of_outcome hlocal h
  -- Up to `pos'` there are the same tokens, so the ones that are taken are there as well.
  have htaken : tokens'.drop pos = us ++ tokens'.drop (pos + us.length) := by
    refine List.ext_getElem? fun k ↦ ?_
    rw [List.getElem?_drop]
    by_cases hk : k < us.length
    · rw [hagree (pos + k) (by omega) (by omega), ← List.getElem?_drop, hdrop,
        List.getElem?_append_left hk, List.getElem?_append_left hk]
    · rw [List.getElem?_append_right (Nat.le_of_not_lt hk), List.getElem?_drop]
      congr 1
      omega
  refine outcome_eq_ok hne htaken (hus stop' _ ?_)
  rw [List.head?_drop]
  exact hagree _ (Nat.le_add_right _ _) (Nat.le_refl _)

theorem forward_of_local (hlocal : Local reader) : Forward (outcome reader) where
  progress h := by
    obtain ⟨us, hne, rfl, hdrop, -⟩ := exists_of_outcome hlocal h
    have hpos := List.length_pos_of_ne_nil hne
    have hlength := congrArg List.length hdrop
    simp only [List.length_drop, List.length_append] at hlength
    omega
  lookahead h := lookahead_of_local hlocal h
  appended h hless more stop' := by
    refine lookahead_of_local hlocal h _ stop' fun k _ hk ↦ ?_
    rw [List.getElem?_append_left (by rw [List.length_take]; omega), List.getElem?_take_of_lt (by omega)]

end Places

end Filter

end ColumnStore
