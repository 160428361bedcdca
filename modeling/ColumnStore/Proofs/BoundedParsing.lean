import ColumnStore.Proofs.BoundedScanning
import ColumnStore.Proofs.Lookahead

/-!
# Reading filter expressions with a bounded number of open calls

Here the readers go over the tokens by place, and each call gets a number of calls that may still be open
inside it; a round of a loop counts as a call. When that is used up there is no result. Four calls for
each token that is left, and four more, are enough (`Bounded.read_eq`): a reader that calls another one
for the same tokens calls one further in, and that happens three times at most before a token is taken.
-/

namespace ColumnStore

namespace Filter

namespace Bounded

open Checked (Reading unchecked unchecked_ok_bind)

/-! ## Readers by place -/

def unfinished {α : Type} : Reading α :=
  ExceptT.mk none

def isAt (tokens : List Lexeme) (pos : Nat) (token : Token) : Bool :=
  tokens[pos]?.any (·.token = token)

def expect (tokens : List Lexeme) (stop : Nat) (wanted : Token) (pos : Nat) : Reading Nat :=
  match tokens[pos]? with
  | none => throw ⟨stop, .expected wanted none⟩
  | some l =>
    if l.token = wanted then pure (pos + 1)
    else throw ⟨l.position, .expected wanted (some l.token)⟩

def argumentList (tokens : List Lexeme) (stop : Nat) : (calls : Nat) → (pos : Nat) →
    Reading (List Argument × Nat)
  | 0, _ => unfinished
  | calls + 1, pos =>
    match tokens[pos]? with
    | none => throw ⟨stop, .unclosedArguments⟩
    | some a =>
      match a.argument? with
      | none => throw ⟨a.position, .expectedArgument a.token⟩
      | some argument =>
        match tokens[pos + 1]? with
        | none => throw ⟨stop, .unclosedArguments⟩
        | some s =>
          if s.token = .comma then do
            let (arguments, pos) ← argumentList tokens stop calls (pos + 2)
            pure (argument :: arguments, pos)
          else if s.token = .closeParen then pure ([argument], pos + 2)
          else throw ⟨s.position, .expectedSeparator s.token⟩

def arguments (tokens : List Lexeme) (stop calls pos : Nat) : Reading (List Argument × Nat) := do
  let pos ← expect tokens stop .openParen pos
  if isAt tokens pos .closeParen then pure ([], pos + 1)
  else argumentList tokens stop calls pos

mutual

def read (tokens : List Lexeme) (stop : Nat) : (calls : Nat) → Symbol → (pos : Nat) →
    Reading (Filter × Nat)
  | 0, _, _ => unfinished
  | calls + 1, .chain c, pos => do
    let (first, pos) ← read tokens stop calls c.operand pos
    let (others, pos) ← further tokens stop calls c pos
    pure (join c.combine first others, pos)
  | calls + 1, .unary, pos =>
    if isAt tokens pos (.word "SKIP") then do
      let (inner, pos) ← read tokens stop calls .unary (pos + 1)
      pure (.skip inner, pos)
    else read tokens stop calls .primary pos
  | calls + 1, .primary, pos =>
    match tokens[pos]? with
    | none => throw ⟨stop, .expectedFilter none⟩
    | some l =>
      match l.token with
      | .openParen => do
        let (inner, pos) ← read tokens stop calls (.chain .or) (pos + 1)
        let pos ← expect tokens stop .closeParen pos
        pure (inner, pos)
      | .word name => do
        let (args, pos) ← arguments tokens stop calls (pos + 1)
        let filter ← unchecked (build l.position name args)
        pure (filter, pos)
      | other => throw ⟨l.position, .expectedFilter (some other)⟩

def further (tokens : List Lexeme) (stop : Nat) : (calls : Nat) → Connective → (pos : Nat) →
    Reading (List Filter × Nat)
  | 0, _, _ => unfinished
  | calls + 1, c, pos =>
    if isAt tokens pos (.word c.word) then do
      let (next, pos) ← read tokens stop calls c.operand (pos + 1)
      let (others, pos) ← further tokens stop calls c pos
      pure (next :: others, pos)
    else pure ([], pos)

end

/-! ## Enough calls -/

variable {tokens : List Lexeme} {stop : Nat}

theorem head_eq {pos : Nat} {l : Lexeme} {ls : List Lexeme} (h : tokens.drop pos = l :: ls) :
    tokens[pos]? = some l := by
  rw [← List.head?_drop, h, List.head?_cons]

theorem drop_succ_eq {pos : Nat} {l : Lexeme} {ls : List Lexeme} (h : tokens.drop pos = l :: ls) :
    tokens.drop (pos + 1) = ls := by
  rw [← List.tail_drop, h, List.tail_cons]

theorem head_eq_none {pos : Nat} (h : tokens.drop pos = []) : tokens[pos]? = none := by
  rw [← List.head?_drop, h, List.head?_nil]

theorem isAt_nil {pos : Nat} (h : tokens.drop pos = []) (token : Token) :
    isAt tokens pos token = false := by
  rw [isAt, head_eq_none h, Option.any_none]

theorem isAt_cons {pos : Nat} {l : Lexeme} {ls : List Lexeme} (h : tokens.drop pos = l :: ls)
    (token : Token) : isAt tokens pos token ↔ l.token = token := by
  rw [isAt, head_eq h, Option.any_some, decide_eq_true_iff]

theorem place_of_cons {pos : Nat} {l : Lexeme} {ls : List Lexeme} (h : tokens.drop pos = l :: ls) :
    tokens.length - ls.length = pos + 1 := by
  have hlength := congrArg List.length h
  rw [List.length_drop, List.length_cons] at hlength
  omega

theorem drop_place {pos : Nat} {us rest : List Lexeme} (h : tokens.drop pos = us ++ rest) :
    tokens.drop (tokens.length - rest.length) = rest :=
  have hsuffix : rest <:+ tokens := ((List.suffix_append us rest).trans (h ▸ List.drop_suffix pos tokens))
  (List.suffix_iff_eq_drop.mp hsuffix).symm

theorem argumentList_eq {calls pos : Nat} {ls : List Lexeme} (hls : tokens.drop pos = ls)
    (h : ls.length < calls) :
    argumentList tokens stop calls pos =
      unchecked ((Filter.argumentList stop ls).map (place tokens)) := by
  induction calls generalizing pos ls with
  | zero => exact absurd h (Nat.not_lt_zero _)
  | succ calls ih =>
      rw [argumentList]
      match ls, hls with
      | [], hls =>
          rw [head_eq_none hls]
          rfl
      | [a], hls =>
          rw [head_eq hls, head_eq_none (drop_succ_eq hls), Filter.argumentList]
          dsimp only
          cases a.argument? <;> rfl
      | a :: s :: rest, hls =>
          have hnext := drop_succ_eq hls
          rw [head_eq hls, head_eq hnext, Filter.argumentList]
          dsimp only
          cases a.argument? with
          | none => rfl
          | some argument =>
              dsimp only
              split
              · simp only [List.length_cons] at h
                rw [ih (drop_succ_eq hnext) (by omega)]
                cases Filter.argumentList stop rest <;> rfl
              · split
                · rw [Except.map, place, place_of_cons hnext]
                  rfl
                · rfl

theorem expect_eq {wanted : Token} {pos : Nat} {ls : List Lexeme} (hls : tokens.drop pos = ls) :
    expect tokens stop wanted pos =
      unchecked ((Filter.expect stop wanted ls).map fun rest ↦ tokens.length - rest.length) := by
  rw [expect]
  match ls, hls with
  | [], hls =>
      rw [head_eq_none hls]
      rfl
  | l :: ls, hls =>
      rw [head_eq hls, Filter.expect]
      dsimp only
      split
      · rw [Except.map, place_of_cons hls]
        rfl
      · rfl

theorem arguments_eq {calls pos : Nat} {ls : List Lexeme} (hls : tokens.drop pos = ls)
    (h : ls.length < calls) :
    arguments tokens stop calls pos = unchecked ((Filter.arguments stop ls).map (place tokens)) := by
  rw [arguments, expect_eq hls, Filter.arguments]
  cases hexpect : Filter.expect stop .openParen ls with
  | error e => rfl
  | ok rest =>
      obtain ⟨p, rfl, -⟩ := expect_eq_ok_iff.mp hexpect
      have hrest := drop_succ_eq hls
      rw [List.length_cons] at h
      rw [Except.map, unchecked_ok_bind, place_of_cons hls]
      cases rest with
      | nil =>
          rw [isAt_nil hrest, argumentList_eq hrest (by omega)]
          rfl
      | cons l rest =>
          simp only [isAt_cons hrest]
          split
          · rw [Except.map, place, place_of_cons hrest]
            rfl
          · exact argumentList_eq hrest (by omega)

/-- After a reader that succeeded, one goes on at the place of what it left. -/
theorem place_bind {α β γ : Type} {result : Except FilterError (α × List Lexeme)}
    {next : α × Nat → Reading γ} {next' : α × List Lexeme → Except FilterError β} {f : β → γ}
    (h : ∀ a rest, result = .ok (a, rest) →
      next (place tokens (a, rest)) = unchecked ((next' (a, rest)).map f)) :
    (unchecked (result.map (place tokens)) >>= next) = unchecked ((result >>= next').map f) := by
  cases result with
  | error e => rfl
  | ok read => exact h read.1 read.2 rfl

/-- How many calls there may be, one inside another, before a token is taken. -/
def inward : Symbol → Nat
  | .chain .or => 3
  | .chain .and => 2
  | .unary => 1
  | .primary => 0

theorem inward_operand (c : Connective) : inward c.operand + 1 = inward (.chain c) := by
  cases c <;> rfl

theorem inward_operand_le (c : Connective) : inward c.operand ≤ 2 := by
  cases c <;> decide

theorem exists_taken {s : Symbol} {pos : Nat} {ls rest : List Lexeme} {f : Filter}
    (hls : tokens.drop pos = ls) (h : s.reader stop ls = .ok (f, rest)) :
    rest.length < ls.length ∧ tokens.drop (tokens.length - rest.length) = rest := by
  obtain ⟨us, -, hus, -⟩ := local_reader s h
  exact ⟨length_reader_lt h, drop_place (hls.trans hus)⟩

-- The induction is on the calls that may be open.
mutual

/-- With enough calls for the tokens ahead, reading by place is reading what is left of the tokens. -/
theorem read_eq_reader {calls pos : Nat} {s : Symbol} {ls : List Lexeme} (hls : tokens.drop pos = ls)
    (h : 4 * ls.length + inward s < calls) :
    read tokens stop calls s pos = unchecked ((s.reader stop ls).map (place tokens)) := by
  cases calls with
  | zero => exact absurd h (Nat.not_lt_zero _)
  | succ calls =>
    cases s with
    | chain c =>
        have hinward := inward_operand c
        rw [read, read_eq_reader hls (by omega), reader_chain]
        refine place_bind fun first rest hfirst ↦ ?_
        obtain ⟨hshorter, hrest⟩ := exists_taken hls hfirst
        dsimp only [place]
        rw [further_eq hrest rfl (by omega)]
        exact place_bind fun others tail _ ↦ rfl
    | unary =>
        rw [read]
        match ls, hls with
        | [], hls =>
            rw [isAt_nil hls, reader_unary_nil]
            exact read_eq_reader hls (by simp only [inward] at h ⊢; omega)
        | l :: ls, hls =>
            rw [List.length_cons, inward] at h
            simp only [isAt_cons hls, reader_unary_cons]
            split
            · rw [read_eq_reader (drop_succ_eq hls) (by rw [inward]; omega)]
              exact place_bind fun inner rest _ ↦ rfl
            · exact read_eq_reader hls (by rw [List.length_cons, inward]; omega)
    | primary =>
        rw [read]
        match ls, hls with
        | [], hls =>
            rw [head_eq_none hls]
            rfl
        | l :: ls, hls =>
            rw [List.length_cons, inward] at h
            have hnext := drop_succ_eq hls
            rw [head_eq hls, reader_primary_cons]
            dsimp only
            generalize l.token = token
            cases token with
            | openParen =>
                dsimp only
                rw [read_eq_reader hnext (by rw [inward]; omega)]
                refine place_bind fun inner rest hinner ↦ ?_
                obtain ⟨-, hrest⟩ := exists_taken hnext hinner
                dsimp only [place]
                rw [expect_eq hrest]
                cases Filter.expect stop .closeParen rest <;> rfl
            | word name =>
                dsimp only
                rw [arguments_eq hnext (by omega)]
                refine place_bind fun args rest _ ↦ ?_
                dsimp only [place]
                cases build l.position name args <;> rfl
            | text | op | closeParen | comma => rfl
termination_by calls

theorem further_eq {calls pos : Nat} {c : Connective} {ls : List Lexeme} (hls : tokens.drop pos = ls)
    (hpos : tokens.length - ls.length = pos) (h : 4 * ls.length < calls) :
    further tokens stop calls c pos = unchecked ((c.tailReader stop ls).map (place tokens)) := by
  cases calls with
  | zero => exact absurd h (Nat.not_lt_zero _)
  | succ calls =>
    rw [further]
    match ls, hls with
    | [], hls =>
        rw [isAt_nil hls, tailReader_nil, Except.map, place, hpos]
        rfl
    | l :: ls, hls =>
        have hinward := inward_operand_le c
        rw [List.length_cons] at h
        simp only [isAt_cons hls, tailReader_cons]
        split
        · rw [read_eq_reader (drop_succ_eq hls) (by omega)]
          refine place_bind fun next rest hnext ↦ ?_
          obtain ⟨hshorter, hrest⟩ := exists_taken (drop_succ_eq hls) hnext
          dsimp only [place]
          rw [further_eq hrest rfl (by omega)]
          exact place_bind fun others tail _ ↦ rfl
        · rw [Except.map, place, hpos]
          rfl
termination_by calls

end

/-! ## Every reader ends and goes forward -/

theorem inward_le (s : Symbol) : inward s ≤ 3 := by
  match s with
  | .chain .or | .chain .and | .unary | .primary => decide

theorem run_read (tokens : List Lexeme) (stop : Nat) (s : Symbol) {pos calls : Nat}
    (h : 4 * (tokens.length - pos) + 4 ≤ calls) :
    (read tokens stop calls s pos).run = some (outcome s.reader tokens stop pos) := by
  have hinward := inward_le s
  rw [read_eq_reader rfl (by rw [List.length_drop]; omega)]
  rfl

theorem run_arguments (tokens : List Lexeme) (stop : Nat) {pos calls : Nat}
    (h : tokens.length - pos < calls) :
    (arguments tokens stop calls pos).run = some (outcome Filter.arguments tokens stop pos) := by
  rw [arguments_eq rfl (by rwa [List.length_drop])]
  rfl

/-- Within these bounds the loops over the octets end, and so do the readers over any tokens from any
place on. A reader that succeeds goes forward and looks one token ahead. -/
theorem bounded_forward :
    (∀ (expression : String) (rounds : Nat), (Bytes.ofString expression).length < rounds →
      lex (Bytes.ofString expression) rounds 0 = some (tokenize expression)) ∧
    (∀ (s : Symbol) (tokens : List Lexeme) (stop pos calls : Nat),
      4 * (tokens.length - pos) + 4 ≤ calls →
        (read tokens stop calls s pos).run = some (outcome s.reader tokens stop pos)) ∧
    (∀ (tokens : List Lexeme) (stop pos calls : Nat), tokens.length - pos < calls →
      (arguments tokens stop calls pos).run =
        some (outcome Filter.arguments tokens stop pos)) ∧
    (∀ s : Symbol, Forward (outcome s.reader)) ∧ Forward (outcome Filter.arguments) := by
  refine ⟨fun expression rounds h ↦ lex_eq expression h, ?_, ?_, ?_, ?_⟩
  · exact fun s tokens stop pos calls h ↦ run_read tokens stop s h
  · exact fun tokens stop pos calls h ↦ run_arguments tokens stop h
  · exact fun s ↦ forward_of_local (local_reader s)
  · exact forward_of_local local_arguments

/-- A filter between other tokens. -/
def enclosedSample : List Lexeme :=
  [⟨0, .comma⟩, ⟨2, .word "KeyOnlyFilter"⟩, ⟨15, .openParen⟩, ⟨16, .closeParen⟩, ⟨17, .closeParen⟩,
    ⟨19, .word "AND"⟩]

theorem bounded_enclosedSample :
    tokenize "( <,=)" =
      .ok [⟨0, .openParen⟩, ⟨2, .op .less⟩, ⟨3, .comma⟩, ⟨4, .op .equal⟩, ⟨5, .closeParen⟩] ∧
    outcome (Symbol.chain .or).reader enclosedSample 22 1 = .ok (.keysOnly, 4) ∧
    outcome Filter.arguments enclosedSample 22 2 = .ok ([], 4) ∧
    outcome (Symbol.chain .or).reader (enclosedSample.take 5 ++ [⟨19, .word "OR"⟩]) 21 1 =
      .ok (.keysOnly, 4) := by
  obtain ⟨hlex, hread, harguments, hforward, -⟩ := bounded_forward
  have htokens := Option.some.inj (hlex "( <,=)" 7 (by decide))
  have hfilter := Option.some.inj (hread (.chain .or) enclosedSample 22 1 24 (by decide))
  have hnone := Option.some.inj (harguments enclosedSample 22 2 5 (by decide))
  have hfound : outcome (Symbol.chain .or).reader enclosedSample 22 1 = .ok (.keysOnly, 4) :=
    hfilter.symm
  exact ⟨htokens.symm, hfound, hnone.symm,
    (hforward (.chain .or)).appended hfound (by decide) [⟨19, .word "OR"⟩] 21⟩

end Bounded

end Filter

end ColumnStore
