import ColumnStore.Proofs.CheckedScanning

/-!
# Checked reading of filter expressions

Arguments are taken by their place here, and a single operand is taken out of the list of operands, with a
check that there is something in that place. No check fails, here or in splitting the octets, and what is
read is what `Filter.parse` reads (`Checked.parse_eq`).
-/

namespace ColumnStore

namespace Filter

/-! ## Readers by connective -/

namespace Connective

def readChain (stop : Nat) (ls : List Lexeme) : Connective → Except FilterError (Filter × Rest ls)
  | or => orExpr stop ls
  | and => andExpr stop ls

def readTail (stop : Nat) (ls : List Lexeme) :
    Connective → Except FilterError (List Filter × Tail ls)
  | or => orTail stop ls
  | and => andTail stop ls

def readOperand (stop : Nat) (ls : List Lexeme) : Connective → Except FilterError (Filter × Rest ls)
  | or => andExpr stop ls
  | and => Filter.unary stop ls

variable (c : Connective) (stop : Nat)

theorem readChain_eq (ls : List Lexeme) :
    c.readChain stop ls =
      match c.readOperand stop ls with
      | .error e => .error e
      | .ok (first, rest) =>
        match c.readTail stop rest.1 with
        | .error e => .error e
        | .ok (others, tail) =>
          .ok (join c.combine first others, ⟨tail, Nat.lt_of_le_of_lt tail.2 rest.2⟩) := by
  cases c with
  | or => exact orExpr.eq_1 stop ls
  | and => exact andExpr.eq_1 stop ls

theorem readTail_nil : c.readTail stop [] = .ok ([], ⟨[], Nat.le_refl _⟩) := by
  cases c with
  | or => exact orTail.eq_1 stop
  | and => exact andTail.eq_1 stop

theorem readTail_cons (l : Lexeme) (ls : List Lexeme) :
    c.readTail stop (l :: ls) =
      if l.token = .word c.word then
        match c.readOperand stop ls with
        | .error e => .error e
        | .ok (next, rest) =>
          match c.readTail stop rest.1 with
          | .error e => .error e
          | .ok (others, tail) =>
            .ok (next :: others,
              ⟨tail, Nat.le_succ_of_le (Nat.le_of_lt (Nat.lt_of_le_of_lt tail.2 rest.2))⟩)
      else .ok ([], ⟨l :: ls, Nat.le_refl _⟩) := by
  cases c with
  | or => exact orTail.eq_2 stop l ls
  | and => exact andTail.eq_2 stop l ls

end Connective

namespace Checked

/-! ## Filters by name -/

/-- What is read, or an error, unless a check fails. -/
abbrev Reading (α : Type) := ExceptT FilterError Option α

def unchecked {α : Type} (result : Except FilterError α) : Reading α :=
  ExceptT.mk (some result)

/-- A result together with the knowledge that it is the one. -/
def attached {α : Type} : (result : Except FilterError α) → Reading { a // result = .ok a }
  | .error e => throw e
  | .ok a => pure ⟨a, rfl⟩

def argumentAt (args : List Argument) (k : Nat) : Reading Argument :=
  ExceptT.lift args[k]?

def requireCount (position : Nat) (name : String) (args : List Argument) (wanted : Nat) : Reading Unit :=
  if args.length = wanted then pure ()
  else throw ⟨position, .argumentCount name wanted args.length⟩

def buildCompare (position : Nat) (name : String) (field : FilterField) (args : List Argument) :
    Reading Filter := do
  requireCount position name args 2
  let op ← unchecked (← argumentAt args 0).op?
  let comparator ← unchecked ((← argumentAt args 1).comparator? op)
  pure (.compare field op comparator)

def build (position : Nat) (name : String) (args : List Argument) : Reading Filter :=
  match name with
  | "PrefixFilter" => do
    requireCount position name args 1
    let beginning ← unchecked (← argumentAt args 0).text?
    pure (.rowPrefix (Bytes.ofString beginning))
  | "ColumnPrefixFilter" => do
    requireCount position name args 1
    let beginning ← unchecked (← argumentAt args 0).text?
    pure (.columnPrefix (Bytes.ofString beginning))
  | "RowFilter" => buildCompare position name .row args
  | "FamilyFilter" => buildCompare position name .family args
  | "QualifierFilter" => buildCompare position name .qualifier args
  | "ValueFilter" => buildCompare position name .value args
  | "SingleColumnValueFilter" => do
    requireCount position name args 4
    let family ← unchecked (← argumentAt args 0).text?
    let qualifier ← unchecked (← argumentAt args 1).text?
    let op ← unchecked (← argumentAt args 2).op?
    let comparator ← unchecked ((← argumentAt args 3).comparator? op)
    pure (.columnValue (Bytes.ofString family) (Bytes.ofString qualifier) op comparator)
  | "FirstKeyOnlyFilter" => do
    requireCount position name args 0
    pure .firstOfRow
  | "KeyOnlyFilter" => do
    requireCount position name args 0
    pure .keysOnly
  | other => throw ⟨position, .unknownFilter other⟩

theorem attached_error {α : Type} {result : Except FilterError α} {e : FilterError}
    (h : result = .error e) : attached result = unchecked (.error e) := by
  subst h
  rfl

theorem attached_ok {α : Type} {result : Except FilterError α} {a : α} (h : result = .ok a) :
    attached result = unchecked (.ok ⟨a, h⟩) := by
  subst h
  rfl

theorem unchecked_ok_bind {α β : Type} (a : α) (next : α → Reading β) :
    (unchecked (.ok a) >>= next) = next a := rfl

theorem unchecked_bind {α β : Type} (result : Except FilterError α) {next : α → Reading β}
    {next' : α → Except FilterError β} (h : ∀ a, next a = unchecked (next' a)) :
    (unchecked result >>= next) = unchecked (result >>= next') := by
  cases result with
  | error e => rfl
  | ok a => exact h a

theorem buildCompare_eq (position : Nat) (name : String) (field : FilterField) (args : List Argument) :
    buildCompare position name field args =
      unchecked (Filter.buildCompare position name field args) := by
  match args with
  | [op, comparator] =>
      exact unchecked_bind op.op? fun op ↦ unchecked_bind (comparator.comparator? op) fun _ ↦ rfl
  | [] | [_] | _ :: _ :: _ :: _ => rfl

theorem build_eq (position : Nat) (name : String) (args : List Argument) :
    build position name args = unchecked (Filter.build position name args) := by
  unfold Filter.build
  dsimp only
  split
  · match args with
    | [beginning] => exact unchecked_bind beginning.text? fun _ ↦ rfl
    | [] | _ :: _ :: _ => rfl
  · match args with
    | [beginning] => exact unchecked_bind beginning.text? fun _ ↦ rfl
    | [] | _ :: _ :: _ => rfl
  · exact buildCompare_eq ..
  · exact buildCompare_eq ..
  · exact buildCompare_eq ..
  · exact buildCompare_eq ..
  · match args with
    | [family, qualifier, op, comparator] =>
        exact unchecked_bind family.text? fun _ ↦ unchecked_bind qualifier.text? fun _ ↦
          unchecked_bind op.op? fun op ↦ unchecked_bind (comparator.comparator? op) fun _ ↦ rfl
    | [] | [_] | [_, _] | [_, _, _] | _ :: _ :: _ :: _ :: _ :: _ => rfl
  · cases args <;> rfl
  · cases args <;> rfl
  · unfold build
    split
    case h_10 => rfl
    all_goals contradiction

/-! ## Expressions -/

def join? (connective : List Filter → Filter) (operands : List Filter) : Option Filter :=
  if operands.length = 1 then operands[0]? else some (connective operands)

theorem join?_eq (connective : List Filter → Filter) (first : Filter) (others : List Filter) :
    join? connective (first :: others) = some (join connective first others) := by
  cases others <;> rfl

/-- Further out in the grammar, for readers of the same tokens. -/
@[simp] def depth : Connective → Nat
  | .or => 4
  | .and => 2

mutual

def chain (c : Connective) (stop : Nat) (ls : List Lexeme) : Reading (Filter × Rest ls) := do
  let (first, rest) ← operand c stop ls
  let (others, tail) ← further c stop rest
  let filter ← ExceptT.lift (join? c.combine (first :: others))
  pure (filter, ⟨tail, Nat.lt_of_le_of_lt tail.2 rest.2⟩)
termination_by (ls.length, depth c + 1)

def operand (c : Connective) (stop : Nat) (ls : List Lexeme) : Reading (Filter × Rest ls) :=
  match c with
  | .or => chain .and stop ls
  | .and => unary stop ls
termination_by (ls.length, depth c)

def further (c : Connective) (stop : Nat) (ls : List Lexeme) : Reading (List Filter × Tail ls) :=
  match ls with
  | [] => pure ([], ⟨[], Nat.le_refl _⟩)
  | l :: ls =>
    if l.token = .word c.word then do
      let (next, rest) ← operand c stop ls
      let (others, tail) ← further c stop rest
      pure (next :: others, ⟨tail, Nat.le_succ_of_le (Nat.le_of_lt (Nat.lt_of_le_of_lt tail.2 rest.2))⟩)
    else pure ([], ⟨l :: ls, Nat.le_refl _⟩)
termination_by (ls.length, 0)

def unary (stop : Nat) (ls : List Lexeme) : Reading (Filter × Rest ls) :=
  match ls with
  | [] => throw ⟨stop, .expectedFilter none⟩
  | l :: ls =>
    if l.token = .word "SKIP" then do
      let (inner, rest) ← unary stop ls
      pure (.skip inner, ⟨rest, Nat.lt_succ_of_lt rest.2⟩)
    else primary stop l ls
termination_by (ls.length, 1)

def primary (stop : Nat) (l : Lexeme) (ls : List Lexeme) : Reading (Filter × Rest (l :: ls)) :=
  match l.token with
  | .openParen => do
    let (inner, rest) ← chain .or stop ls
    let ⟨tail, h⟩ ← attached (expect stop .closeParen rest)
    pure (inner, ⟨tail, by
      have hlength := length_expect h
      have hrest := rest.2
      simp only [List.length_cons]
      omega⟩)
  | .word name => do
    let ⟨(args, rest), h⟩ ← attached (arguments stop ls)
    let filter ← build l.position name args
    pure (filter, ⟨rest, Nat.lt_succ_of_lt (length_arguments_lt h)⟩)
  | other => throw ⟨l.position, .expectedFilter (some other)⟩
termination_by (ls.length, 6)

end

-- The induction is on the tokens that are left, and for the same tokens on how far out a reader is.
mutual

theorem chain_eq (c : Connective) (stop : Nat) (ls : List Lexeme) :
    chain c stop ls = unchecked (c.readChain stop ls) := by
  rw [chain, c.readChain_eq, operand_eq]
  cases c.readOperand stop ls with
  | error e => rfl
  | ok read =>
      obtain ⟨first, rest⟩ := read
      rw [unchecked_ok_bind]
      dsimp only
      rw [further_eq]
      cases c.readTail stop rest.1 with
      | error e => rfl
      | ok read =>
          obtain ⟨others, tail⟩ := read
          rw [unchecked_ok_bind]
          dsimp only
          rw [join?_eq]
          rfl
termination_by (ls.length, depth c + 1)

theorem operand_eq (c : Connective) (stop : Nat) (ls : List Lexeme) :
    operand c stop ls = unchecked (c.readOperand stop ls) := by
  cases c with
  | or =>
      rw [operand]
      exact chain_eq .and stop ls
  | and =>
      rw [operand]
      exact unary_eq stop ls
termination_by (ls.length, depth c)

theorem further_eq (c : Connective) (stop : Nat) : (ls : List Lexeme) →
    further c stop ls = unchecked (c.readTail stop ls)
  | [] => by
      rw [further, c.readTail_nil]
      rfl
  | l :: ls => by
      rw [further, c.readTail_cons]
      by_cases hl : l.token = .word c.word
      · rw [if_pos hl, if_pos hl, operand_eq]
        cases c.readOperand stop ls with
        | error e => rfl
        | ok read =>
            obtain ⟨next, rest⟩ := read
            rw [unchecked_ok_bind]
            dsimp only
            rw [further_eq]
            cases c.readTail stop rest.1 with
            | error e => rfl
            | ok read => rfl
      · rw [if_neg hl, if_neg hl]
        rfl
termination_by ls => (ls.length, 0)

theorem unary_eq (stop : Nat) : (ls : List Lexeme) →
    unary stop ls = unchecked (Filter.unary stop ls)
  | [] => by
      rw [unary, Filter.unary]
      rfl
  | l :: ls => by
      rw [unary, Filter.unary]
      by_cases hl : l.token = .word "SKIP"
      · rw [if_pos hl, if_pos hl, unary_eq stop ls]
        cases Filter.unary stop ls with
        | error e => rfl
        | ok read => rfl
      · rw [if_neg hl, if_neg hl, primary_eq stop l ls]
termination_by ls => (ls.length, 1)

theorem primary_eq (stop : Nat) (l : Lexeme) (ls : List Lexeme) :
    primary stop l ls = unchecked (Filter.primary stop l ls) := by
  rw [primary, Filter.primary]
  generalize l.token = token
  cases token with
  | openParen =>
      dsimp only
      rw [chain_eq .or stop ls, Connective.readChain]
      cases orExpr stop ls with
      | error e => rfl
      | ok read =>
          obtain ⟨inner, rest⟩ := read
          rw [unchecked_ok_bind]
          dsimp only
          split
          · next e herror =>
            rw [attached_error herror]
            rfl
          · next tail htail =>
            rw [attached_ok htail]
            rfl
  | word name =>
      dsimp only
      split
      · next e herror =>
        rw [attached_error herror]
        rfl
      · next args rest hargs =>
        rw [attached_ok hargs, unchecked_ok_bind]
        dsimp only
        rw [build_eq]
        cases Filter.build l.position name args with
        | error e => rfl
        | ok filter => rfl
  | text | op | closeParen | comma => rfl
termination_by (ls.length, 6)

end

def parse (expression : String) : Reading Filter := do
  let ls ← ExceptT.mk (lex (Bytes.ofString expression) 0)
  let (filter, rest) ← chain .or (Bytes.ofString expression).length ls
  match rest with
  | ⟨[], _⟩ => pure filter
  | ⟨l :: _, _⟩ => throw ⟨l.position, .unexpected l.token⟩

/-- No check fails, and what is read is the same. -/
theorem parse_eq (expression : String) : parse expression = unchecked (Filter.parse expression) := by
  have hencode : Bytes.ofString expression = Utf8.encode expression.toList :=
    Bytes.ofString_eq expression
  have hlex : ExceptT.mk (lex (Utf8.encode expression.toList) 0) =
      unchecked (Filter.lex 0 expression.toList) :=
    congrArg ExceptT.mk (lex_eq [] expression.toList rfl)
  rw [parse, hencode, hlex, Filter.parse, tokenize, Utf8.length_encode]
  cases Filter.lex 0 expression.toList with
  | error e => rfl
  | ok ls =>
      rw [unchecked_ok_bind, chain_eq, Connective.readChain]
      dsimp only
      cases orExpr (octets expression.toList) ls with
      | error e => rfl
      | ok read =>
          obtain ⟨filter, rest, hrest⟩ := read
          cases rest <;> rfl

end Checked

end Filter

end ColumnStore
