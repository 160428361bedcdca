import ColumnStore.Filter
import ColumnStore.Filter.Token

/-!
# Filter expressions

The grammar, in which `SKIP` binds tighter than `AND` and `AND` tighter than `OR`:

* an expression is one or more conjunctions joined by `OR`;
* a conjunction is one or more units joined by `AND`;
* a unit is `SKIP` and a unit, an expression in parentheses, or the name of a filter with its
  arguments in parentheses.

Each reader takes the tokens that are left and gives back the rest, with a proof that it is shorter.
-/

namespace ColumnStore

namespace Filter

/-! ## Arguments -/

inductive Argument where
  | text (position : Nat) (content : String)
  | op (position : Nat) (op : CompareOp)
  deriving DecidableEq

def Lexeme.argument? (l : Lexeme) : Option Argument :=
  match l.token with
  | .text content => some (.text l.position content)
  | .op op => some (.op l.position op)
  | _ => none

/-- Read arguments up to the closing parenthesis. `stop` is the length of the expression, where an
early end is reported. -/
def argumentList (stop : Nat) : List Lexeme → Except FilterError (List Argument × List Lexeme)
  | [] => .error ⟨stop, .unclosedArguments⟩
  | [a] =>
    match a.argument? with
    | some _ => .error ⟨stop, .unclosedArguments⟩
    | none => .error ⟨a.position, .expectedArgument a.token⟩
  | a :: s :: rest =>
    match a.argument? with
    | none => .error ⟨a.position, .expectedArgument a.token⟩
    | some argument =>
      if s.token = .comma then
        match argumentList stop rest with
        | .ok (arguments, rest) => .ok (argument :: arguments, rest)
        | .error e => .error e
      else if s.token = .closeParen then .ok ([argument], rest)
      else .error ⟨s.position, .expectedSeparator s.token⟩

def expect (stop : Nat) (wanted : Token) : List Lexeme → Except FilterError (List Lexeme)
  | [] => .error ⟨stop, .expected wanted none⟩
  | l :: rest =>
    if l.token = wanted then .ok rest else .error ⟨l.position, .expected wanted (some l.token)⟩

def arguments (stop : Nat) (ls : List Lexeme) :
    Except FilterError (List Argument × List Lexeme) :=
  match expect stop .openParen ls with
  | .error e => .error e
  | .ok [] => .error ⟨stop, .unclosedArguments⟩
  | .ok (l :: rest) =>
    if l.token = .closeParen then .ok ([], rest) else argumentList stop (l :: rest)

/-! ## Filters by name -/

def Argument.text? : Argument → Except FilterError String
  | .text _ content => .ok content
  | .op position _ => .error ⟨position, .expectedText⟩

def Argument.op? : Argument → Except FilterError CompareOp
  | .op _ operator => .ok operator
  | .text position _ => .error ⟨position, .expectedOperator⟩

def cutAtColon? (cs : List Char) : Option (List Char × List Char) :=
  match cs.span (· ≠ ':') with
  | (before, _ :: after) => some (before, after)
  | (_, []) => none

/-- A comparator given as a text: its type, a colon and the operand. Texts and patterns allow only
`=` and `!=`. -/
def comparator (position : Nat) (content : String) (op : CompareOp) :
    Except FilterError Comparator :=
  match cutAtColon? content.toList with
  | none => .error ⟨position, .untypedComparator content⟩
  | some (type, operand) =>
    let operand := String.ofList operand
    let forEquality := fun (c : Except FilterError Comparator) ↦
      if op = .equal ∨ op = .notEqual then c
      else .error ⟨position, .equalityOnly (String.ofList type)⟩
    match String.ofList type with
    | "binary" => .ok (.binary (Bytes.ofString operand))
    | "binaryprefix" => .ok (.binaryPrefix (Bytes.ofString operand))
    | "substring" => forEquality (.ok (.substring (Text.lowercase operand)))
    | "regexstring" => forEquality <|
      match Pattern.ofSource? operand with
      | some pattern => .ok (.regex pattern)
      | none => .error ⟨position, .invalidPattern operand⟩
    | other => .error ⟨position, .unknownComparator other⟩

def Argument.comparator? (op : CompareOp) : Argument → Except FilterError Comparator
  | .text position content => comparator position content op
  | .op position _ => .error ⟨position, .expectedComparator⟩

def buildCompare (position : Nat) (name : String) (field : FilterField) :
    List Argument → Except FilterError Filter
  | [op, comparator] => do
    let op ← op.op?
    let comparator ← comparator.comparator? op
    .ok (.compare field op comparator)
  | args => .error ⟨position, .argumentCount name 2 args.length⟩

def build (position : Nat) (name : String) (args : List Argument) : Except FilterError Filter :=
  let count := fun wanted ↦ .error ⟨position, .argumentCount name wanted args.length⟩
  match name with
  | "PrefixFilter" =>
    match args with
    | [beginning] => do
      let beginning ← beginning.text?
      .ok (.rowPrefix (Bytes.ofString beginning))
    | _ => count 1
  | "ColumnPrefixFilter" =>
    match args with
    | [beginning] => do
      let beginning ← beginning.text?
      .ok (.columnPrefix (Bytes.ofString beginning))
    | _ => count 1
  | "RowFilter" => buildCompare position name .row args
  | "FamilyFilter" => buildCompare position name .family args
  | "QualifierFilter" => buildCompare position name .qualifier args
  | "ValueFilter" => buildCompare position name .value args
  | "SingleColumnValueFilter" =>
    match args with
    | [family, qualifier, op, comparator] => do
      let family ← family.text?
      let qualifier ← qualifier.text?
      let op ← op.op?
      let comparator ← comparator.comparator? op
      .ok (.columnValue (Bytes.ofString family) (Bytes.ofString qualifier) op comparator)
    | _ => count 4
  | "FirstKeyOnlyFilter" => if args.isEmpty then .ok .firstOfRow else count 0
  | "KeyOnlyFilter" => if args.isEmpty then .ok .keysOnly else count 0
  | other => .error ⟨position, .unknownFilter other⟩

/-! ## Readers go forward -/

theorem length_argumentList_lt {stop : Nat} {ls rest : List Lexeme} {args : List Argument}
    (h : argumentList stop ls = .ok (args, rest)) : rest.length < ls.length := by
  fun_induction argumentList stop ls generalizing args rest with
  | case1 => cases h
  | case2 => cases h
  | case3 => cases h
  | case4 => cases h
  | case5 a s rest' _ _ _ args' rest'' hrec ih =>
      cases h
      have := ih hrec
      simp only [List.length_cons]
      omega
  | case6 => cases h
  | case7 =>
      cases h
      simp only [List.length_cons]
      omega
  | case8 => cases h

theorem length_expect {stop : Nat} {wanted : Token} {ls rest : List Lexeme}
    (h : expect stop wanted ls = .ok rest) : rest.length + 1 = ls.length := by
  unfold expect at h
  split at h
  · cases h
  · split at h
    · cases h
      rfl
    · cases h

theorem length_arguments_lt {stop : Nat} {ls rest : List Lexeme} {args : List Argument}
    (h : arguments stop ls = .ok (args, rest)) : rest.length < ls.length := by
  unfold arguments at h
  split at h
  · cases h
  · cases h
  · next hexpect =>
    have hlen := length_expect hexpect
    split at h
    · cases h
      simp only [List.length_cons] at hlen
      omega
    · have := length_argumentList_lt h
      omega

/-! ## Expressions -/

/-- Join operands by a connective; a single operand stands for itself. -/
def join (connective : List Filter → Filter) (first : Filter) : List Filter → Filter
  | [] => first
  | others => connective (first :: others)

/-- What is left after some of the tokens `ls`, at least one. -/
abbrev Rest (ls : List Lexeme) := { rest : List Lexeme // rest.length < ls.length }

/-- What is left after some of the tokens `ls`, perhaps none. -/
abbrev Tail (ls : List Lexeme) := { rest : List Lexeme // rest.length ≤ ls.length }

mutual

def orExpr (stop : Nat) (ls : List Lexeme) : Except FilterError (Filter × Rest ls) :=
  match andExpr stop ls with
  | .error e => .error e
  | .ok (first, rest) =>
    match orTail stop rest with
    | .error e => .error e
    | .ok (others, tail) =>
      .ok (join .or first others, ⟨tail, Nat.lt_of_le_of_lt tail.2 rest.2⟩)
termination_by (ls.length, 4)

def orTail (stop : Nat) (ls : List Lexeme) : Except FilterError (List Filter × Tail ls) :=
  match ls with
  | [] => .ok ([], ⟨[], Nat.le_refl _⟩)
  | l :: ls =>
    if l.token = .word "OR" then
      match andExpr stop ls with
      | .error e => .error e
      | .ok (next, rest) =>
        match orTail stop rest with
        | .error e => .error e
        | .ok (others, tail) =>
          .ok (next :: others,
            ⟨tail, Nat.le_succ_of_le (Nat.le_of_lt (Nat.lt_of_le_of_lt tail.2 rest.2))⟩)
    else .ok ([], ⟨l :: ls, Nat.le_refl _⟩)
termination_by (ls.length, 0)

def andExpr (stop : Nat) (ls : List Lexeme) : Except FilterError (Filter × Rest ls) :=
  match unary stop ls with
  | .error e => .error e
  | .ok (first, rest) =>
    match andTail stop rest with
    | .error e => .error e
    | .ok (others, tail) =>
      .ok (join .and first others, ⟨tail, Nat.lt_of_le_of_lt tail.2 rest.2⟩)
termination_by (ls.length, 3)

def andTail (stop : Nat) (ls : List Lexeme) : Except FilterError (List Filter × Tail ls) :=
  match ls with
  | [] => .ok ([], ⟨[], Nat.le_refl _⟩)
  | l :: ls =>
    if l.token = .word "AND" then
      match unary stop ls with
      | .error e => .error e
      | .ok (next, rest) =>
        match andTail stop rest with
        | .error e => .error e
        | .ok (others, tail) =>
          .ok (next :: others,
            ⟨tail, Nat.le_succ_of_le (Nat.le_of_lt (Nat.lt_of_le_of_lt tail.2 rest.2))⟩)
    else .ok ([], ⟨l :: ls, Nat.le_refl _⟩)
termination_by (ls.length, 0)

def unary (stop : Nat) (ls : List Lexeme) : Except FilterError (Filter × Rest ls) :=
  match ls with
  | [] => .error ⟨stop, .expectedFilter none⟩
  | l :: ls =>
    if l.token = .word "SKIP" then
      match unary stop ls with
      | .error e => .error e
      | .ok (inner, rest) => .ok (.skip inner, ⟨rest, Nat.lt_succ_of_lt rest.2⟩)
    else primary stop l ls
termination_by (ls.length, 2)

def primary (stop : Nat) (l : Lexeme) (ls : List Lexeme) :
    Except FilterError (Filter × Rest (l :: ls)) :=
  match l.token with
  | .openParen =>
    match orExpr stop ls with
    | .error e => .error e
    | .ok (inner, rest) =>
      match h : expect stop .closeParen rest with
      | .error e => .error e
      | .ok tail =>
        .ok (inner, ⟨tail, by
          have hlength := length_expect h
          have hrest := rest.2
          simp only [List.length_cons]
          omega⟩)
  | .word name =>
    match h : arguments stop ls with
    | .error e => .error e
    | .ok (args, rest) =>
      match build l.position name args with
      | .error e => .error e
      | .ok filter => .ok (filter, ⟨rest, Nat.lt_succ_of_lt (length_arguments_lt h)⟩)
  | other => .error ⟨l.position, .expectedFilter (some other)⟩
termination_by (ls.length, 5)

end

def parse (expression : String) : Except FilterError Filter :=
  match tokenize expression with
  | .error e => .error e
  | .ok ls =>
    match orExpr (octets expression.toList) ls with
    | .error e => .error e
    | .ok (filter, ⟨[], _⟩) => .ok filter
    | .ok (_, ⟨l :: _, _⟩) => .error ⟨l.position, .unexpected l.token⟩

end Filter

end ColumnStore
