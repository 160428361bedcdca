import ColumnStore.Comparator

/-!
# Words of filter expressions

An expression is written with words, quoted texts, comparison operators, parentheses and commas. A
quote inside a quoted text is written twice. Every token is kept with the offset of its first octet.
-/

namespace ColumnStore

namespace Filter

inductive Token where
  | word (name : String)
  | text (content : String)
  | op (op : CompareOp)
  | openParen
  | closeParen
  | comma
  deriving DecidableEq

namespace Token

def describe : Token → String
  | word name => "`" ++ name ++ "`"
  | text _ => "string literal"
  | op _ => "comparison operator"
  | openParen => "`(`"
  | closeParen => "`)`"
  | comma => "`,`"

end Token

inductive SyntaxFault where
  /-- An exclamation mark without an equality sign. -/
  | loneExclamation
  | unclosedText
  | strayCharacter (c : Char)
  /-- Something follows a complete expression. -/
  | unexpected (found : Token)
  | expected (wanted : Token) (found : Option Token)
  | expectedFilter (found : Option Token)
  | expectedArgument (found : Token)
  | expectedSeparator (found : Token)
  | unclosedArguments
  | unknownFilter (name : String)
  | argumentCount (name : String) (wanted found : Nat)
  | expectedText
  | expectedOperator
  | expectedComparator
  /-- A comparator without a colon. -/
  | untypedComparator (content : String)
  | unknownComparator (type : String)
  | equalityOnly (type : String)
  | invalidPattern (pattern : String)
  /-- A refusal in the words of another reader of expressions. -/
  | custom (message : String)
  deriving DecidableEq

namespace SyntaxFault

/-- The wording of a fault. Why a pattern is none is explained by the reader of patterns. -/
def message (explain : String → String) : SyntaxFault → String
  | loneExclamation => "expected `!=`"
  | unclosedText => "unterminated string literal"
  | strayCharacter c => "unexpected character `" ++ String.singleton c ++ "`"
  | unexpected found => "unexpected " ++ found.describe
  | expected wanted (some found) => "expected " ++ wanted.describe ++ ", found " ++ found.describe
  | expected wanted none => "expected " ++ wanted.describe
  | expectedFilter (some found) => "expected filter name, found " ++ found.describe
  | expectedFilter none => "expected filter expression"
  | expectedArgument found => "expected argument, found " ++ found.describe
  | expectedSeparator found => "expected `,` or `)`, found " ++ found.describe
  | unclosedArguments => "unterminated argument list"
  | unknownFilter name => "unknown filter `" ++ name ++ "`"
  | argumentCount name wanted found =>
    name ++ " takes " ++ wanted.repr ++ " argument(s), got " ++ found.repr
  | expectedText => "expected string argument"
  | expectedOperator => "expected comparison operator"
  | expectedComparator => "expected comparator string"
  | untypedComparator content => "comparator `" ++ content ++ "` has no type prefix"
  | unknownComparator type => "unknown comparator type `" ++ type ++ "`"
  | equalityOnly type => type ++ " comparator only supports = and !="
  | invalidPattern pattern => "invalid regex: " ++ explain pattern
  | custom message => message

end SyntaxFault

end Filter

/-- A refused expression: the offset of the octet where reading failed, and why. -/
structure FilterError where
  position : Nat
  fault : Filter.SyntaxFault
  deriving DecidableEq

namespace FilterError

def message (e : FilterError) (explain : String → String) : String :=
  "filter syntax error at byte " ++ e.position.repr ++ ": " ++ e.fault.message explain

end FilterError

namespace Filter

/-! ## Scanning one token -/

def isSpace (c : Char) : Bool :=
  c = ' ' || c = '\t' || c = '\n' || c = '\r'

def isWordStart (c : Char) : Bool :=
  c.isAlpha || c = '_'

def isWordPart (c : Char) : Bool :=
  c.isAlphanum || c = '_'

def readQuoted? : List Char → Option (List Char × List Char)
  | [] => none
  | '\'' :: '\'' :: cs => (readQuoted? cs).map fun (content, rest) ↦ ('\'' :: content, rest)
  | '\'' :: cs => some ([], cs)
  | c :: cs => (readQuoted? cs).map fun (content, rest) ↦ (c :: content, rest)

def scan (c : Char) (cs : List Char) : Except SyntaxFault (Token × List Char) :=
  match c, cs with
  | '(', _ => .ok (.openParen, cs)
  | ')', _ => .ok (.closeParen, cs)
  | ',', _ => .ok (.comma, cs)
  | '<', '=' :: rest => .ok (.op .lessOrEqual, rest)
  | '<', _ => .ok (.op .less, cs)
  | '>', '=' :: rest => .ok (.op .greaterOrEqual, rest)
  | '>', _ => .ok (.op .greater, cs)
  | '!', '=' :: rest => .ok (.op .notEqual, rest)
  | '!', _ => .error .loneExclamation
  | '=', _ => .ok (.op .equal, cs)
  | '\'', _ =>
    match readQuoted? cs with
    | some (content, rest) => .ok (.text (String.ofList content), rest)
    | none => .error .unclosedText
  | _, _ =>
    if isWordStart c then
      .ok (.word (String.ofList (c :: cs.takeWhile isWordPart)), cs.dropWhile isWordPart)
    else
      .error (.strayCharacter c)

theorem length_readQuoted?_lt {cs content rest : List Char}
    (h : readQuoted? cs = some (content, rest)) : rest.length < cs.length := by
  fun_induction readQuoted? cs generalizing content rest with
  | case1 => cases h
  | case2 cs ih =>
      obtain ⟨⟨content', rest'⟩, h', heq⟩ := Option.map_eq_some_iff.mp h
      cases heq
      have := ih h'
      simp only [List.length_cons]
      omega
  | case3 cs =>
      cases h
      simp
  | case4 c cs _ _ ih =>
      obtain ⟨⟨content', rest'⟩, h', heq⟩ := Option.map_eq_some_iff.mp h
      cases heq
      have := ih h'
      simp only [List.length_cons]
      omega

theorem length_dropWhile_le (test : Char → Bool) (cs : List Char) :
    (cs.dropWhile test).length ≤ cs.length :=
  (List.dropWhile_sublist test).length_le

/-- A token takes at least its first character. -/
theorem length_scan_le {c : Char} {cs rest : List Char} {t : Token}
    (h : scan c cs = .ok (t, rest)) : rest.length ≤ cs.length := by
  unfold scan at h
  split at h
  case h_11 =>
    split at h
    · next hq =>
      cases h
      exact Nat.le_of_lt (length_readQuoted?_lt hq)
    · cases h
  case h_12 =>
    split at h
    · cases h
      exact length_dropWhile_le _ _
    · cases h
  all_goals cases h <;> simp

/-! ## Splitting an expression -/

structure Lexeme where
  position : Nat
  token : Token
  deriving DecidableEq

def octets (cs : List Char) : Nat :=
  cs.foldl (fun n c ↦ n + c.utf8Size) 0

/-- The number of octets with which a token is written. -/
def Token.width : Token → Nat
  | word name => octets name.toList
  | text content => octets content.toList + content.toList.count '\'' + 2
  | op .lessOrEqual | op .greaterOrEqual | op .notEqual => 2
  | op _ | openParen | closeParen | comma => 1

/-- The tokens of the rest of an expression, which begins at a given offset. -/
def lex (position : Nat) : List Char → Except FilterError (List Lexeme)
  | [] => .ok []
  | c :: cs =>
    if isSpace c then lex (position + 1) cs
    else
      match _h : scan c cs with
      | .error fault => .error ⟨position, fault⟩
      | .ok (token, rest) => (lex (position + token.width) rest).map (⟨position, token⟩ :: ·)
termination_by cs => cs.length
decreasing_by
  · simp
  · exact Nat.lt_succ_of_le (length_scan_le _h)

def tokenize (expression : String) : Except FilterError (List Lexeme) :=
  lex 0 expression.toList

end Filter

end ColumnStore
