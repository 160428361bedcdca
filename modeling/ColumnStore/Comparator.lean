import ColumnStore.Pattern
import ColumnStore.Text.Lowercase

/-!
# Comparisons

A filter compares a part of a cell with an operand. Octets are compared in lexicographic order, in
full or as far as the operand goes. Texts and patterns are only found or not found.
-/

namespace ColumnStore

inductive CompareOp where
  | less
  | lessOrEqual
  | equal
  | notEqual
  | greaterOrEqual
  | greater
  deriving DecidableEq, Repr

namespace CompareOp

/-- Whether an operator is satisfied where the operand stands in the given order to the part. -/
def accepts : CompareOp → Ordering → Bool
  | less, o => o == .lt
  | lessOrEqual, o => o != .gt
  | equal, o => o == .eq
  | notEqual, o => o != .eq
  | greaterOrEqual, o => o != .lt
  | greater, o => o == .gt

def negate : CompareOp → CompareOp
  | less => greaterOrEqual
  | lessOrEqual => greater
  | equal => notEqual
  | notEqual => equal
  | greaterOrEqual => less
  | greater => lessOrEqual

theorem accepts_negate (op : CompareOp) (o : Ordering) : op.negate.accepts o = !op.accepts o := by
  cases op <;> cases o <;> rfl

end CompareOp

inductive Comparator where
  /-- Octets, compared in full. -/
  | binary (expected : Bytes)
  /-- Octets, compared as far as they go. -/
  | binaryPrefix (beginning : Bytes)
  /-- A text to be found in any case; the operand itself is in lower case. -/
  | substring (needle : String)
  /-- A pattern to be found. -/
  | regex (pattern : Pattern)

namespace Text

/-- Whether a list occurs in another as consecutive members. -/
def occursIn [BEq α] (needle : List α) : List α → Bool
  | [] => needle.isEmpty
  | c :: cs => needle.isPrefixOf (c :: cs) || occursIn needle cs

theorem occursIn_iff [BEq α] [LawfulBEq α] {needle hay : List α} :
    occursIn needle hay ↔ needle <:+: hay := by
  induction hay with
  | nil => simp [occursIn]
  | cons c cs ih =>
      rw [occursIn, Bool.or_eq_true, ih, List.isPrefixOf_iff_prefix, List.infix_cons_iff]

end Text

namespace Comparator

/-- Whether a text occurs in octets read as text, in any case. -/
def findsText (needle : String) (actual : Bytes) : Bool :=
  Text.occursIn needle.toList (Text.lowerChars false (Utf8.decodeLossy actual))

/-- Whether a part of a cell passes a comparison. Where something is only found or not, every
operator but equality asks for its absence. -/
def passes : Comparator → CompareOp → Bytes → Bool
  | binary expected, op, actual => op.accepts (compare actual expected)
  | binaryPrefix beginning, op, actual =>
    op.accepts (compare (actual.take beginning.length) beginning)
  | substring needle, op, actual => (op == .equal) == findsText needle actual
  | regex pattern, op, actual => (op == .equal) == pattern.matchesIn actual

end Comparator

end ColumnStore
