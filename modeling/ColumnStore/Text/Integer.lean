/-!
# Unsigned decimal numbers

A number is one or more digits, perhaps after a plus sign, and is at most some bound. A text is
refused at its first character that is no digit or takes the number beyond the bound.
-/

namespace ColumnStore

inductive IntegerFault where
  | empty
  | invalidDigit
  | tooLarge
  deriving DecidableEq, Repr

namespace IntegerFault

def message : IntegerFault → String
  | empty => "cannot parse integer from empty string"
  | invalidDigit => "invalid digit found in string"
  | tooLarge => "number too large to fit in target type"

end IntegerFault

namespace Text

def digit? (c : Char) : Option Nat :=
  if '0' ≤ c ∧ c ≤ '9' then some (c.toNat - 48) else none

/-- Go on reading a number that is `value` so far. -/
def readDigits (bound : Nat) : (value : Nat) → List Char → Except IntegerFault Nat
  | value, [] => .ok value
  | value, c :: cs =>
    match digit? c with
    | none => .error .invalidDigit
    | some d =>
      if value * 10 + d ≤ bound then readDigits bound (value * 10 + d) cs else .error .tooLarge

/-- Read a decimal number of at most `bound`. -/
def readUnsigned (bound : Nat) : List Char → Except IntegerFault Nat
  | [] => .error .empty
  | ['+'] => .error .invalidDigit
  | '+' :: cs => readDigits bound 0 cs
  | cs => readDigits bound 0 cs

def readUInt16 (s : String) : Except IntegerFault UInt16 :=
  (readUnsigned 65535 s.toList).map UInt16.ofNat

def readUInt32 (s : String) : Except IntegerFault UInt32 :=
  (readUnsigned 4294967295 s.toList).map UInt32.ofNat

end Text

end ColumnStore
