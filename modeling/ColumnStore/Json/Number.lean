import ColumnStore.Decimal.Shortest

/-!
# Numbers in documents

A number is written in decimal. It is an integer when it is written without a point and without an
exponent and fits into 64 bits, and a floating-point number otherwise. The value of the latter is
its leading digits, as far as they fit into 64 bits, times or over a power of ten.
-/

namespace ColumnStore

namespace Json

inductive Number where
  | integer (n : Int)
  | real (x : Float)

/-- A number as it is written: its sign, the digits before and after the point, and the exponent. -/
structure Literal where
  negative : Bool
  whole : List Nat
  fraction : List Nat
  exponent : Option Int

namespace Literal

/-- Append digits to `value` as long as it stays below `2 ^ 64`, and return it with the digits that
are left. -/
def collect : (value : Nat) → List Nat → Nat × List Nat
  | value, [] => (value, [])
  | value, d :: ds => if value * 10 + d < 2 ^ 64 then collect (value * 10 + d) ds else (value, d :: ds)

def tenTo (n : Nat) : Float :=
  Float.ofScientific 1 false n

/-- The number `significand * 10 ^ exponent`, unless it is too large. A quotient is taken in two
steps when the power of ten would be too large. -/
def scale? (significand : Nat) (exponent : Int) : Option Float :=
  let x := (UInt64.ofNat significand).toFloat
  if significand = 0 then some 0
  else if 308 < exponent then none
  else if 0 ≤ exponent then
    let product := x * tenTo exponent.toNat
    if product.isInf then none else some product
  else if -308 ≤ exponent then some (x / tenTo (-exponent).toNat)
  else if -616 ≤ exponent then some (x / tenTo 308 / tenTo (-exponent - 308).toNat)
  else some 0

/-- The number that is written, unless it is too large. -/
def number? (l : Literal) : Option Number :=
  let (significand, dropped) := collect 0 l.whole
  let (significand', unread) := collect significand l.fraction
  let exponent := dropped.length - (l.fraction.length - unread.length : Nat) + l.exponent.getD 0
  let real := (scale? significand' exponent).map fun x ↦ .real (if l.negative then -x else x)
  if l.fraction.isEmpty && l.exponent.isNone && dropped.isEmpty then
    if !l.negative then some (.integer significand)
    else if 0 < significand && significand ≤ 1 <<< 63 then some (.integer (-significand))
    else real
  else real

end Literal

namespace Number

/-- The digits of a decimal with a point after as many of them as `places` says, at least one digit
on either side. -/
def withPoint (digits : List Char) (places : Int) : List Char :=
  if places ≤ 0 then
    '0' :: '.' :: (List.replicate (-places).toNat '0' ++ digits)
  else
    let fraction := digits.drop places.toNat
    digits.take places.toNat ++ List.replicate (places.toNat - digits.length) '0' ++
      '.' :: (if fraction.isEmpty then ['0'] else fraction)

def scientific (digits : List Char) (magnitude : Int) : List Char :=
  digits.take 1 ++ (if digits.length = 1 then [] else '.' :: digits.drop 1) ++
    'e' :: (if magnitude < 0 then '-' else '+') :: Nat.toDigits 10 magnitude.natAbs

/-- A number is written with its shortest decimal, and with an exponent when its magnitude is
not between `1e-5` and `1e16`. -/
def realText (x : Float) : List Char :=
  let sign := if x.toBits.toNat < 1 <<< 63 then [] else ['-']
  match Decimal.ofFloat? x with
  | none => sign ++ ['0', '.', '0']
  | some d =>
    let digits := Nat.toDigits 10 d.digits
    if -5 ≤ d.magnitude ∧ d.magnitude < 16 then sign ++ withPoint digits (d.magnitude + 1)
    else sign ++ scientific digits d.magnitude

def text : Number → String
  | integer n => n.repr
  | real x => String.ofList (realText x)

end Number

end Json

end ColumnStore
