/-!
# Shortest decimals

A floating-point number stands for all reals that round to it. Its shortest decimal is the one on
the coarsest decimal grid that has a point among those reals, and there the point that lies nearest.
`ofFloat?` takes a number apart; the search is done with natural numbers.
-/

namespace ColumnStore

/-- The number `digits * 10 ^ exponent`. -/
structure Decimal where
  digits : Nat
  exponent : Int
  deriving DecidableEq, Repr

namespace Decimal

/-- The reals that round to the floating-point number `value`: those between `low` and `high`, the
ends included when `closed`. The three are given in units of one over `unit`. -/
structure Rounding where
  low : Nat
  value : Nat
  high : Nat
  unit : Nat
  closed : Bool

namespace Rounding

/-- The reals that round to `significand * 2 ^ exponent`. They reach halfway to both neighbours; the
lower one is only half as far away when `narrow`. An end belongs to the neighbour with an even
significand. -/
def ofBinary (significand : Nat) (exponent : Int) (narrow : Bool) : Rounding :=
  let scale := 1 <<< exponent.toNat
  { low := (4 * significand - if narrow then 1 else 2) * scale
    value := 4 * significand * scale
    high := (4 * significand + 2) * scale
    unit := 4 <<< (-exponent).toNat
    closed := significand % 2 == 0 }

def contains (r : Rounding) (n : Nat) : Bool :=
  if r.closed then r.low ≤ n && n ≤ r.high else r.low < n && n < r.high

/-- The multiple of `step` units that lies nearest to the value, if it lies among the reals. Halfway
between two multiples the even one is nearer. -/
def nearest? (r : Rounding) (step : Nat) : Option Nat :=
  let below := r.value / step
  let excess := 2 * (r.value % step)
  let up := step < excess || (step == excess && below % 2 == 1)
  let choice := if up then below + 1 else below
  let other := if up then below else below + 1
  if r.contains (choice * step) then some choice
  else if r.contains (other * step) then some other
  else none

/-- The point on the grid of the multiples of `10 ^ exponent`. -/
def onGrid? (r : Rounding) (exponent : Int) : Option Decimal :=
  let finer := { r with
    low := r.low * Nat.pow 10 (-exponent).toNat
    value := r.value * Nat.pow 10 (-exponent).toNat
    high := r.high * Nat.pow 10 (-exponent).toNat }
  (finer.nearest? (r.unit * Nat.pow 10 exponent.toNat)).map (⟨·, exponent⟩)

/-- The point on the coarsest grid that has one, of the `n` grids that end at `10 ^ (n - 345)`. -/
def coarsest? (r : Rounding) : (n : Nat) → Option Decimal
  | 0 => none
  | n + 1 => (r.onGrid? (n - 345)).or (coarsest? r n)

end Rounding

/-- The shortest decimal that rounds to the magnitude of a finite number other than zero. -/
def ofFloat? (x : Float) : Option Decimal :=
  let bits := x.toBits.toNat
  let field := (bits >>> 52) % 2048
  let fraction := bits % 1 <<< 52
  let significand := if field = 0 then fraction else fraction + 1 <<< 52
  if significand = 0 then none
  else
    let exponent : Int := (max field 1 : Nat) - 1075
    (Rounding.ofBinary significand exponent (fraction == 0 && 1 < field)).coarsest? 655

def magnitude (d : Decimal) : Int :=
  d.exponent + (Nat.toDigits 10 d.digits).length - 1

end Decimal

end ColumnStore
