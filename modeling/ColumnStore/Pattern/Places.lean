/-!
# Sets of places

A set of places in a string is kept as a number whose bit `i` says whether place `i` is a member, so
that a step can be taken from all of its members at once.
-/

namespace ColumnStore

namespace Pattern

abbrev Places := Nat

namespace Places

/-- The places with a given property among the `length` ones from `first` on, as distances from
`first`. -/
def block (test : Nat → Bool) : (length first : Nat) → Nat
  | 0, _ => 0
  | length + 1, first => 2 * block test length (first + 1) + (test first).toNat

def blockLength : Nat :=
  32

/-- The places with a given property in the `2 ^ depth` blocks from `first` on, as distances from
`first`. Places from `count` on do not count. -/
def ofTestFrom (count : Nat) (test : Nat → Bool) : (depth : Nat) → (first : Nat) → Places
  | 0, first => block (fun i ↦ decide (i < count) && test i) blockLength first
  | depth + 1, first =>
    if count ≤ first then 0
    else
      let half := blockLength <<< depth
      ofTestFrom count test depth first ||| ofTestFrom count test depth (first + half) <<< half

def ofTest (count : Nat) (test : Nat → Bool) : Places :=
  ofTestFrom count test ((count / blockLength).log2 + 1) 0

def diff (p q : Places) : Places :=
  (p ||| q) ^^^ q

/-! ## Going forward

A step only leads forward. Places are therefore counted from a mark, and once everything that is
still to be continued lies beyond the next mark they are counted from there, so that the numbers stay
small. Marks are `markDistance` places apart. -/

def markDistance : Nat :=
  4096

def beforeMark (p : Places) : Places :=
  p &&& (1 <<< markDistance - 1)

/-- Apply a step a given number of times, stopping early when it changes nothing. The step is given
the mark from which it counts. -/
def iterate (step : (mark : Nat) → Places → Places) :
    (times : Nat) → (mark : Nat) → Places → Places
  | 0, _, p => p
  | times + 1, mark, p =>
    let q := step mark p
    if q = p then p
    else if q.beforeMark = 0 then
      iterate step times (mark + 1) (q >>> markDistance) <<< markDistance
    else iterate step times mark q

/-- The places reached by at most a given number of steps from `fresh`, besides the ones in `seen`,
stopping early when a step reaches nothing new. -/
def within (step : (mark : Nat) → Places → Places) :
    (times : Nat) → (mark : Nat) → (seen fresh : Places) → Places
  | 0, _, seen, _ => seen
  | times + 1, mark, seen, fresh =>
    let new := (step mark fresh).diff seen
    if new = 0 then seen
    else if new.beforeMark = 0 then
      let later := within step times (mark + 1) ((seen ||| new) >>> markDistance)
        (new >>> markDistance)
      seen.beforeMark ||| later <<< markDistance
    else within step times mark (seen ||| new) new

end Places

/-- A fixed set of places, counted from each mark. -/
structure MarkedPlaces where
  fromMarks : Array Places

namespace MarkedPlaces

def ofPlaces (size : Nat) (p : Places) : MarkedPlaces where
  fromMarks := (Array.range (size / Places.markDistance + 1)).map fun mark ↦
    p >>> (mark * Places.markDistance)

def after (p : MarkedPlaces) (mark : Nat) : Places :=
  p.fromMarks.getD mark 0

end MarkedPlaces

/-- A step that goes on by one octet or character. The stretches that it passes over do not
overlap. -/
structure Stride where
  /-- For each length, the places from which the step goes on by that many octets. -/
  moves : List (Nat × MarkedPlaces)
  /-- The places from which it goes on. -/
  starts : MarkedPlaces
  /-- The places that it passes over. -/
  inside : MarkedPlaces
  /-- Both of these. -/
  covered : MarkedPlaces

namespace Stride

/-- The stride in a string of `size` octets that goes on by each length from given places. -/
def ofMoves (size : Nat) (moves : List (Nat × Places)) : Stride :=
  let starts := moves.foldl (fun p (_, places) ↦ p ||| places) 0
  let inside := moves.foldl
    (fun p (length, places) ↦ (List.range (length - 1)).foldl
      (fun p i ↦ p ||| places <<< (i + 1)) p) 0
  { moves := moves.map fun (length, places) ↦ (length, .ofPlaces size places)
    starts := .ofPlaces size starts
    inside := .ofPlaces size inside
    covered := .ofPlaces size (starts ||| inside) }

def ends (s : Stride) (mark : Nat) (p : Places) : Places :=
  s.moves.foldl (fun q (length, places) ↦ q ||| (p &&& places.after mark) <<< length) 0

/-- Follow runs of places from some of their members to the places after their ends. Adding a member
of a run to the number of its places clears the run from that member on and sets the place after its
end, so that a single sum follows the runs from all members. -/
def follow (runs first : Places) : Places :=
  ((first + runs) ^^^ runs) ||| first

/-- The places that any number of strides lead to. Strides that follow each other cover a run of
places without a gap. Runs that end soon are not looked at further than that. -/
def endsOfAny (s : Stride) (mark : Nat) (p : Places) : Places :=
  let runs := s.covered.after mark
  let first := p &&& s.starts.after mark
  let limit := 1 <<< (first.log2 + Places.markDistance)
  let near := follow (runs &&& (limit - 1)) first
  p ||| (if near < limit then near else follow runs first).diff (s.inside.after mark)

end Stride

end Pattern

end ColumnStore
