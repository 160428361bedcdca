import ColumnStore.Pattern.Regex

/-!
# What matches begin with

The openings of an expression are strings of which every match begins with one. Where they are few
and each of them is a whole match, looking for the expression means looking for these literals, and
no automaton has to be built. This is not so if literals can be found faster by a shorter list of
strings that only begin the matches, since a candidate must then be looked at again.
-/

namespace ColumnStore

namespace Pattern

/-- A string that a match can begin with. -/
structure Opening where
  octets : Bytes
  /-- Whether the match ends with the string. -/
  whole : Bool

/-- The openings of an expression, those that are preferred first. There is no list if it would be
too long. -/
abbrev Openings :=
  Option (List Opening)

namespace Opening

def nothing : Opening where
  octets := []
  whole := true

def continued (o : Opening) : Opening :=
  { o with whole := false }

def cut (count : Nat) (o : Opening) : Opening :=
  if o.octets.length ≤ count then o else { octets := o.octets.take count, whole := false }

def followedBy (o : Opening) (others : List Opening) : List Opening :=
  if o.whole then others.map fun p ↦ { p with octets := o.octets ++ p.octets } else [o]

/-- Put an opening before others, unless they begin with its octets. These are a whole match only if
they are one in both places. -/
def cons (o : Opening) : List Opening → List Opening
  | p :: rest =>
    if o.octets = p.octets then { o with whole := o.whole && p.whole } :: rest else o :: p :: rest
  | [] => [o]

/-- Openings with neighbours that have the same octets made one. -/
def merged (os : List Opening) : List Opening :=
  os.foldr cons []

end Opening

/-! ## Lists of openings -/

namespace Openings

open Opening

def limit : Nat :=
  250

def lengthLimit : Nat :=
  100

def classLimit : Nat :=
  10

def repeatLimit : Nat :=
  10

def ofClass (octets : Nat → Bytes) (set : CodePoints) : Openings :=
  let ranges := set.ranges.toList
  if ranges.foldl (fun n (a, b) ↦ n + (b + 1 - a)) 0 ≤ classLimit then
    some (ranges.flatMap fun (a, b) ↦
      (List.range' a (b + 1 - a)).map fun n ↦ { octets := octets n, whole := true })
  else none

/-- The openings of two alternatives. If they are too many, their first four octets have to do. -/
def either : Openings → Openings → Openings
  | some os, some ps =>
    let together := fun (os ps : List Opening) ↦
      if os.length + ps.length ≤ limit then some (merged (os ++ ps)) else none
    together os ps <|> together (merged (os.map (cut 4))) (merged (ps.map (cut 4)))
  | _, _ => none

def andThen (os : List Opening) (next : Openings) : Openings :=
  match next.filter (os.length * ·.length ≤ limit) with
  | some ps => some ((merged (os.flatMap (·.followedBy ps))).map (cut lengthLimit))
  | none => if os.any (·.octets.isEmpty) then none else some (os.map continued)

/-- The openings of some repetitions, `os` being those of what comes before. -/
def times (once : Openings) : (count : Nat) → (os : List Opening) → Openings
  | 0, os => some os
  | count + 1, os =>
    if os.any (·.whole) then
      match andThen os once with
      | some os => times once count os
      | none => none
    else some os

end Openings

mutual

/-- The openings of an expression. Conditions on places are taken to hold. -/
def Regex.openings : Regex → Openings
  | .empty => some [.nothing]
  | .literal octets => some [Opening.cut Openings.lengthLimit { octets, whole := true }]
  | .octet set => Openings.ofClass (fun n ↦ [UInt8.ofNat n]) set
  | .char set => Openings.ofClass (fun n ↦ Bytes.ofString (Char.ofNat n).toString) set
  | .look _ => some [.nothing]
  | .repeated r 0 most greedy =>
    let repeats :=
      if most = some 1 then r.openings else r.openings.map (·.map Opening.continued)
    if greedy then Openings.either repeats (some [.nothing])
    else Openings.either (some [.nothing]) repeats
  | .repeated r least most _ =>
    let repeats := Openings.times r.openings (min least Openings.repeatLimit) [.nothing]
    if most = some least ∧ least ≤ Openings.repeatLimit then repeats
    else repeats.map (·.map Opening.continued)
  | .group r => r.openings
  | .seq rs => Regex.openingsOfAll rs [.nothing]
  | .alt rs => Regex.openingsOfEach rs []

def Regex.openingsOfAll : List Regex → (os : List Opening) → Openings
  | [], os => some os
  | r :: rs, os =>
    if os.any (·.whole) then
      match Openings.andThen os r.openings with
      | some os => Regex.openingsOfAll rs os
      | none => none
    else some os

def Regex.openingsOfEach : List Regex → (os : List Opening) → Openings
  | [], os => some os
  | r :: rs, os =>
    match Openings.either (some os) r.openings with
    | some os => Regex.openingsOfEach rs os
    | none => none

end

/-! ## Searching for literals -/

namespace Openings

open Opening

/-- Leave out openings that begin with an earlier one, `kept` being those that are left in. -/
def leading : (kept : List Opening) → List Opening → List Opening
  | _, [] => []
  | kept, o :: os =>
    if kept.any (·.octets.isPrefixOf o.octets) then leading kept os
    else o :: leading (o :: kept) os

def common : Bytes → Bytes → Bytes
  | a :: as, b :: bs => if a = b then a :: common as bs else []
  | _, _ => []

def commonBeginning : List Opening → Bytes
  | [] => []
  | o :: os => os.foldl (fun octets p ↦ common octets p.octets) o.octets

/-- The octets that are seen so often in texts and data that it does not help to look for one of
them. -/
def frequentOctets : CodePoints where
  ranges := #[(10, 10), (13, 13), (32, 32), (40, 41), (44, 50), (57, 58), (95, 95), (97, 105),
    (108, 112), (114, 118), (120, 121), (124, 124), (128, 132), (144, 144), (177, 177), (181, 183),
    (185, 189), (191, 255)]

/-- Cut openings until they are few. Each step gives the number of octets to keep, and the number of
openings that is few enough to stop before it. -/
def shortened : (steps : List (Nat × Nat)) → List Opening → List Opening
  | [], os => os
  | (count, few) :: steps, os =>
    if os.length ≤ few then os else shortened steps (leading [] (os.map (cut count)))

/-- Whether openings that are whole matches are looked for as they are. They are not if cutting them
makes them few, none of them being shorter than three octets. -/
def areDistinct (os : List Opening) : Bool :=
  let candidates := shortened [(5, 10), (4, 10), (3, 64), (2, 64), (1, 10)] os
  candidates.all (·.whole) || candidates.any (·.octets.length ≤ 2) || 64 < candidates.length

/-- Whether looking for the openings of an expression finds its matches. Openings with a common
beginning are looked for by a rare octet that they begin with or by a beginning that is long. -/
def areLiterals (os : List Opening) : Bool :=
  let leaders := leading [] os
  let beginning := commonBeginning leaders
  let isRare := beginning.head?.any (!frequentOctets.contains ·.toNat)
  if os.isEmpty || os.any (·.octets.isEmpty) then false
  else if 1 < os.length && beginning.length ≤ 3 && isRare then
    leaders.all fun o ↦ o.whole && o.octets.length = 1
  else
    let areFew := leaders.all (·.whole) && leaders.length ≤ 16
    let leaders :=
      if 4 < beginning.length || (1 < beginning.length && !areFew) then
        merged (leaders.map (cut beginning.length))
      else leaders
    leaders.all (·.whole) && areDistinct leaders

end Openings

mutual

def Regex.isPlain : Regex → Bool
  | .look _ => false
  | .group _ => false
  | .repeated r _ _ _ => r.isPlain
  | .seq rs => Regex.arePlain rs
  | .alt rs => Regex.arePlain rs
  | _ => true

def Regex.arePlain : List Regex → Bool
  | [] => true
  | r :: rs => r.isPlain && Regex.arePlain rs

end

def Regex.isWordList : Regex → Bool
  | alt rs => 3000 ≤ rs.length && rs.all (·.literal?.isSome)
  | _ => false

/-- Whether looking for an expression means looking for literals. -/
def Regex.isLiteralSearch (r : Regex) : Bool :=
  r.isPlain && (r.openings.any (Openings.areLiterals <| Opening.merged ·) || r.isWordList)

end Pattern

end ColumnStore
