import ColumnStore.Pattern.Places
import ColumnStore.Pattern.Property
import ColumnStore.Pattern.Regex
import Std.Data.HashMap

/-!
# Searching with regular expressions

An expression takes a set of places in a string to the set of places where a match that begins at
one of them can end. A string has a match if that set is not empty for the set of all places. To
this end the parts of the expression are first looked up in the string: what is left of a class is
the set of places where it matches. What occurs in many places of the expression is looked up once.
-/

namespace ColumnStore

namespace Pattern

/-! ## Strings -/

def asciiWordChars : CodePoints where
  ranges := #[(48, 57), (65, 90), (95, 95), (97, 122)]

structure Subject where
  octets : Array UInt8
  /-- The characters that start at each place. -/
  chars : Array (Option Char)

namespace Subject

def ofBytes (bytes : Bytes) : Subject :=
  let octets := bytes.toArray
  { octets
    chars := octets.mapIdx fun i byte ↦
      if byte < 0x80 then some (Char.ofNat byte.toNat)
      else (Utf8.head? (octets.extract i (i + 4)).toList).map (·.1) }

def size (s : Subject) : Nat :=
  s.octets.size

def charAfter? (s : Subject) (i : Nat) : Option Char :=
  s.chars[i]?.getD none

def isContinuation (byte : UInt8) : Bool :=
  0x80 ≤ byte && byte ≤ 0xBF

/-- Go back from the octet at `i`, over at most `steps` octets that continue a character. -/
def backUp (s : Subject) : (steps : Nat) → (i : Nat) → Nat
  | 0, i => i
  | steps + 1, i =>
    match s.octets[i]? with
    | some byte => if isContinuation byte && 0 < i then s.backUp steps (i - 1) else i
    | none => i

/-- The character at the last octet before a place that can begin one, if it ends there or before. -/
def charBefore? (s : Subject) (i : Nat) : Option Char :=
  if i = 0 then none
  else
    let first := s.backUp 3 (i - 1)
    (s.charAfter? first).filter fun c ↦ first + c.utf8Size ≤ i

def wordBefore (s : Subject) (unicode : Bool) (i : Nat) : Bool :=
  if unicode then (s.charBefore? i).any fun c ↦ wordChars.get.contains c.toNat
  else 0 < i && (s.octets[i - 1]?).any fun byte ↦ asciiWordChars.contains byte.toNat

def wordAfter (s : Subject) (unicode : Bool) (i : Nat) : Bool :=
  if unicode then (s.charAfter? i).any fun c ↦ wordChars.get.contains c.toNat
  else (s.octets[i]?).any fun byte ↦ asciiWordChars.contains byte.toNat

def soundBefore (s : Subject) (unicode : Bool) (i : Nat) : Bool :=
  !unicode || i == 0 || (s.charBefore? i).isSome

def soundAfter (s : Subject) (unicode : Bool) (i : Nat) : Bool :=
  !unicode || s.size ≤ i || (s.charAfter? i).isSome

end Subject

/-! ## Places -/

/-- Whether a condition holds at a place. Conditions that are met by the absence of a word refuse
places next to ill-formed octets. -/
def Look.holds (s : Subject) (i : Nat) : Look → Bool
  | start => i == 0
  | finish => i == s.size
  | lineStart => i == 0 || s.octets[i - 1]? == some 10
  | lineFinish => i == s.size || s.octets[i]? == some 10
  | lineStartCRLF =>
    i == 0 || s.octets[i - 1]? == some 10 ||
      (s.octets[i - 1]? == some 13 && s.octets[i]? != some 10)
  | lineFinishCRLF =>
    i == s.size || s.octets[i]? == some 13 ||
      (s.octets[i]? == some 10 && (i == 0 || s.octets[i - 1]? != some 13))
  | wordBoundary unicode => s.wordBefore unicode i != s.wordAfter unicode i
  | notWordBoundary unicode =>
    s.soundBefore unicode i && s.soundAfter unicode i &&
      s.wordBefore unicode i == s.wordAfter unicode i
  | wordStart unicode => !s.wordBefore unicode i && s.wordAfter unicode i
  | wordFinish unicode => s.wordBefore unicode i && !s.wordAfter unicode i
  | wordStartHalf unicode => s.soundBefore unicode i && !s.wordBefore unicode i
  | wordFinishHalf unicode => s.soundAfter unicode i && !s.wordAfter unicode i

namespace Subject

def places (s : Subject) : Places :=
  1 <<< (s.size + 1) - 1

def octetStride (s : Subject) (test : UInt8 → Bool) : Stride :=
  .ofMoves s.size [(1, .ofTest s.size fun i ↦ (s.octets[i]?).any test)]

def placesWith (s : Subject) (test : Nat → Bool) : MarkedPlaces :=
  .ofPlaces s.size (.ofTest (s.size + 1) test)

def charStride (s : Subject) (set : CodePoints) : Stride :=
  let lengths := s.chars.map fun c ↦
    match c with
    | some c => if set.contains c.toNat then c.utf8Size else 0
    | none => 0
  .ofMoves s.size <| ([1, 2, 3, 4].filter lengths.contains).map fun length ↦
    (length, .ofTest s.size fun i ↦ lengths.getD i 0 == length)

end Subject

/-! ## Matching -/

/-- An expression whose parts have been looked up in a string. -/
inductive Plan where
  | stride (s : Stride)
  /-- One octet after the other, the places before each being given. -/
  | literal (octets : List MarkedPlaces)
  /-- Stay, at the places of a set. -/
  | stay (places : MarkedPlaces)
  | repeated (p : Plan) (least more : Nat)
  /-- Any number of strides. -/
  | strides (s : Stride)
  | seq (ps : List Plan)
  | alt (ps : List Plan)

structure Lookups where
  octets : Std.HashMap UInt8 MarkedPlaces := {}
  octetClasses : Std.HashMap (Array (Nat × Nat)) Stride := {}
  charClasses : Std.HashMap (Array (Nat × Nat)) Stride := {}
  looks : Std.HashMap Look MarkedPlaces := {}

namespace Lookups

def octet (s : Subject) (octet : UInt8) : StateM Lookups MarkedPlaces := do
  match (← get).octets[octet]? with
  | some places => return places
  | none =>
    let places := s.placesWith fun i ↦ (s.octets[i]?).any (· == octet)
    modify fun known ↦ { known with octets := known.octets.insert octet places }
    return places

def octetClass (s : Subject) (set : CodePoints) : StateM Lookups Stride := do
  match (← get).octetClasses[set.ranges]? with
  | some stride => return stride
  | none =>
    let stride := s.octetStride fun byte ↦ set.contains byte.toNat
    modify fun known ↦
      { known with octetClasses := known.octetClasses.insert set.ranges stride }
    return stride

def charClass (s : Subject) (set : CodePoints) : StateM Lookups Stride := do
  match (← get).charClasses[set.ranges]? with
  | some stride => return stride
  | none =>
    let stride := s.charStride set
    modify fun known ↦ { known with charClasses := known.charClasses.insert set.ranges stride }
    return stride

def look (s : Subject) (place : Look) : StateM Lookups MarkedPlaces := do
  match (← get).looks[place]? with
  | some places => return places
  | none =>
    let places := s.placesWith fun i ↦ place.holds s i
    modify fun known ↦ { known with looks := known.looks.insert place places }
    return places

end Lookups

mutual

/-- Look up an expression in a string. No more than `s.size + 1` repetitions without an upper bound
reach something new. -/
def Regex.plan (s : Subject) : Regex → StateM Lookups Plan
  | empty => return .seq []
  | literal [byte] => return .stride (← Lookups.octetClass s (.singleton byte.toNat))
  | literal octets => return .literal (← octets.mapM (Lookups.octet s))
  | octet set => return .stride (← Lookups.octetClass s set)
  | char set => return .stride (← Lookups.charClass s set)
  | look place => return .stay (← Lookups.look s place)
  | repeated r least most _ => do
    match most, ← r.plan s with
    | some most, p => return .repeated p least (most - least)
    | none, .stride t => return .seq [.repeated (.stride t) least 0, .strides t]
    | none, p => return .repeated p least (s.size + 1)
  | group r => r.plan s
  | seq rs => return .seq (← Regex.plans s rs [])
  | alt rs => return .alt (← Regex.plans s rs [])

/-- Look up expressions, `before` being the plans of those before, the last one first. -/
def Regex.plans (s : Subject) : List Regex → (before : List Plan) → StateM Lookups (List Plan)
  | [], before => return before.reverse
  | r :: rs, before => do Regex.plans s rs ((← r.plan s) :: before)

end

mutual

/-- The places where a match that begins at one of the given places can end, all counted from a
mark. -/
def Plan.ends : Plan → (mark : Nat) → Places → Places
  | stride s, mark, places => s.ends mark places
  | literal octets, mark, places =>
    octets.foldl (fun places octet ↦ (places &&& octet.after mark) <<< 1) places
  | stay kept, mark, places => places &&& kept.after mark
  | repeated p least more, mark, places =>
    let start := Places.iterate p.ends least mark places
    Places.within p.ends more mark start start
  | strides s, mark, places => s.endsOfAny mark places
  | seq ps, mark, places => Plan.endsOfAll ps mark places
  | alt ps, mark, places => Plan.endsOfEach ps mark places 0

def Plan.endsOfAll : List Plan → (mark : Nat) → Places → Places
  | [], _, places => places
  | p :: ps, mark, places =>
    if places = 0 then 0 else Plan.endsOfAll ps mark (p.ends mark places)

def Plan.endsOfEach : List Plan → (mark : Nat) → Places → (found : Places) → Places
  | [], _, _, found => found
  | p :: ps, mark, places, found =>
    Plan.endsOfEach ps mark places (found ||| p.ends mark places)

end

/-- Whether an expression matches somewhere in a string. -/
def Regex.matchesIn (r : Regex) (bytes : Bytes) : Bool :=
  let s := Subject.ofBytes bytes
  let (plan, _) := (r.plan s).run {}
  plan.ends 0 s.places != 0

end Pattern

end ColumnStore
