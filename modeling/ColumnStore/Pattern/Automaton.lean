import ColumnStore.Pattern.Regex
import ColumnStore.Text.Utf8.Ranges
import Std.Data.HashMap

/-!
# The room that an automaton takes

An expression can be searched for with an automaton that reads octets, one state after the other,
and the reversed expression with one that reads backwards. Neither is built here; what is worked out
is the room that each would take. A bounded repetition is written out, so that a short expression can
stand for a large automaton, and the work stops as soon as the limit is passed.
-/

namespace ColumnStore

namespace Pattern

/-- The states of an automaton so far and the octets in which they are kept. The states are numbered
in the order in which they are added. -/
structure Room where
  states : Nat := 0
  octets : Nat := 0

namespace Room

def limit : Nat :=
  10 * 1024 * 1024

def stateOctets : Nat :=
  32

def linkOctets : Nat :=
  4

def arcOctets : Nat :=
  8

def take? (octets : Nat) (room : Room) : Option Room :=
  if room.octets + octets ≤ limit then some { room with octets := room.octets + octets } else none

def state? (links : Nat) (room : Room) : Option Room :=
  ({ room with states := room.states + 1 } : Room).take? (stateOctets + links)

def times? (step : Room → Option Room) : (count : Nat) → Room → Option Room
  | 0, room => some room
  | count + 1, room =>
    match step room with
    | some room => times? step count room
    | none => none

def fork? (room : Room) : Option Room :=
  room.state? (2 * linkOctets)

def read? (set : CodePoints) (room : Room) : Option Room := do
  let room ← room.state? 0
  room.state? (arcOctets * set.ranges.size)

end Room

/-! ## Characters

The automaton for a class of characters reads octet ranges. States that lead on alike are shared, as
far as a table with a fixed number of places remembers them: each place holds the last state that
falls on it. -/

/-- Mix numbers into one: each is combined with the mix bit by bit, and the result is multiplied by
a prime. -/
def mixed (numbers : List Nat) : Nat :=
  (numbers.foldl (fun mix n ↦ (mix ^^^ UInt64.ofNat n) * 1099511628211)
    (14695981039346656037 : UInt64)).toNat

/-- States that can be shared: what was to be remembered of each, and its number. -/
structure SharedStates where
  room : Room
  /-- The number of places in the table. -/
  places : Nat
  table : Std.HashMap Nat (List Nat × Nat) := {}

namespace SharedStates

/-- The state that is described by some numbers, added if the table does not hold it. -/
def state? (links : Nat) (description : List Nat) (shared : SharedStates) :
    Option (Nat × SharedStates) :=
  let place := mixed description % shared.places
  let add := fun (_ : Unit) ↦ (shared.room.state? links).map fun room ↦
    (shared.room.states,
      { shared with room, table := shared.table.insert place (description, shared.room.states) })
  match shared.table[place]? with
  | some (known, number) => if known = description then some (number, shared) else add ()
  | none => add ()

/-- The state that reads one of some sequences of octet ranges and leads to the state `target`. The
sequences are in ascending order and not longer than `depth`. -/
def sequences? (target : Nat) : (depth : Nat) → List (List Utf8.OctetRange) → SharedStates →
    Option (Nat × SharedStates)
  | 0, _, shared => some (target, shared)
  | depth + 1, sequences, shared => do
    let (description, shared) ← (sequences.splitBy fun s t ↦ s.head? == t.head?).foldlM
      (fun (description, shared) alike ↦ do
        match alike with
        | [(low, high)] :: _ => some (target :: high :: low :: description, shared)
        | ((low, high) :: _) :: _ =>
          let (next, shared) ← sequences? target depth (alike.map List.tail) shared
          some (next :: high :: low :: description, shared)
        | _ => some (description, shared))
      ([], shared)
    shared.state? (Room.arcOctets * (description.length / 3)) description.reverse

def backwards? (target : Nat) : List Utf8.OctetRange → SharedStates → Option SharedStates
  | [], shared => some shared
  | (low, high) :: rest, shared => do
    let (next, shared) ← shared.state? 0 [target, low, high]
    backwards? next rest shared

end SharedStates

def octetSequences (set : CodePoints) : List (List Utf8.OctetRange) :=
  set.ranges.toList.flatMap fun (a, b) ↦ Utf8.sequences a b

def Room.char? (set : CodePoints) (room : Room) : Option Room := do
  let target := room.states
  let room ← room.state? 0
  let (_, shared) ← SharedStates.sequences? target 4 (octetSequences set) { room, places := 10000 }
  some shared.room

def Room.charBackwards? (set : CodePoints) (room : Room) : Option Room := do
  let room ← room.state? 0
  let target := room.states
  let room ← room.state? 0
  let shared ← (octetSequences set).foldlM (fun shared sequence ↦ do
    let shared ← shared.backwards? target sequence
    let room ← shared.room.take? linkOctets
    some { shared with room }) ({ room, places := 1000 } : SharedStates)
  some shared.room

/-! ## Literals

Alternatives that are all literals are read along a tree, in which an alternative that is the
beginning of others divides the later ones from the earlier ones. Every node from which something
goes on has a state that chooses between its ways, even if there is only one. -/

/-- The alternatives after the ends of alternatives, in order. An end before all others counts
once. -/
def divided : (rest : List Bytes) → List (List Bytes)
  | [] => [[]]
  | [] :: [] :: rest => divided ([] :: rest)
  | [] :: rest => [] :: parts rest
  | rest => parts rest
where
  parts : List Bytes → List (List Bytes)
    | [] => [[]]
    | [] :: rest => [] :: parts rest
    | octets :: rest =>
      match parts rest with
      | part :: parts => (octets :: part) :: parts
      | [] => [[octets]]

def branches (part : List Bytes) : List (List Bytes) :=
  ((part.filterMap List.head?).eraseDups).map fun octet ↦
    part.filterMap fun octets ↦
      match octets with
      | first :: rest => if first = octet then some rest else none
      | [] => none

/-- Add the states for the nodes of a tree, each given by the alternatives that go on from it. Every
round passes at least one octet. -/
def Room.tree? : (fuel : Nat) → (nodes : List (List Bytes)) → Room → Option Room
  | _, [], room => some room
  | 0, _, room => some room
  | fuel + 1, node :: nodes, room => do
    let parts := (divided node).map branches
    let room ← parts.foldlM (fun room branches ↦
      if branches.isEmpty then some room
      else room.state? (if branches.length = 1 then 0 else arcOctets * branches.length)) room
    let ways := (parts.filter (!·.isEmpty)).length + (parts.length - 1)
    let room ← room.state? (linkOctets * ways)
    room.tree? fuel (parts.flatten.filter (·.any (!·.isEmpty)) ++ nodes)

def Room.literals? (alternatives : List Bytes) (room : Room) : Option Room := do
  let room ← room.state? 0
  room.tree? (alternatives.flatten.length + 1) [alternatives]

/-! ## Expressions -/

inductive Direction where
  | forwards
  | backwards

mutual

/-- Add the states for an expression. What is remembered is remembered in reading forwards. -/
def Room.regex? (direction : Direction) : Regex → Room → Option Room
  | .empty, room => room.state? 0
  | .literal octets, room => room.times? (state? 0) octets.length
  | .octet set, room => room.read? set
  | .char set, room =>
    if isAscii set then room.read? set
    else match direction with
      | .forwards => room.char? set
      | .backwards => room.charBackwards? set
  | .look _, room => room.state? 0
  | .repeated r 0 none _, room =>
    if (r.length? .least).any (0 < ·) then do
      Room.regex? direction r (← room.fork?)
    else do
      let room ← Room.regex? direction r room
      let room ← room.fork?
      let room ← room.fork?
      room.state? 0
  | .repeated r least none _, room => do
    let room ← room.times? (Room.regex? direction r) least
    room.fork?
  | .repeated r least (some most) _, room =>
    if least = 0 ∧ most = 1 then do
      let room ← Room.regex? direction r (← room.fork?)
      room.state? 0
    else do
      let room ← if least = 0 then room.state? 0 else room.times? (Room.regex? direction r) least
      if least = most then some room
      else do
        let room ← room.state? 0
        room.times? (fun room ↦ do Room.regex? direction r (← room.fork?)) (most - least)
  | .group r, room =>
    match direction with
    | .forwards => do
      let room ← Room.regex? direction r (← room.state? 0)
      room.state? 0
    | .backwards => Room.regex? direction r room
  | .seq rs, room => Room.all? direction rs room
  | .alt rs, room =>
    match rs.mapM Regex.literal? with
    | some literals => room.literals? literals
    | none => Room.ways? direction rs 0 room

def Room.all? (direction : Direction) : List Regex → Room → Option Room
  | [], room => some room
  | r :: rs, room =>
    match Room.regex? direction r room with
    | some room => Room.all? direction rs room
    | none => none

/-- Add the states for alternatives, `count` of them having been added. The state that chooses
between them comes after the second one. -/
def Room.ways? (direction : Direction) : List Regex → (count : Nat) → Room → Option Room
  | [], _, room => some room
  | r :: rs, count, room => do
    let room ← Room.regex? direction r room
    match count with
    | 0 => Room.ways? direction rs 1 room
    | 1 => Room.ways? direction rs 2 (← (← room.fork?).state? 0)
    | count => Room.ways? direction rs (count + 1) (← room.take? linkOctets)

end

/-- The room that the automaton for an expression takes, if it is within the limit. Unless all
matches start at the beginning, the automaton first passes over any octets. -/
def Room.ofRegex? (direction : Direction) (r : Regex) : Option Room := do
  let room ←
    if r.isAnchored then ({} : Room).state? 0
    else do (← ({} : Room).fork?).read? (.ofRanges [(0, 255)])
  let room ← Room.regex? direction (.group r) room
  room.state? 0

/-- Whether the automata of both directions are within the limit. -/
def Regex.fits (r : Regex) : Bool :=
  (Room.ofRegex? .backwards r.reversed).isSome && (Room.ofRegex? .forwards r).isSome

end Pattern

end ColumnStore
