import ColumnStore.Text.CodePoints
import ColumnStore.Text.Utf8

/-!
# Regular expressions

A regular expression on octets matches strings of octets, characters in UTF-8, and places between
octets. Expressions are put together by functions that keep them simple: literals side by side
become one, alternatives that are single characters become a class, and a beginning that all
alternatives share is written once. Whether a repetition is greedy changes what a search finds but
not whether it finds something; it is recorded because alternatives that differ in it share nothing.
-/

namespace ColumnStore

namespace Pattern

inductive Look where
  | start
  | finish
  | lineStart
  | lineFinish
  /-- After a line end, where a carriage return with a line feed counts as one. -/
  | lineStartCRLF
  | lineFinishCRLF
  /-- The remaining ones compare the characters before and after the place; `unicode` says whether
  these are the letters, marks and digits of all scripts or those of ASCII only. -/
  | wordBoundary (unicode : Bool)
  | notWordBoundary (unicode : Bool)
  | wordStart (unicode : Bool)
  | wordFinish (unicode : Bool)
  | wordStartHalf (unicode : Bool)
  | wordFinishHalf (unicode : Bool)
deriving DecidableEq, Hashable

/-- The condition as seen by someone who reads backwards. -/
def Look.reversed : Look → Look
  | start => finish
  | finish => start
  | lineStart => lineFinish
  | lineFinish => lineStart
  | lineStartCRLF => lineFinishCRLF
  | lineFinishCRLF => lineStartCRLF
  | wordBoundary unicode => wordBoundary unicode
  | notWordBoundary unicode => notWordBoundary unicode
  | wordStart unicode => wordFinish unicode
  | wordFinish unicode => wordStart unicode
  | wordStartHalf unicode => wordFinishHalf unicode
  | wordFinishHalf unicode => wordStartHalf unicode

inductive Regex where
  | empty
  /-- A string of octets. -/
  | literal (octets : Bytes)
  /-- One octet of a class. -/
  | octet (set : CodePoints)
  /-- One well-formed character of a class. -/
  | char (set : CodePoints)
  | look (place : Look)
  /-- From `least` to `most` times the same expression, without an upper bound if there is none. -/
  | repeated (r : Regex) (least : Nat) (most : Option Nat) (greedy : Bool)
  /-- An expression whose match is remembered. -/
  | group (r : Regex)
  | seq (rs : List Regex)
  | alt (rs : List Regex)

def isAscii (set : CodePoints) : Bool :=
  set.ranges.back?.all (·.2 ≤ 0x7F)

namespace Regex

/-! ## Lengths -/

inductive Extreme where
  | least
  | greatest

def Extreme.pick : Extreme → Nat → Nat → Nat
  | least, m, n => min m n
  | greatest, m, n => max m n

def charLength (n : Nat) : Nat :=
  if n < 0x80 then 1 else if n < 0x800 then 2 else if n < 0x10000 then 3 else 4

mutual

/-- The least or greatest number of octets that an expression matches. There is none for an
expression that matches nothing or, at the upper end, anything. -/
def length? (e : Extreme) : Regex → Option Nat
  | empty => some 0
  | literal octets => some octets.length
  | octet set => if set.ranges.isEmpty then none else some 1
  | char set =>
    match e with
    | .least => set.ranges[0]?.map fun r ↦ charLength r.1
    | .greatest => set.ranges.back?.map fun r ↦ charLength r.2
  | look _ => some 0
  | repeated r least most _ =>
    match r.length? e, e, most with
    | some n, .least, _ => some (n * least)
    | some n, .greatest, some most => some (n * most)
    | _, _, _ => none
  | group r => r.length? e
  | seq rs => total? e rs 0
  | alt rs => extreme? e rs none

def total? (e : Extreme) : List Regex → (sum : Nat) → Option Nat
  | [], sum => some sum
  | r :: rs, sum =>
    match r.length? e with
    | some n => total? e rs (sum + n)
    | none => none

def extreme? (e : Extreme) : List Regex → (found : Option Nat) → Option Nat
  | [], found => found
  | r :: rs, found =>
    match r.length? e with
    | some n => extreme? e rs (some (match found with | some m => e.pick m n | none => n))
    | none => none

end

mutual

/-- Whether every match visibly starts at the beginning of the string. -/
def isAnchored : Regex → Bool
  | look place => place = .start
  | repeated r least _ _ => 0 < least && r.isAnchored
  | group r => r.isAnchored
  | seq rs => beginsAnchored rs
  | alt rs => !rs.isEmpty && areAnchored rs
  | _ => false

/-- Whether one of the expressions up to the first one with octets is anchored. -/
def beginsAnchored : List Regex → Bool
  | [] => false
  | r :: rs => r.isAnchored || (r.length? .greatest == some 0 && beginsAnchored rs)

def areAnchored : List Regex → Bool
  | [] => true
  | r :: rs => r.isAnchored && areAnchored rs

end

/-! ## Sameness -/

mutual

/-- Whether two expressions are the same. What is remembered of one place is not what is remembered
of another. -/
def same : Regex → Regex → Bool
  | empty, empty => true
  | literal a, literal b => a = b
  | octet s, octet t => s = t
  | char s, char t => s = t
  | look p, look q => p = q
  | repeated q l m g, repeated r l' m' g' => l = l' && m = m' && g = g' && q.same r
  | seq qs, seq rs => sameAll qs rs
  | alt qs, alt rs => sameAll qs rs
  | _, _ => false

def sameAll : List Regex → List Regex → Bool
  | [], [] => true
  | q :: qs, r :: rs => q.same r && sameAll qs rs
  | _, _ => false

end

/-! ## Simple forms -/

def fail : Regex :=
  octet .empty

def ofOctets (set : CodePoints) : Regex :=
  match set.ranges.toList with
  | [(a, b)] => if a = b then literal [UInt8.ofNat a] else octet set
  | _ => octet set

def ofChars (set : CodePoints) : Regex :=
  match set.ranges.toList with
  | [] => fail
  | [(a, b)] => if a = b then literal (Bytes.ofString (Char.ofNat a).toString) else char set
  | _ => char set

/-- Repeat an expression. One that matches places only need not be repeated more than once. -/
def repeating (r : Regex) (least : Nat) (most : Option Nat) (greedy : Bool) : Regex :=
  let (least, most) :=
    if r.length? .greatest = some 0 then (min least 1, some (min (most.getD 1) 1))
    else (least, most)
  if most = some 0 then empty
  else if least = 1 ∧ most = some 1 then r
  else repeated r least most greedy

def cons : Regex → List Regex → List Regex
  | literal a, literal b :: rest => literal (a ++ b) :: rest
  | r, rest => r :: rest

def seqParts : Regex → List Regex
  | empty => []
  | seq rs => rs
  | r => [r]

def concat (rs : List Regex) : Regex :=
  match (rs.flatMap seqParts).foldr cons [] with
  | [] => empty
  | [r] => r
  | rs => seq rs

def altBranches : Regex → List Regex
  | alt rs => rs
  | r => [r]

def literal? : Regex → Option Bytes
  | literal octets => some octets
  | _ => none

def singleChar? : Regex → Option Nat
  | literal octets =>
    match Utf8.head? octets with
    | some (c, []) => some c.toNat
    | _ => none
  | _ => none

def singleOctet? : Regex → Option Nat
  | literal [byte] => some byte.toNat
  | _ => none

def charClass? : Regex → Option CodePoints
  | char set => some set
  | octet set => if isAscii set then some set else none
  | _ => none

def octetClass? : Regex → Option CodePoints
  | octet set => some set
  | char set => if isAscii set then some set else none
  | _ => none

def asClass? (rs : List Regex) : Option Regex :=
  (rs.mapM singleChar?).map (fun cs ↦ ofChars (.ofRanges (cs.map fun c ↦ (c, c)))) <|>
  (rs.mapM singleOctet?).map (fun os ↦ ofOctets (.ofRanges (os.map fun o ↦ (o, o)))) <|>
  (rs.mapM charClass?).map (fun sets ↦ ofChars (.unions sets)) <|>
  (rs.mapM octetClass?).map (fun sets ↦ ofOctets (.unions sets))

/-- One of several expressions, without looking for a common beginning. -/
def oneOf (rs : List Regex) : Regex :=
  match rs.flatMap altBranches with
  | [] => fail
  | [r] => r
  | rs => (asClass? rs).getD (alt rs)

def commonCount : List Regex → List Regex → Nat
  | q :: qs, r :: rs => if q.same r then commonCount qs rs + 1 else 0
  | _, _ => 0

def sequence? : Regex → Option (List Regex)
  | seq rs => some rs
  | _ => none

/-- One of several expressions. A beginning that all of them share is written once. -/
def alternatives (rs : List Regex) : Regex :=
  match oneOf rs with
  | alt rs =>
    match rs.mapM sequence? with
    | some (first :: rest) =>
      match rest.foldl (fun n parts ↦ min n (commonCount first parts)) first.length with
      | 0 => alt rs
      | n =>
        let endings := (first :: rest).map fun parts ↦ concat (parts.drop n)
        concat (first.take n ++ [oneOf endings])
    | _ => alt rs
  | r => r

/-! ## Reading backwards -/

mutual

/-- The expression for the strings read backwards, where characters still stand for themselves. -/
def reversed : Regex → Regex
  | literal octets => literal octets.reverse
  | look place => look place.reversed
  | repeated r least most greedy => repeated r.reversed least most greedy
  | group r => group r.reversed
  | seq rs => seq (reversedAll rs [])
  | alt rs => alt (reversedAll rs []).reverse
  | r => r

def reversedAll : List Regex → (after : List Regex) → List Regex
  | [], after => after
  | r :: rs, after => reversedAll rs (r.reversed :: after)

end

end Regex

end Pattern

end ColumnStore
