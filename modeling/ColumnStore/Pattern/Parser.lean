import ColumnStore.Pattern.Automaton
import ColumnStore.Pattern.Opening
import ColumnStore.Pattern.Reader

/-!
# Reading a pattern

A pattern is read from left to right. Open groups, and open brackets inside a class, wait on a stack
for their end. `Parser.parse?` gives the expression of a pattern that is well-formed, not nested too
deeply and not too large.
-/

namespace ColumnStore

namespace Pattern

namespace Parser

open Reader

/-! ## Classes in brackets -/

structure ClassNode where
  set : CodePoints
  height : Nat := 0

inductive ClassOp where
  | inter
  | diff
  | symmDiff

namespace ClassOp

def apply : ClassOp → CodePoints → CodePoints → CodePoints
  | inter, s, t => (s.inter t).chars
  | diff, s, t => (s.diff t).chars
  | symmDiff, s, t => (s.symmDiff t).chars

/-- What an operator makes of being in one class and of being in another. -/
def Holds : ClassOp → Prop → Prop → Prop
  | inter, p, q => p ∧ q
  | diff, p, q => p ∧ ¬q
  | symmDiff, p, q => (p ∧ ¬q) ∨ (q ∧ ¬p)

theorem mem_apply (op : ClassOp) {s t : CodePoints} {n : Nat} (hn : n ≤ CodePoints.last)
    (hchar : CodePoints.isSurrogate n = false) :
    n ∈ op.apply s t ↔ op.Holds (n ∈ s) (n ∈ t) := by
  cases op with
  | inter => exact (CodePoints.mem_chars hchar).trans (CodePoints.mem_inter hn)
  | diff => exact (CodePoints.mem_chars hchar).trans (CodePoints.mem_diff hn)
  | symmDiff => exact (CodePoints.mem_chars hchar).trans (CodePoints.mem_symmDiff hn)

end ClassOp

/-- An open bracket: what has been read inside it so far. -/
structure Bracket where
  negated : Bool
  /-- The items since the last operator. -/
  items : List ClassNode := []
  /-- The class before the last operator. -/
  left : Option (ClassNode × ClassOp) := none

namespace Bracket

def add (b : Bracket) (item : ClassNode) : Bracket :=
  { b with items := item :: b.items }

def itemsNode (b : Bracket) : ClassNode :=
  match b.items with
  | [] => { set := .empty }
  | [item] => item
  | items =>
    { set := .unions (items.map (·.set))
      height := items.foldl (fun h item ↦ max h item.height) 0 + 1 }

/-- The class of everything read so far. Operators group to the left and, where case is ignored, see
their operands closed under case. -/
def node (f : Flags) (b : Bracket) : ClassNode :=
  match b.left with
  | none => b.itemsNode
  | some (left, op) =>
    { set := op.apply (foldIf f left.set) (foldIf f b.itemsNode.set)
      height := max left.height b.itemsNode.height + 1 }

def operate (f : Flags) (b : Bracket) (op : ClassOp) : Bracket :=
  { b with items := [], left := some (b.node f, op) }

def close (f : Flags) (b : Bracket) : ClassNode :=
  let inside := b.node f
  { set := negateIf f b.negated (foldIf f inside.set), height := inside.height + 1 }

theorem mem_itemsNode (b : Bracket) {n : Nat} :
    n ∈ b.itemsNode.set ↔ ∃ item ∈ b.items, n ∈ item.set := by
  unfold itemsNode
  split
  · next hitems => simp [hitems]
  · next item hitems => simp [hitems]
  · rw [CodePoints.mem_unions]
    constructor
    · rintro ⟨set, hset, hn⟩
      obtain ⟨item, hitem, rfl⟩ := List.mem_map.mp hset
      exact ⟨item, hitem, hn⟩
    · rintro ⟨item, hitem, hn⟩
      exact ⟨item.set, List.mem_map_of_mem hitem, hn⟩

/-- Whether a number is in what has been read so far. -/
def Admits (b : Bracket) (n : Nat) : Prop :=
  match b.left with
  | none => ∃ item ∈ b.items, n ∈ item.set
  | some (left, op) => op.Holds (n ∈ left.set) (∃ item ∈ b.items, n ∈ item.set)

/-- The class of a closed bracket has what its items and operators say, or everything else. The two
characters beside the surrogates are left out, and so is the closing under case. -/
theorem mem_close (b : Bracket) {f : Flags} {n : Nat} (hcase : f.ignoreCase = false)
    (hn : n ≤ CodePoints.last) (hbeside : n < 0xD7FF ∨ 0xE000 < n) (heverything : n ∈ f.everything) :
    n ∈ (b.close f).set ↔ (b.negated = true ↔ ¬b.Admits n) := by
  have hfold : ∀ set, foldIf f set = set := by simp [foldIf, hcase]
  have hchar : CodePoints.isSurrogate n = false := by
    simp only [CodePoints.isSurrogate, Bool.and_eq_false_iff, decide_eq_false_iff_not]
    omega
  have hinside : n ∈ (b.node f).set ↔ b.Admits n := by
    unfold node Admits
    cases b.left with
    | none => exact b.mem_itemsNode
    | some left =>
        simp only [hfold]
        rw [left.2.mem_apply hn hchar, b.mem_itemsNode]
  simp only [close, hfold]
  rw [mem_negateIf hn hbeside heverything, hinside]

end Bracket

def asciiClass? (name : List Char) : Option CodePoints :=
  match String.ofList name with
  | "alnum" => some (.ofRanges [(48, 57), (65, 90), (97, 122)])
  | "alpha" => some (.ofRanges [(65, 90), (97, 122)])
  | "ascii" => some (.ofRanges [(0, 127)])
  | "blank" => some (.ofRanges [(9, 9), (32, 32)])
  | "cntrl" => some (.ofRanges [(0, 31), (127, 127)])
  | "digit" => some (.ofRanges [(48, 57)])
  | "graph" => some (.ofRanges [(33, 126)])
  | "lower" => some (.ofRanges [(97, 122)])
  | "print" => some (.ofRanges [(32, 126)])
  | "punct" => some (.ofRanges [(33, 47), (58, 64), (91, 96), (123, 126)])
  | "space" => some asciiBlanks
  | "upper" => some (.ofRanges [(65, 90)])
  | "word" => some asciiWordChars
  | "xdigit" => some (.ofRanges [(48, 57), (65, 70), (97, 102)])
  | _ => none

def namedAscii? (f : Flags) : List Char → Option (ClassNode × List Char)
  | ':' :: cs =>
    let (negated, cs) := match cs with
      | '^' :: cs => (true, cs)
      | cs => (false, cs)
    match cs.span (· ≠ ':') with
    | (name, ':' :: ']' :: rest) =>
      (asciiClass? name).map fun set ↦ ({ set := negateIf f negated (foldIf f set) }, rest)
    | _ => none
  | _ => none

/-- Hyphens that a class starts with stand for themselves. -/
def leadingHyphens (f : Flags) : (fuel : Nat) → Bracket → List Char → Option (Bracket × List Char)
  | 0, _, _ => none
  | _ + 1, _, [] => none
  | fuel + 1, b, c :: cs =>
    if c = '-' then
      leadingHyphens f fuel (b.add { set := .singleton '-'.toNat }) (skip f.verbose cs)
    else
      some (b, c :: cs)

/-- Open a bracket whose first character has been read. A closing bracket that comes first stands
for itself. -/
def openBracket? (f : Flags) (fuel : Nat) (cs : List Char) : Option (Bracket × List Char) := do
  let cs := skip f.verbose cs
  let (b, cs) := match cs with
    | '^' :: cs => (({ negated := true } : Bracket), skip f.verbose cs)
    | cs => (({ negated := false } : Bracket), cs)
  let (b, cs) ← leadingHyphens f fuel b cs
  match b.items, cs with
  | [], ']' :: cs =>
    match skip f.verbose cs with
    | [] => none
    | cs => some (b.add { set := .singleton ']'.toNat }, cs)
  | _, cs => some (b, cs)

def classPrimitive? (f : Flags) : List Char → Option (Primitive × List Char)
  | [] => none
  | '\\' :: cs => escape? f.verbose cs
  | c :: cs => some (.literal c false, cs)

def classItem? (f : Flags) (cs : List Char) : Option (ClassNode × List Char) := do
  let (low, cs) ← classPrimitive? f cs
  match skip f.verbose cs with
  | [] => none
  | c :: cs =>
    let next := peek f.verbose cs
    if c ≠ '-' || next = some ']' || next = some '-' then
      let set ← low.class? f
      some ({ set }, c :: cs)
    else
      match skip f.verbose cs with
      | [] => none
      | cs =>
        let (high, cs) ← classPrimitive? f cs
        let a ← low.member? f
        let b ← high.member? f
        if a ≤ b then some ({ set := .ofRanges [(a, b)] }, cs) else none

/-- Read a class to its end, `outer` being the brackets around the current one. Every round reads at
least one character. -/
def readClass? (f : Flags) : (fuel : Nat) → Bracket → (outer : List Bracket) → List Char →
    Option (ClassNode × List Char)
  | 0, _, _, _ => none
  | fuel + 1, b, outer, cs =>
    match skip f.verbose cs with
    | [] => none
    | '[' :: cs =>
      match namedAscii? f cs with
      | some (item, cs) => readClass? f fuel (b.add item) outer cs
      | none =>
        match openBracket? f fuel cs with
        | some (inner, cs) => readClass? f fuel inner (b :: outer) cs
        | none => none
    | ']' :: cs =>
      match outer with
      | [] => some (b.close f, cs)
      | parent :: outer => readClass? f fuel (parent.add (b.close f)) outer cs
    | '&' :: '&' :: cs => readClass? f fuel (b.operate f .inter) outer cs
    | '-' :: '-' :: cs => readClass? f fuel (b.operate f .diff) outer cs
    | '~' :: '~' :: cs => readClass? f fuel (b.operate f .symmDiff) outer cs
    | cs =>
      match classItem? f cs with
      | some (item, cs) => readClass? f fuel (b.add item) outer cs
      | none => none

/-! ## Groups -/

structure Node where
  regex : Regex
  height : Nat := 0

structure Group where
  /-- Whether what the group matches is remembered. -/
  remembered : Bool := false
  /-- The settings to go back to at its end. -/
  outside : Flags
  /-- The alternatives before the current one, the last first. -/
  branches : List Node := []
  /-- The parts of the current alternative, the last first; `none` is a change of settings. -/
  parts : List (Option Node) := []

namespace Group

def add (g : Group) (part : Option Node) : Group :=
  { g with parts := part :: g.parts }

/-- Replace the last part by something that contains it. A change of settings cannot be replaced. -/
def modifyLast? (g : Group) (change : Node → Node) : Option Group :=
  match g.parts with
  | some last :: parts => some { g with parts := some (change last) :: parts }
  | _ => none

def branch (g : Group) : Node :=
  match g.parts with
  | [] => { regex := .empty }
  | [part] => part.getD { regex := .empty }
  | parts =>
    let nodes := parts.map fun part ↦ part.getD { regex := .empty }
    { regex := .concat (nodes.reverse.map (·.regex))
      height := nodes.foldl (fun h node ↦ max h node.height) 0 + 1 }

def nextBranch (g : Group) : Group :=
  { g with branches := g.branch :: g.branches, parts := [] }

def node (g : Group) : Node :=
  match g.branches with
  | [] => g.branch
  | branches =>
    let nodes := g.branch :: branches
    { regex := .alternatives (nodes.reverse.map (·.regex))
      height := nodes.foldl (fun h node ↦ max h node.height) 0 + 1 }

end Group

structure State where
  flags : Flags := {}
  /-- The names of groups so far. -/
  names : List (List Char) := []
  group : Group := { outside := {} }
  /-- The groups around the current one. -/
  outer : List Group := []

namespace State

def add (st : State) (node : Node) : State :=
  { st with group := st.group.add (some node) }

def openGroup (st : State) (remembered : Bool) (flags : Flags) : State :=
  { st with flags, group := { remembered, outside := st.flags }, outer := st.group :: st.outer }

def closeGroup? (st : State) : Option State :=
  match st.outer with
  | [] => none
  | parent :: outer =>
    let node := st.group.node
    let regex := if st.group.remembered then .group node.regex else node.regex
    some { st with
      flags := st.group.outside
      group := parent.add (some { regex, height := node.height + 1 })
      outer }

def repeatLast? (st : State) (least : Nat) (most : Option Nat) (greedy : Bool) : Option State :=
  (st.group.modifyLast? fun last ↦
    { regex := last.regex.repeating least most greedy, height := last.height + 1 }).map
    fun group ↦ { st with group }

end State

/-- Read settings up to a colon or a closing parenthesis. Gives the settings, whether there were
any, and the character that ended them. -/
def readFlags? (f : Flags) (seen : List Char) (negated danglingMinus : Bool) :
    List Char → Option (Flags × Bool × Char × List Char)
  | [] => none
  | c :: cs =>
    if c = ':' || c = ')' then
      if danglingMinus then none else some (f, !seen.isEmpty, c, cs)
    else if seen.contains c then none
    else if c = '-' then readFlags? f (c :: seen) true true cs
    else
      match f.set? c (!negated) with
      | some f => readFlags? f (c :: seen) negated false cs
      | none => none

/-- Letters and digits of later versions, which the names of groups can contain although no property
lists them. -/
def laterNameChars : Thunk CodePoints :=
  .mk fun _ ↦ CodePoints.ofTable
    "88f c5c cdc a7ce-a7cf a7d2 a7d4 a7f1 10940-10959 10ec5-10ec7 10efa-10efb 11b60-11b67
     11db0-11ddb 11de0-11de9 16ea0-16eb8 16ebb-16ed3 16ff2-16ff6 187f8-187ff 18d09-18d1e
     18d80-18df2 1e6c0-1e6de 1e6e0-1e6f5 1e6fe-1e6ff 2b73a-2b73f 2cea2-2cead 323b0-33479"

def laterDigits : CodePoints where
  ranges := #[(0x11DE0, 0x11DE9)]

def isNameChar (first : Bool) (c : Char) : Bool :=
  let n := c.toNat
  c = '_' || alphabetic.get.contains n ||
    (laterNameChars.get.contains n && !(first && laterDigits.contains n)) ||
    (!first && (c = '.' || c = '[' || c = ']' || numbers.get.contains n))

def groupName? (cs : List Char) : Option (List Char × List Char) :=
  match cs.span (· ≠ '>') with
  | (c :: name, '>' :: rest) =>
    if isNameChar true c && name.all (isNameChar false) then some (c :: name, rest) else none
  | _ => none

def openNamed? (st : State) (cs : List Char) : Option (State × List Char) := do
  let (name, cs) ← groupName? cs
  if st.names.contains name then none
  else some ({ st with names := name :: st.names }.openGroup true st.flags, cs)

/-- What follows an opening parenthesis. Looking around is not supported. -/
def openGroup? (st : State) (cs : List Char) : Option (State × List Char) :=
  match skip st.flags.verbose cs with
  | '?' :: '=' :: _ | '?' :: '!' :: _ | '?' :: '<' :: '=' :: _ | '?' :: '<' :: '!' :: _ => none
  | '?' :: 'P' :: '<' :: cs => openNamed? st cs
  | '?' :: '<' :: cs => openNamed? st cs
  | '?' :: cs =>
    match readFlags? st.flags [] false false cs with
    | none => none
    | some (flags, any, closing, cs) =>
      if closing = ':' then some (st.openGroup false flags, cs)
      else if any then some ({ st with flags, group := st.group.add none }, cs)
      else none
  | cs => some (st.openGroup true st.flags, cs)

def bounds? (verbose : Bool) (cs : List Char) : Option (Nat × Option Nat × List Char) := do
  let (least, cs) ← decimal? verbose (skip verbose cs)
  let (most, cs) ← match cs with
    | ',' :: cs =>
      match skip verbose cs with
      | '\x7d' :: cs => some (none, '\x7d' :: cs)
      | cs => (decimal? verbose cs).map fun (most, cs) ↦ (some most, cs)
    | cs => some (some least, cs)
  match cs with
  | '\x7d' :: cs => if most.all (least ≤ ·) then some (least, most, cs) else none
  | _ => none

/-- Repeat the last part, up to a mark that asks for fewer rounds first. -/
def repeated? (st : State) (least : Nat) (most : Option Nat) (cs : List Char) :
    Option (State × List Char) :=
  let (greedy, cs) := match cs with
    | '?' :: cs => (st.flags.swapGreed, cs)
    | cs => (!st.flags.swapGreed, cs)
  (st.repeatLast? least most greedy).map (·, cs)

def dotSet (f : Flags) : CodePoints :=
  if f.dotMatchesLineEnd then f.everything
  else if f.crlf then f.everything.diff (.ofRanges [(10, 10), (13, 13)])
  else f.everything.diff (.singleton 10)

def circumflex (f : Flags) : Look :=
  if f.multiLine then (if f.crlf then .lineStartCRLF else .lineStart) else .start

def dollar (f : Flags) : Look :=
  if f.multiLine then (if f.crlf then .lineFinishCRLF else .lineFinish) else .finish

/-- Read what starts with the character `c`. The fuel is more than the number of characters left. -/
def step? (fuel : Nat) (st : State) (c : Char) (cs : List Char) : Option (State × List Char) :=
  let f := st.flags
  match c with
  | '(' => openGroup? st cs
  | ')' => st.closeGroup?.map (·, cs)
  | '|' => some ({ st with group := st.group.nextBranch }, cs)
  | '?' => repeated? st 0 (some 1) cs
  | '*' => repeated? st 0 none cs
  | '+' => repeated? st 1 none cs
  | '\x7b' => do
    let (least, most, cs) ← bounds? f.verbose cs
    repeated? st least most (skip f.verbose cs)
  | '[' => do
    let (b, cs) ← openBracket? f fuel cs
    let (node, cs) ← readClass? f fuel b [] cs
    some (st.add { regex := classOf f node.set, height := node.height }, cs)
  | '\\' => do
    let (p, cs) ← escape? f.verbose cs
    let regex ← p.regex? f
    some (st.add { regex }, cs)
  | '.' => some (st.add { regex := classOf f (dotSet f) }, cs)
  | '^' => some (st.add { regex := .look (circumflex f) }, cs)
  | '$' => some (st.add { regex := .look (dollar f) }, cs)
  | c => ((Primitive.literal c false).regex? f).map fun regex ↦ (st.add { regex }, cs)

/-- Read a pattern to its end. Every round reads at least one character. -/
def run? : (fuel : Nat) → State → List Char → Option Node
  | 0, _, _ => none
  | fuel + 1, st, cs =>
    match skip st.flags.verbose cs with
    | [] => if st.outer.isEmpty then some st.group.node else none
    | c :: cs =>
      match step? fuel st c cs with
      | some (st, cs) => run? fuel st cs
      | none => none

def maxHeight : Nat :=
  250

/-- The expression that a pattern stands for. Its automata have to be within the limit unless a
search for it is one for literals, which needs none. -/
def parse? (source : String) : Option Regex :=
  match run? (source.length + 1) {} source.toList with
  | some node =>
    if node.height ≤ maxHeight ∧ (node.regex.fits ∨ node.regex.isLiteralSearch) then
      some node.regex
    else none
  | none => none

end Parser

end Pattern

end ColumnStore
