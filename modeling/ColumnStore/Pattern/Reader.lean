import ColumnStore.Pattern.Age
import ColumnStore.Pattern.Breaks
import ColumnStore.Pattern.Folding
import ColumnStore.Pattern.Matching
import ColumnStore.Pattern.Script
import ColumnStore.Text.Blank

/-!
# Pieces of a written pattern

What a pattern is made of below the level of groups: blanks and comments, numbers, escapes and
classes named by a property. All readers take the characters that are left and give back the rest.
-/

namespace ColumnStore

namespace Pattern

/-- The settings that `(?i)` and the like change. -/
structure Flags where
  ignoreCase : Bool := false
  multiLine : Bool := false
  dotMatchesLineEnd : Bool := false
  swapGreed : Bool := false
  unicode : Bool := true
  crlf : Bool := false
  /-- Blanks and comments in the pattern do not count. -/
  verbose : Bool := false

namespace Flags

def set? (f : Flags) (letter : Char) (on : Bool) : Option Flags :=
  match letter with
  | 'i' => some { f with ignoreCase := on }
  | 'm' => some { f with multiLine := on }
  | 's' => some { f with dotMatchesLineEnd := on }
  | 'U' => some { f with swapGreed := on }
  | 'u' => some { f with unicode := on }
  | 'R' => some { f with crlf := on }
  | 'x' => some { f with verbose := on }
  | _ => none

/-- What classes are parts of: the characters, or the octets where patterns are about octets. -/
def everything (f : Flags) : CodePoints :=
  .ofRanges [(0, if f.unicode then CodePoints.last else 255)]

end Flags

namespace Reader

/-! ## Blanks and comments -/

/-- Pass over blanks and comments, `inComment` saying whether the text starts inside one. -/
def skipBlanks : (inComment : Bool) → List Char → List Char
  | _, [] => []
  | true, c :: cs => skipBlanks (c ≠ '\n') cs
  | false, c :: cs =>
    if Text.isBlank c then skipBlanks false cs
    else if c = '#' then skipBlanks true cs
    else c :: cs

def skip (verbose : Bool) (cs : List Char) : List Char :=
  if verbose then skipBlanks false cs else cs

theorem length_skipBlanks_le (inComment : Bool) (cs : List Char) :
    (skipBlanks inComment cs).length ≤ cs.length := by
  induction cs generalizing inComment with
  | nil => cases inComment <;> simp [skipBlanks]
  | cons c cs ih =>
      cases inComment with
      | true => exact Nat.le_succ_of_le (ih _)
      | false =>
          simp only [skipBlanks]
          split
          · exact Nat.le_succ_of_le (ih _)
          · split
            · exact Nat.le_succ_of_le (ih _)
            · exact Nat.le_refl _

theorem length_skip_le (verbose : Bool) (cs : List Char) :
    (skip verbose cs).length ≤ cs.length := by
  unfold skip
  split
  · exact length_skipBlanks_le _ _
  · exact Nat.le_refl _

/-- The characters up to the first one that fails a test, and the rest. Blanks between them are
passed over where they do not count. -/
def span (verbose : Bool) (test : Char → Bool) : List Char → List Char × List Char
  | [] => ([], [])
  | c :: cs =>
    if test c then
      let (taken, rest) := span verbose test (skip verbose cs)
      (c :: taken, rest)
    else
      ([], c :: cs)
termination_by cs => cs.length
decreasing_by exact Nat.lt_succ_of_le (length_skip_le verbose cs)

/-- The character after the current one, as far as a class is concerned: blanks and the first
comment sign are passed over where they do not count, but not the text of the comment. -/
def peek (verbose : Bool) (cs : List Char) : Option Char :=
  if verbose then go false cs <|> cs.head? else cs.head?
where
  go : Bool → List Char → Option Char
    | _, [] => none
    | inComment, c :: cs =>
      if Text.isBlank c then go inComment cs
      else if !inComment && c = '#' then go true cs
      else some c

/-! ## Numbers -/

def isDigit (c : Char) : Bool :=
  '0' ≤ c && c ≤ '9'

def isHexDigit (c : Char) : Bool :=
  (CodePoints.hexDigit? c).isSome

/-- A decimal number below 2^32, blanks around it allowed. -/
def decimal? (verbose : Bool) (cs : List Char) : Option (Nat × List Char) :=
  let (digits, rest) := span verbose isDigit (cs.dropWhile Text.isBlank)
  let n := digits.foldl (fun n c ↦ n * 10 + (c.toNat - 48)) 0
  if digits.isEmpty || UInt32.size ≤ n then none
  else some (n, skip verbose (rest.dropWhile Text.isBlank))

def charOfNumber? (n : Nat) : Option Char :=
  if n.isValidChar then some (Char.ofNat n) else none

def hexDigits? (verbose : Bool) : (count : Nat) → (value : Nat) → List Char →
    Option (Char × List Char)
  | 0, value, cs => (charOfNumber? value).map (·, cs)
  | _ + 1, _, [] => none
  | count + 1, value, c :: cs =>
    match CodePoints.hexDigit? c with
    | some d => hexDigits? verbose count (value * 16 + d) (skip verbose cs)
    | none => none

def bracedHex? (verbose : Bool) (cs : List Char) : Option (Char × List Char) :=
  match span verbose (· ≠ '\x7d') (skip verbose cs) with
  | (digits, _ :: rest) =>
    if digits.isEmpty || !digits.all isHexDigit then none
    else (charOfNumber? (CodePoints.readHex digits)).map (·, skip verbose rest)
  | (_, []) => none

/-! ## Properties -/

/-- A name in small letters, without separators, characters beyond ASCII and a leading "is". -/
def normalName (name : List Char) : List Char :=
  let startsWithIs := match name with
    | a :: b :: _ => (a = 'i' || a = 'I') && (b = 's' || b = 'S')
    | _ => false
  let letters := (if startsWithIs then name.drop 2 else name).filterMap fun c ↦
    if c = ' ' || c = '_' || c = '-' || 0x80 ≤ c.toNat then none else some c.toLower
  if startsWithIs && letters = ['c'] then "isc".toList else letters

/-- The class of a property that a name alone stands for. The short names of two categories and of a
group of categories are also those of other properties, and the categories win. -/
def namedClass? (name : List Char) : Option CodePoints :=
  let name := normalName name
  let asProperty :=
    if ["cf".toList, "sc".toList, "lc".toList].contains name then none else property? name
  asProperty <|> category? name <|> script? name

def valueClass? (name value : List Char) : Option CodePoints :=
  let name := normalName name
  let value := normalName value
  if isNameOf name "gc generalcategory" then category? value
  else if isNameOf name "sc script" then script? value
  else if isNameOf name "scx scriptextensions" then scriptExtension? value
  else if isNameOf name "age" then age? value
  else if isNameOf name "gcb graphemeclusterbreak" then graphemeBreak? value
  else if isNameOf name "wb wordbreak" then wordBreak? value
  else if isNameOf name "sb sentencebreak" then sentenceBreak? value
  else none

def cut? (separator : List Char) : List Char → Option (List Char × List Char)
  | [] => none
  | c :: cs =>
    if separator.isPrefixOf (c :: cs) then some ([], (c :: cs).drop separator.length)
    else (cut? separator cs).map fun (before, after) ↦ (c :: before, after)

/-- The class that the inside of the braces after `\p` stands for, and whether everything else is
meant. -/
def bracedClass? (inside : List Char) : Option (CodePoints × Bool) :=
  match cut? ['!', '='] inside with
  | some (name, value) => (valueClass? name value).map (·, true)
  | none =>
    match cut? [':'] inside <|> cut? ['='] inside with
    | some (name, value) => (valueClass? name value).map (·, false)
    | none => (namedClass? inside).map (·, false)

/-- The class after `\p` or `\P`, and whether everything else is meant instead, `negated` being true
for the latter. -/
def propertyClass? (verbose negated : Bool) (cs : List Char) :
    Option (CodePoints × Bool × List Char) :=
  match skip verbose cs with
  | [] => none
  | '\x7b' :: rest =>
    match span verbose (· ≠ '\x7d') (skip verbose rest) with
    | (inside, _ :: rest) =>
      (bracedClass? inside).map fun (set, other) ↦ (set, negated != other, rest)
    | (_, []) => none
  | '\\' :: _ => none
  | c :: rest => (namedClass? [c]).map fun set ↦ (set, negated, skip verbose rest)

/-! ## Escapes -/

inductive Shorthand where
  | digit
  | space
  | word

/-- What one character or escape of a pattern stands for. -/
inductive Primitive where
  /-- A character; `octet` says that it is written as an escape of two digits, which stands for
  an octet where patterns are about octets. -/
  | literal (c : Char) (octet : Bool)
  | look (place : Bool → Look)
  | shorthand (kind : Shorthand) (negated : Bool)
  | property (set : CodePoints) (negated : Bool)

def isEscapable (c : Char) : Bool :=
  c.toNat < 0x80 && !c.isAlphanum && c ≠ '<' && c ≠ '>'

def wordPlace? (name : String) : Option (Bool → Look) :=
  if name = "start" then some .wordStart
  else if name = "end" then some .wordFinish
  else if name = "start-half" then some .wordStartHalf
  else if name = "end-half" then some .wordFinishHalf
  else none

/-- A word boundary, perhaps with a word in braces. Braces with something else are left alone. -/
def boundary? (verbose : Bool) (cs : List Char) : Option (Primitive × List Char) :=
  let isWordChar := fun (c : Char) ↦ c.isAlpha || c = '-'
  match cs with
  | '\x7b' :: rest =>
    match skip verbose rest with
    | [] => none
    | c :: inside =>
      if isWordChar c then
        match span verbose isWordChar (c :: inside) with
        | (name, '\x7d' :: rest) => (wordPlace? (String.ofList name)).map (.look ·, rest)
        | _ => none
      else
        some (.look .wordBoundary, cs)
  | _ => some (.look .wordBoundary, cs)

def escape? (verbose : Bool) : List Char → Option (Primitive × List Char)
  | [] => none
  | c :: cs =>
    let literal := fun (c : Char) ↦ some (Primitive.literal c false, cs)
    let hex := fun (count : Nat) ↦
      match skip verbose cs with
      | '\x7b' :: rest =>
        (bracedHex? verbose rest).map fun (c, rest) ↦ (Primitive.literal c false, rest)
      | rest => (hexDigits? verbose count 0 rest).map fun (d, rest) ↦
          (Primitive.literal d (c = 'x'), rest)
    match c with
    | 'x' => hex 2
    | 'u' => hex 4
    | 'U' => hex 8
    | 'p' | 'P' =>
      (propertyClass? verbose (c = 'P') cs).map fun (set, negated, rest) ↦
        (.property set negated, rest)
    | 'd' => some (.shorthand .digit false, cs)
    | 'D' => some (.shorthand .digit true, cs)
    | 's' => some (.shorthand .space false, cs)
    | 'S' => some (.shorthand .space true, cs)
    | 'w' => some (.shorthand .word false, cs)
    | 'W' => some (.shorthand .word true, cs)
    | 'a' => literal '\x07'
    | 'f' => literal '\x0C'
    | 't' => literal '\t'
    | 'n' => literal '\n'
    | 'r' => literal '\r'
    | 'v' => literal '\x0B'
    | 'A' => some (.look fun _ ↦ .start, cs)
    | 'z' => some (.look fun _ ↦ .finish, cs)
    | 'b' => boundary? verbose cs
    | 'B' => some (.look .notWordBoundary, cs)
    | '<' => some (.look .wordStart, cs)
    | '>' => some (.look .wordFinish, cs)
    | c => if isEscapable c then literal c else none

/-! ## Meanings -/

def asciiBlanks : CodePoints where
  ranges := #[(9, 13), (32, 32)]

/-- A class, or everything else. -/
def negateIf (f : Flags) (negated : Bool) (set : CodePoints) : CodePoints :=
  if !negated then set
  else if f.unicode then set.otherChars
  else f.everything.diff set

/-- Everything else is what its name says, but for the two characters beside the surrogates. -/
theorem mem_negateIf {f : Flags} {negated : Bool} {set : CodePoints} {n : Nat}
    (hn : n ≤ CodePoints.last) (hbeside : n < 0xD7FF ∨ 0xE000 < n) (heverything : n ∈ f.everything) :
    n ∈ negateIf f negated set ↔ (negated = true ↔ n ∉ set) := by
  unfold negateIf
  cases negated with
  | false => simp
  | true =>
      have hset : n ∈ (if f.unicode then set.otherChars else f.everything.diff set) ↔ n ∉ set := by
        split
        · exact CodePoints.mem_otherChars hn hbeside
        · rw [CodePoints.mem_diff hn]
          exact and_iff_right heverything
      simpa using hset

def foldIf (f : Flags) (set : CodePoints) : CodePoints :=
  if f.ignoreCase then (if f.unicode then anyCase set else anyLetterCase set) else set

def shorthandClass (f : Flags) (kind : Shorthand) (negated : Bool) : CodePoints :=
  negateIf f negated <| match kind with
    | .digit => if f.unicode then digits.get else .ofRanges [(48, 57)]
    | .space => if f.unicode then blanks.get else asciiBlanks
    | .word => if f.unicode then wordChars.get else asciiWordChars

def classOf (f : Flags) (set : CodePoints) : Regex :=
  if f.unicode then .ofChars set else .ofOctets set

def charRegex (c : Char) : Regex :=
  .literal (Bytes.ofString c.toString)

def anyCaseRegex (f : Flags) (c : Char) : Regex :=
  match if f.unicode then alike c.toNat else alikeLetters c.toNat with
  | [_] => charRegex c
  | others => classOf f (.ofRanges (others.map fun n ↦ (n, n)))

/-- The expression that a primitive stands for. Properties are about characters only. -/
def Primitive.regex? (f : Flags) : Primitive → Option Regex
  | literal c octet =>
    if !f.unicode && octet && 0x80 ≤ c.toNat then some (.literal [UInt8.ofNat c.toNat])
    else some (if f.ignoreCase then anyCaseRegex f c else charRegex c)
  | look place => some (.look (place f.unicode))
  | shorthand kind negated => some (classOf f (shorthandClass f kind negated))
  | property set negated =>
    if f.unicode then some (.ofChars (negateIf f negated (foldIf f set))) else none

def Primitive.member? (f : Flags) : Primitive → Option Nat
  | literal c octet =>
    if f.unicode || c.toNat < 0x80 || (octet && c.toNat ≤ 0xFF) then some c.toNat else none
  | _ => none

def Primitive.class? (f : Flags) : Primitive → Option CodePoints
  | p@(literal _ _) => (p.member? f).map .singleton
  | look _ => none
  | shorthand kind negated => some (shorthandClass f kind negated)
  | property set negated => if f.unicode then some (negateIf f negated (foldIf f set)) else none

end Reader

end Pattern

end ColumnStore
