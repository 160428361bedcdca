import ColumnStore.Json.Value
import ColumnStore.OrderedMap
import ColumnStore.Text.CodePoints
import ColumnStore.Text.Integer

/-!
# Reading documents

`Value.read?` reads a document of one value. It accepts nothing that the format does not allow, and
no more than 127 arrays and objects inside one another. Of several fields with one key the last one
counts. Every reader leaves less of the text than it was given.
-/

namespace ColumnStore

namespace Json

/-- What is left after some of a text was read. -/
abbrev Rest (s : List Char) := { rest : List Char // rest.length < s.length }

abbrev Reader (α : Type) := (s : List Char) → Option (α × Rest s)

def isSpace (c : Char) : Bool :=
  c == ' ' || c == '\t' || c == '\n' || c == '\r'

def skipSpace (s : List Char) : List Char :=
  s.dropWhile isSpace

theorem length_skipSpace_le (s : List Char) : (skipSpace s).length ≤ s.length :=
  (List.dropWhile_suffix isSpace).length_le

/-- Read one character after any space. -/
def mark (c : Char) (s : List Char) : Option (Rest s) :=
  match h : skipSpace s with
  | [] => none
  | c' :: rest =>
    if c' = c then
      some ⟨rest, by
        have hlength := length_skipSpace_le s
        simp only [h, List.length_cons] at hlength
        omega⟩
    else none

/-! ## Strings -/

def codeUnit : List Char → Option (Nat × List Char)
  | a :: b :: c :: d :: rest =>
    if [a, b, c, d].all fun x ↦ (CodePoints.hexDigit? x).isSome then
      some (CodePoints.readHex [a, b, c, d], rest)
    else none
  | _ => none

/-- Read the character that one or two code units stand for, the first one read up to its digits. -/
def unicodeEscape (s : List Char) : Option (Char × List Char) :=
  match codeUnit s with
  | none => none
  | some (unit, rest) =>
    if unit < 0xD800 ∨ 0xDFFF < unit then some (Char.ofNat unit, rest)
    else if 0xDBFF < unit then none
    else
      match rest with
      | '\\' :: 'u' :: rest =>
        match codeUnit rest with
        | none => none
        | some (low, rest) =>
          if 0xDC00 ≤ low ∧ low ≤ 0xDFFF then
            some (Char.ofNat (0x10000 + (unit - 0xD800) * 0x400 + (low - 0xDC00)), rest)
          else none
      | _ => none

def shortEscape (c : Char) : Option Char :=
  if c = '"' ∨ c = '\\' ∨ c = '/' then some c
  else if c = 'b' then some '\x08'
  else if c = 'f' then some '\x0c'
  else if c = 'n' then some '\n'
  else if c = 'r' then some '\r'
  else if c = 't' then some '\t'
  else none

def escaped : List Char → Option (Char × List Char)
  | [] => none
  | c :: rest => if c = 'u' then unicodeEscape rest else (shortEscape c).map (·, rest)

theorem length_codeUnit_lt {s rest : List Char} {unit : Nat} (h : codeUnit s = some (unit, rest)) :
    rest.length < s.length := by
  unfold codeUnit at h
  split at h
  · split at h
    · cases h
      simp only [List.length_cons]
      omega
    · cases h
  · cases h

theorem length_unicodeEscape_lt {s rest : List Char} {c : Char}
    (h : unicodeEscape s = some (c, rest)) : rest.length < s.length := by
  unfold unicodeEscape at h
  split at h
  · cases h
  · next hfirst =>
    have hlength := length_codeUnit_lt hfirst
    split at h
    · cases h
      exact hlength
    · split at h
      · cases h
      · split at h
        · split at h
          · cases h
          · next hsecond =>
            have hlength' := length_codeUnit_lt hsecond
            split at h
            · simp only [Option.some.injEq, Prod.mk.injEq] at h
              simp only [List.length_cons] at hlength
              rw [← h.2]
              omega
            · cases h
        · cases h

theorem length_escaped_lt {s rest : List Char} {c : Char} (h : escaped s = some (c, rest)) :
    rest.length < s.length := by
  unfold escaped at h
  split at h
  · cases h
  · split at h
    · exact Nat.lt_succ_of_lt (length_unicodeEscape_lt h)
    · obtain ⟨_, _, heq⟩ := Option.map_eq_some_iff.mp h
      cases heq
      exact Nat.lt_succ_self _

def characters (s : List Char) : Option (List Char × Rest s) :=
  match s with
  | [] => none
  | c :: rest =>
    if c = '"' then some ([], ⟨rest, Nat.lt_succ_self _⟩)
    else if c = '\\' then
      match h : escaped rest with
      | none => none
      | some (c, rest') =>
        have hlength : rest'.length < rest.length := length_escaped_lt h
        match characters rest' with
        | none => none
        | some (cs, tail) => some (c :: cs, ⟨tail, Nat.lt_succ_of_lt (Nat.lt_trans tail.2 hlength)⟩)
    else if c.toNat < 0x20 then none
    else
      match characters rest with
      | none => none
      | some (cs, tail) => some (c :: cs, ⟨tail, Nat.lt_succ_of_lt tail.2⟩)
termination_by s.length

def string : Reader String := fun s ↦
  match mark '"' s with
  | none => none
  | some rest =>
    match characters rest with
    | none => none
    | some (cs, tail) => some (String.ofList cs, ⟨tail, Nat.lt_trans tail.2 rest.2⟩)

/-! ## Numbers -/

def digits : List Char → List Nat × List Char
  | [] => ([], [])
  | c :: cs =>
    match Text.digit? c with
    | none => ([], c :: cs)
    | some d => (d :: (digits cs).1, (digits cs).2)

/-- Read the digits before the point: a zero alone, or any that do not start with one. -/
def wholePart : List Char → Option (List Nat × List Char)
  | [] => none
  | c :: cs =>
    match Text.digit? c with
    | none => none
    | some d => if d = 0 then some ([0], cs) else some (d :: (digits cs).1, (digits cs).2)

/-- Read a point with digits after it, if there is one. -/
def fractionPart : List Char → Option (List Nat × List Char)
  | '.' :: cs =>
    match digits cs with
    | ([], _) => none
    | (ds, rest) => some (ds, rest)
  | s => some ([], s)

def exponentDigits (negative : Bool) (s : List Char) : Option (Option Int × List Char) :=
  match digits s with
  | ([], _) => none
  | (ds, rest) =>
    let n : Nat := ds.foldl (fun n d ↦ n * 10 + d) 0
    some (some (if negative then -n else n), rest)

def exponentPart : List Char → Option (Option Int × List Char)
  | 'e' :: '+' :: cs | 'E' :: '+' :: cs => exponentDigits false cs
  | 'e' :: '-' :: cs | 'E' :: '-' :: cs => exponentDigits true cs
  | 'e' :: cs | 'E' :: cs => exponentDigits false cs
  | s => some (none, s)

def unsigned (negative : Bool) (s : List Char) : Option (Number × List Char) :=
  match wholePart s with
  | none => none
  | some (whole, s) =>
    match fractionPart s with
    | none => none
    | some (fraction, s) =>
      match exponentPart s with
      | none => none
      | some (exponent, s) =>
        (Literal.number? { negative, whole, fraction, exponent }).map (·, s)

theorem length_digits_le (s : List Char) : (digits s).2.length ≤ s.length := by
  induction s with
  | nil => exact Nat.le_refl _
  | cons c cs ih =>
      unfold digits
      split
      · exact Nat.le_refl _
      · exact Nat.le_succ_of_le ih

theorem length_wholePart_lt {s rest : List Char} {ds : List Nat}
    (h : wholePart s = some (ds, rest)) : rest.length < s.length := by
  unfold wholePart at h
  split at h
  · cases h
  · next cs =>
    split at h
    · cases h
    · split at h
      · cases h
        exact Nat.lt_succ_self _
      · cases h
        exact Nat.lt_succ_of_le (length_digits_le cs)

theorem length_fractionPart_le {s rest : List Char} {ds : List Nat}
    (h : fractionPart s = some (ds, rest)) : rest.length ≤ s.length := by
  unfold fractionPart at h
  split at h
  · next cs =>
    have hlength := length_digits_le cs
    split at h
    · cases h
    · next hds =>
      cases h
      rw [hds] at hlength
      exact Nat.le_succ_of_le hlength
  · cases h
    exact Nat.le_refl _

theorem length_exponentDigits_le {negative : Bool} {s rest : List Char} {e : Option Int}
    (h : exponentDigits negative s = some (e, rest)) : rest.length ≤ s.length := by
  unfold exponentDigits at h
  have hlength := length_digits_le s
  split at h
  · cases h
  · next hds =>
    cases h
    rw [hds] at hlength
    exact hlength

theorem length_exponentPart_le {s rest : List Char} {e : Option Int}
    (h : exponentPart s = some (e, rest)) : rest.length ≤ s.length := by
  unfold exponentPart at h
  split at h
  case h_7 =>
    cases h
    exact Nat.le_refl _
  all_goals
    have hlength := length_exponentDigits_le h
    simp only [List.length_cons]
    omega

theorem length_unsigned_lt {negative : Bool} {s rest : List Char} {n : Number}
    (h : unsigned negative s = some (n, rest)) : rest.length < s.length := by
  unfold unsigned at h
  split at h
  · cases h
  · next hwhole =>
    have hw := length_wholePart_lt hwhole
    split at h
    · cases h
    · next hfraction =>
      have hf := length_fractionPart_le hfraction
      split at h
      · cases h
      · next hexponent =>
        have he := length_exponentPart_le hexponent
        obtain ⟨_, _, heq⟩ := Option.map_eq_some_iff.mp h
        cases heq
        omega

def number (s : List Char) : Option (Number × Rest s) :=
  match s with
  | [] => none
  | c :: cs =>
    if c = '-' then
      match h : unsigned true cs with
      | none => none
      | some (n, rest) => some (n, ⟨rest, Nat.lt_succ_of_lt (length_unsigned_lt h)⟩)
    else
      match h : unsigned false (c :: cs) with
      | none => none
      | some (n, rest) => some (n, ⟨rest, length_unsigned_lt h⟩)

/-! ## Arrays and objects -/

/-- Read what stands between a pair of brackets, from its first item on: items with commas between
them, and the closing bracket. -/
def items (item : Reader α) (close : Char) (s : List Char) : Option (List α × Rest s) :=
  match item s with
  | none => none
  | some (first, rest) =>
    match mark close rest with
    | some tail => some ([first], ⟨tail, Nat.lt_trans tail.2 rest.2⟩)
    | none =>
      match mark ',' rest with
      | none => none
      | some rest' =>
        have hlength : rest'.1.length < s.length := Nat.lt_trans rest'.2 rest.2
        match items item close rest' with
        | none => none
        | some (others, tail) => some (first :: others, ⟨tail, Nat.lt_trans tail.2 hlength⟩)
termination_by s.length

def bracketed (item : Reader α) (close : Char) : Reader (List α) := fun s ↦
  match mark close s with
  | some tail => some ([], tail)
  | none => items item close s

def keyed (item : Reader α) : Reader (String × α) := fun s ↦
  match string s with
  | none => none
  | some (key, rest) =>
    match mark ':' rest with
    | none => none
    | some rest' =>
      match item rest' with
      | none => none
      | some (v, tail) =>
        some ((key, v), ⟨tail, Nat.lt_trans tail.2 (Nat.lt_trans rest'.2 rest.2)⟩)

def word (name : List Char) (v : Value) (s : List Char) : Option (Value × Rest s) :=
  if h : name.isPrefixOf s ∧ name ≠ [] then
    some (v, ⟨s.drop name.length, by
      have hle := (List.isPrefixOf_iff_prefix.mp h.1).length_le
      have hpos := List.length_pos_iff.mpr h.2
      rw [List.length_drop]
      omega⟩)
  else none

def Value.ofFields (fields : List (String × Value)) : Value :=
  object (OrderedMap.ofList fields).entries

def unspaced (s : List Char) : Option (Value × Rest s) :=
  match word ['n', 'u', 'l', 'l'] .null s with
  | some answer => some answer
  | none =>
    match word ['t', 'r', 'u', 'e'] (.bool true) s with
    | some answer => some answer
    | none =>
      match word ['f', 'a', 'l', 's', 'e'] (.bool false) s with
      | some answer => some answer
      | none =>
        match string s with
        | some (text, rest) => some (.string text, rest)
        | none => (number s).map fun (n, rest) ↦ (.number n, rest)

def scalar : Reader Value := fun s ↦
  match unspaced (skipSpace s) with
  | none => none
  | some (v, rest) => some (v, ⟨rest, Nat.lt_of_lt_of_le rest.2 (length_skipSpace_le s)⟩)

/-- Read a value in which at most `depth` arrays and objects stand inside one another. -/
def value : (depth : Nat) → Reader Value
  | 0 => scalar
  | depth + 1 => fun s ↦
    match mark '[' s with
    | some rest =>
      match bracketed (value depth) ']' rest with
      | none => none
      | some (vs, tail) => some (.array vs, ⟨tail, Nat.lt_trans tail.2 rest.2⟩)
    | none =>
      match mark '\x7b' s with
      | some rest =>
        match bracketed (keyed (value depth)) '\x7d' rest with
        | none => none
        | some (fields, tail) => some (.ofFields fields, ⟨tail, Nat.lt_trans tail.2 rest.2⟩)
      | none => scalar s

def depthLimit : Nat := 127

def Value.read? (s : List Char) : Option Value :=
  match value depthLimit s with
  | none => none
  | some (v, rest) => if skipSpace rest = [] then some v else none

end Json

end ColumnStore
