import ColumnStore.Pattern.Parser

/-!
# Patterns

A pattern is a text that reads as a regular expression, together with that expression. Two patterns
with one source are the same, since the source determines the expression.
-/

namespace ColumnStore

/-- A text that reads as a regular expression. -/
structure Pattern where
  source : String
  regex : Pattern.Regex
  parsed : Pattern.Parser.parse? source = some regex

namespace Pattern

@[ext] theorem ext_source {p q : Pattern} (h : p.source = q.source) : p = q := by
  obtain ⟨s, r, hr⟩ := p
  obtain ⟨t, r', hr'⟩ := q
  cases h
  cases hr.symm.trans hr'
  rfl

def ofSource? (source : String) : Option Pattern :=
  match h : Parser.parse? source with
  | some regex => some ⟨source, regex, h⟩
  | none => none

def matchesIn (p : Pattern) (bytes : Bytes) : Bool :=
  p.regex.matchesIn bytes

theorem source_of_ofSource? {source : String} {p : Pattern} (h : ofSource? source = some p) :
    p.source = source := by
  unfold ofSource? at h
  split at h
  · cases h
    rfl
  · cases h

theorem ofSource?_source (p : Pattern) : ofSource? p.source = some p := by
  unfold ofSource?
  split
  · next h =>
    congr
    exact (Option.some.inj (h.symm.trans p.parsed))
  · next h =>
    rw [p.parsed] at h
    cases h

end Pattern

end ColumnStore
