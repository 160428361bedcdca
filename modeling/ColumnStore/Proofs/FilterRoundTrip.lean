import ColumnStore.Proofs.FilterLayout
import ColumnStore.Proofs.Lowercase

/-!
# Filters and their expressions

A filter is `Normal` if it is written without loss: its octets are texts, its texts are in lower case,
and no connective stands for a single operand. Writing a normal filter and reading it again in any
layout gives the same filter, and only normal filters are read (`parse_layout`).
-/

namespace ColumnStore

namespace Bytes

def IsText (bytes : Bytes) : Prop :=
  ∃ s, ofString s = bytes

/-- The text that octets are, empty if they are none. -/
def text (bytes : Bytes) : String :=
  (String.fromUTF8? ⟨bytes.toArray⟩).getD ""

theorem text_ofString (s : String) : text (ofString s) = s := by
  have hvalid : ByteArray.IsValidUTF8 ⟨(ofString s).toArray⟩ := s.isValidUTF8
  rw [text, String.fromUTF8?, dif_pos hvalid, Option.getD_some]
  rfl

theorem IsText.ofString_text {bytes : Bytes} (h : bytes.IsText) : ofString bytes.text = bytes := by
  obtain ⟨s, rfl⟩ := h
  rw [text_ofString]

end Bytes

namespace Comparator

def text : Comparator → String
  | binary expected => Filter.comparatorText "binary" expected.text
  | binaryPrefix beginning => Filter.comparatorText "binaryprefix" beginning.text
  | substring needle => Filter.comparatorText "substring" needle
  | regex pattern => Filter.comparatorText "regexstring" pattern.source

/-- A comparator is written without loss, and its operator is one that it allows. -/
inductive Normal (op : CompareOp) : Comparator → Prop
  | binary {expected : Bytes} (h : expected.IsText) : Normal op (.binary expected)
  | binaryPrefix {beginning : Bytes} (h : beginning.IsText) : Normal op (.binaryPrefix beginning)
  | substring {needle : String} (hlower : Text.lowercase needle = needle)
      (h : op = .equal ∨ op = .notEqual) : Normal op (.substring needle)
  | regex (pattern : Pattern) (h : op = .equal ∨ op = .notEqual) : Normal op (.regex pattern)

end Comparator

namespace Filter

/-- A filter is written without loss. -/
inductive Normal : Filter → Prop
  | rowPrefix {beginning : Bytes} (h : beginning.IsText) : Normal (.rowPrefix beginning)
  | columnPrefix {beginning : Bytes} (h : beginning.IsText) : Normal (.columnPrefix beginning)
  | compare (field : FilterField) {op : CompareOp} {comparator : Comparator}
      (h : comparator.Normal op) : Normal (.compare field op comparator)
  | columnValue {family qualifier : Bytes} {op : CompareOp} {comparator : Comparator}
      (hfamily : family.IsText) (hqualifier : qualifier.IsText) (h : comparator.Normal op) :
    Normal (.columnValue family qualifier op comparator)
  | firstOfRow : Normal .firstOfRow
  | keysOnly : Normal .keysOnly
  | skip {inner : Filter} (h : Normal inner) : Normal (.skip inner)
  | and {operands : List Filter} (hlength : 2 ≤ operands.length) (h : ∀ f ∈ operands, Normal f) :
    Normal (.and operands)
  | or {operands : List Filter} (hlength : 2 ≤ operands.length) (h : ∀ f ∈ operands, Normal f) :
    Normal (.or operands)

/-! ## Writing filters -/

/-- The tokens of an operand, in parentheses if a connective is outermost in it. -/
def enclose (ts : List Token) : Filter → List Token
  | and _ | or _ => .openParen :: (ts ++ [.closeParen])
  | rowPrefix _ | columnPrefix _ | compare _ _ _ | columnValue _ _ _ _ | firstOfRow | keysOnly
  | skip _ => ts

mutual

def tokens : Filter → List Token
  | rowPrefix beginning => .word "PrefixFilter" :: parenthesized [.text beginning.text]
  | columnPrefix beginning => .word "ColumnPrefixFilter" :: parenthesized [.text beginning.text]
  | compare field op comparator =>
    .word field.filterName :: parenthesized [.op op, .text comparator.text]
  | columnValue family qualifier op comparator =>
    .word "SingleColumnValueFilter" ::
      parenthesized [.text family.text, .text qualifier.text, .op op, .text comparator.text]
  | firstOfRow => .word "FirstKeyOnlyFilter" :: parenthesized []
  | keysOnly => .word "KeyOnlyFilter" :: parenthesized []
  | skip inner => .word "SKIP" :: enclose inner.tokens inner
  | and operands => (furtherTokens .and operands).tail
  | or operands => (furtherTokens .or operands).tail

def furtherTokens (c : Connective) : List Filter → List Token
  | [] => []
  | f :: fs => .word c.word :: (enclose f.tokens f ++ furtherTokens c fs)

end

example : spaced (skip (.or [keysOnly, rowPrefix (Bytes.ofString "it's")])).tokens =
    " SKIP ( KeyOnlyFilter ( ) OR PrefixFilter ( 'it''s' ) )".toList := by
  cbv

def operandPhrase (f : Filter) : Phrase :=
  ⟨enclose f.tokens f, f⟩

theorem furtherTokens_eq (c : Connective) (fs : List Filter) :
    furtherTokens c fs = (fs.map operandPhrase).flatMap (Phrase.joined c) := by
  induction fs with
  | nil => rw [furtherTokens, List.map_nil, List.flatMap_nil]
  | cons f fs ih =>
      rw [furtherTokens, ih, List.map_cons, List.flatMap_cons]
      rfl

/-! ## Normal filters are derived -/

theorem isComparator_text {op : CompareOp} {c : Comparator} (h : c.Normal op) :
    IsComparator op c.text c := by
  cases h with
  | @binary expected h =>
      have htext : IsComparator op _ _ := .binary expected.text
      rwa [h.ofString_text] at htext
  | @binaryPrefix beginning h =>
      have htext : IsComparator op _ _ := .binaryPrefix beginning.text
      rwa [h.ofString_text] at htext
  | @substring needle hlower h =>
      have htext := IsComparator.substring needle h
      rwa [hlower] at htext
  | regex pattern h => exact .regex pattern h

theorem Derives.chain_of_unary {ts : List Token} {f : Filter} (h : Derives .unary ts f) :
    Derives (.chain .or) ts f :=
  .single (c := .or) (.single (c := .and) h)

theorem IsCall.parse_eq {name : String} {args : List Token} {f : Filter} (h : IsCall name args f)
    {expression : String} (hlayout : Layout (.word name :: parenthesized args) expression.toList) :
    parse expression = .ok f :=
  (Derives.chain_of_unary (.primary (.call h))).parse_eq hlayout

theorem IsCall.derives {name : String} {args : List Token} {f : Filter} (h : IsCall name args f)
    (htokens : f.tokens = .word name :: parenthesized args) :
    Derives (.chain .or) f.tokens f ∧ Derives .unary (enclose f.tokens f) f := by
  have hunary : Derives .unary f.tokens f := by
    rw [htokens]
    exact .primary (.call h)
  have hsame : enclose f.tokens f = f.tokens := by
    cases h <;> rfl
  rw [hsame]
  exact ⟨hunary.chain_of_unary, hunary⟩

theorem derives_operands {c : Connective} {fs : List Filter} (hlength : 2 ≤ fs.length)
    (h : ∀ f ∈ fs, Derives c.operand (enclose f.tokens f) f) :
    Derives (.chain c) (furtherTokens c fs).tail (c.combine fs) := by
  match fs, hlength with
  | first :: second :: others, _ =>
    have hphrases : ∀ p ∈ operandPhrase first :: (second :: others).map operandPhrase,
        Derives c.operand p.tokens p.meaning := by
      intro p hp
      rw [← List.map_cons] at hp
      obtain ⟨f, hf, rfl⟩ := List.mem_map.mp hp
      exact h f hf
    have hchain := Derives.chain (by simp) hphrases
    have hmeanings : ((second :: others).map operandPhrase).map Phrase.meaning = second :: others := by
      rw [List.map_map]
      exact List.map_id _
    rw [hmeanings, ← furtherTokens_eq] at hchain
    rw [furtherTokens, List.tail_cons]
    exact hchain

/-- A normal filter is derived from its tokens, and as an operand from the enclosed ones. -/
theorem Normal.derives {f : Filter} (h : f.Normal) :
    Derives (.chain .or) f.tokens f ∧ Derives .unary (enclose f.tokens f) f := by
  -- Both parts go through the induction together: a connective needs its operands enclosed, and its
  -- own enclosed form is its tokens in parentheses.
  induction h with
  | @rowPrefix beginning h =>
      have hcall := IsCall.rowPrefix beginning.text
      rw [h.ofString_text] at hcall
      exact hcall.derives (by rw [tokens])
  | @columnPrefix beginning h =>
      have hcall := IsCall.columnPrefix beginning.text
      rw [h.ofString_text] at hcall
      exact hcall.derives (by rw [tokens])
  | compare field h =>
      have hcall := IsCall.compare field (isComparator_text h)
      exact hcall.derives (by rw [tokens])
  | @columnValue family qualifier op comparator hfamily hqualifier h =>
      have hcall := IsCall.columnValue family.text qualifier.text (isComparator_text h)
      rw [hfamily.ofString_text, hqualifier.ofString_text] at hcall
      exact hcall.derives (by rw [tokens])
  | firstOfRow => exact IsCall.firstOfRow.derives (by rw [tokens])
  | keysOnly => exact IsCall.keysOnly.derives (by rw [tokens])
  | @skip inner _ ih =>
      have hunary : Derives .unary (Filter.skip inner).tokens (.skip inner) := by
        rw [tokens]
        exact .skip ih.2
      exact ⟨hunary.chain_of_unary, hunary⟩
  | @and operands hlength _ ih =>
      have hchain : Derives (.chain .and) (Filter.and operands).tokens (.and operands) := by
        rw [tokens]
        exact derives_operands hlength fun f hf ↦ (ih f hf).2
      have hor : Derives (.chain .or) (Filter.and operands).tokens (.and operands) :=
        .single (c := .or) hchain
      exact ⟨hor, .primary (.parens hor)⟩
  | @or operands hlength _ ih =>
      have hor : Derives (.chain .or) (Filter.or operands).tokens (.or operands) := by
        rw [tokens]
        refine derives_operands hlength fun f hf ↦ ?_
        exact .single (c := .and) (ih f hf).2
      exact ⟨hor, .primary (.parens hor)⟩

/-! ## What is derived is normal -/

theorem IsComparator.normal {op : CompareOp} {content : String} {c : Comparator}
    (h : IsComparator op content c) : c.Normal op := by
  cases h with
  | binary operand => exact .binary ⟨operand, rfl⟩
  | binaryPrefix operand => exact .binaryPrefix ⟨operand, rfl⟩
  | substring operand h => exact .substring (Text.lowercase_lowercase operand) h
  | regex pattern h => exact .regex pattern h

theorem IsCall.normal {name : String} {args : List Token} {f : Filter} (h : IsCall name args f) :
    f.Normal := by
  cases h with
  | rowPrefix beginning => exact .rowPrefix ⟨beginning, rfl⟩
  | columnPrefix beginning => exact .columnPrefix ⟨beginning, rfl⟩
  | compare field h => exact .compare field h.normal
  | columnValue family qualifier h => exact .columnValue ⟨family, rfl⟩ ⟨qualifier, rfl⟩ h.normal
  | firstOfRow => exact .firstOfRow
  | keysOnly => exact .keysOnly

theorem Derives.normal {s : Symbol} {ts : List Token} {f : Filter} (h : Derives s ts f) :
    f.Normal := by
  induction h with
  | single _ ih => exact ih
  | @chain c first others hothers _ ih =>
      have hlength : 2 ≤ (first.meaning :: others.map Phrase.meaning).length := by
        have hpos := List.length_pos_iff.mpr hothers
        rw [List.length_cons, List.length_map]
        omega
      have hoperands : ∀ f ∈ first.meaning :: others.map Phrase.meaning, f.Normal := by
        intro f hf
        rw [← List.map_cons] at hf
        obtain ⟨p, hp, rfl⟩ := List.mem_map.mp hf
        exact ih p hp
      cases c with
      | or => exact .or hlength hoperands
      | and => exact .and hlength hoperands
  | skip _ ih => exact .skip ih
  | primary _ ih => exact ih
  | parens _ ih => exact ih
  | call h => exact h.normal

/-- Normal filters come back from every layout of their tokens, and from every layout of other tokens
that the grammar allows for them. No other filters are read. -/
theorem parse_layout :
    (∀ f : Filter, f.Normal →
      (∃ s : String, Layout f.tokens s.toList) ∧
        ∀ s : String, Layout f.tokens s.toList → parse s = .ok f) ∧
    (∀ f ts, Derives (.chain .or) ts f → ∀ s : String, Layout ts s.toList → parse s = .ok f) ∧
    ∀ s f, parse s = .ok f → f.Normal := by
  refine ⟨?_, ?_, ?_⟩
  · intro f hnormal
    constructor
    · refine ⟨String.ofList (spaced f.tokens), ?_⟩
      rw [String.toList_ofList]
      exact layout_spaced f.tokens
    · intro s hlayout
      exact hnormal.derives.1.parse_eq hlayout
  · intro f ts hderives s hlayout
    exact hderives.parse_eq hlayout
  · intro s f hparse
    obtain ⟨ls, -, hderives⟩ := derives_of_parse hparse
    exact hderives.normal

end Filter

end ColumnStore
