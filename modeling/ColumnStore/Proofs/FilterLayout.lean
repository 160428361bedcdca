import ColumnStore.Proofs.FilterGrammar
import Mathlib.Data.List.Chain

/-!
# Layouts of filter expressions

Tokens are written one after the other with any blanks between them. Where the end of each token shows
(`Written`), every such layout splits into the same tokens again (`lex_of_layout`). What the grammar
derives is always written so (`Derives.written`).
-/

namespace ColumnStore

def CompareOp.symbol : CompareOp → String
  | less => "<"
  | lessOrEqual => "<="
  | equal => "="
  | notEqual => "!="
  | greaterOrEqual => ">="
  | greater => ">"

namespace Filter

def doubled : List Char → List Char
  | [] => []
  | c :: cs => if c = '\'' then '\'' :: '\'' :: doubled cs else c :: doubled cs

namespace Token

def spelling : Token → List Char
  | word name => name.toList
  | text content => '\'' :: (doubled content.toList ++ ['\''])
  | op operator => operator.symbol.toList
  | openParen => ['(']
  | closeParen => [')']
  | comma => [',']

def isWord : Token → Bool
  | word _ => true
  | text _ | op _ | openParen | closeParen | comma => false

/-- A word begins as a word and goes on as one; other tokens can hold anything. -/
def Spellable : Token → Prop
  | word name => ∃ c cs, name.toList = c :: cs ∧ (isWordStart c && cs.all isWordPart) = true
  | text _ | op _ | openParen | closeParen | comma => True

/-- A character that goes on with a token cannot follow it directly. -/
def EndsBefore : Token → Char → Prop
  | word _, c => ¬isWordPart c
  | text _, c => c ≠ '\''
  | op _, c => c ≠ '='
  | openParen, _ | closeParen, _ | comma, _ => True

end Token

/-- Tokens written one after the other with blanks anywhere, and with one at least between words. -/
inductive Layout : List Token → List Char → Prop
  | nil {blanks : List Char} (hblanks : ∀ c ∈ blanks, isSpace c) : Layout [] blanks
  | cons {t : Token} {ts : List Token} {blanks cs : List Char} (hblanks : ∀ c ∈ blanks, isSpace c)
      (hgap : t.isWord → (∃ next ∈ ts.head?, next.isWord) → ∃ c ∈ cs.head?, isSpace c)
      (h : Layout ts cs) : Layout (t :: ts) (blanks ++ (t.spelling ++ cs))

/-- Tokens can be written, and no argument follows another one directly. -/
structure Written (ts : List Token) : Prop where
  spellable : ∀ t ∈ ts, t.Spellable
  apart : ts.IsChain fun t next ↦ ¬(t.isArgument ∧ next.isArgument)

/-! ## Scanning what was written -/

theorem readQuoted?_doubled (content : List Char) {rest : List Char}
    (h : ∀ c ∈ rest.head?, c ≠ '\'') :
    readQuoted? (doubled content ++ '\'' :: rest) = some (content, rest) := by
  induction content with
  | nil =>
      cases rest with
      | nil => rfl
      | cons c cs =>
          have hc : c ≠ '\'' := h c rfl
          simp [doubled, readQuoted?, hc]
  | cons c cs ih =>
      by_cases hc : c = '\''
      · simp [doubled, readQuoted?, hc, ih]
      · simp [doubled, readQuoted?, hc, ih]

theorem isWordPart_of_isWordStart {c : Char} (h : isWordStart c) : isWordPart c := by
  simp only [isWordStart, isWordPart, Char.isAlphanum, Bool.or_eq_true] at h ⊢
  tauto

theorem not_isSpace_of_isWordPart {c : Char} (h : isWordPart c) : ¬isSpace c := by
  intro hspace
  simp only [isSpace, Bool.or_eq_true, decide_eq_true_eq] at hspace
  rcases hspace with ((rfl | rfl) | rfl) | rfl <;> exact absurd h (by decide)

theorem scan_word {c : Char} (hc : isWordStart c) (cs : List Char) :
    scan c cs =
      .ok (.word (String.ofList (c :: cs.takeWhile isWordPart)), cs.dropWhile isWordPart) := by
  unfold scan
  split
  case h_12 => rw [if_pos hc]
  all_goals exact absurd hc (by decide)

theorem scan_op (o : CompareOp) {rest : List Char} (h : ∀ c ∈ rest.head?, c ≠ '=') :
    ∃ c cs, o.symbol.toList ++ rest = c :: cs ∧ ¬isSpace c ∧ scan c cs = .ok (.op o, rest) := by
  cases o with
  | lessOrEqual | equal | notEqual | greaterOrEqual => exact ⟨_, _, rfl, by decide, rfl⟩
  | less =>
      refine ⟨'<', rest, rfl, by decide, ?_⟩
      cases rest with
      | nil => rfl
      | cons c cs =>
          have hc : c ≠ '=' := h c rfl
          simp [scan, hc]
  | greater =>
      refine ⟨'>', rest, rfl, by decide, ?_⟩
      cases rest with
      | nil => rfl
      | cons c cs =>
          have hc : c ≠ '=' := h c rfl
          simp [scan, hc]

theorem scan_spelling {t : Token} (ht : t.Spellable) {rest : List Char}
    (hrest : ∀ c ∈ rest.head?, t.EndsBefore c) :
    ∃ c cs, t.spelling ++ rest = c :: cs ∧ ¬isSpace c ∧ scan c cs = .ok (t, rest) := by
  cases t with
  | word name =>
      obtain ⟨c, cs, hname, hspellable⟩ := ht
      obtain ⟨hstart, hparts⟩ := Bool.and_eq_true_iff.mp hspellable
      rw [List.all_eq_true] at hparts
      refine ⟨c, cs ++ rest, by rw [Token.spelling, hname, List.cons_append], ?_, ?_⟩
      · intro hspace
        exact not_isSpace_of_isWordPart (isWordPart_of_isWordStart hstart) hspace
      · have hcut : rest.takeWhile isWordPart = [] ∧ rest.dropWhile isWordPart = rest := by
          cases rest with
          | nil => exact ⟨rfl, rfl⟩
          | cons d ds =>
              have hd : ¬isWordPart d := hrest d rfl
              simp [hd]
        have hspelled : String.ofList (c :: cs) = name := by
          rw [← hname, String.ofList_toList]
        rw [scan_word hstart, List.takeWhile_append_of_pos hparts, List.dropWhile_append_of_pos hparts,
          hcut.1, hcut.2, List.append_nil, hspelled]
  | text content =>
      refine ⟨'\'', doubled content.toList ++ ['\''] ++ rest, rfl, by decide, ?_⟩
      have hread := readQuoted?_doubled content.toList hrest
      rw [List.append_assoc, List.singleton_append]
      simp [scan, hread]
  | op operator => exact scan_op operator hrest
  | openParen => exact ⟨'(', rest, rfl, by decide, rfl⟩
  | closeParen => exact ⟨')', rest, rfl, by decide, rfl⟩
  | comma => exact ⟨',', rest, rfl, by decide, rfl⟩

/-! ## Where tokens end -/

namespace Token

theorem endsBefore_of_isSpace (t : Token) {c : Char} (h : isSpace c) : t.EndsBefore c := by
  cases t with
  | word name => exact fun hpart ↦ not_isSpace_of_isWordPart hpart h
  | text content =>
      rintro rfl
      exact absurd h (by decide)
  | op operator =>
      rintro rfl
      exact absurd h (by decide)
  | openParen | closeParen | comma => trivial

theorem not_isWordPart_of_spelling {t : Token} (ht : ¬t.isWord) {c : Char} {cs : List Char}
    (h : t.spelling = c :: cs) : ¬isWordPart c := by
  cases t with
  | word name => exact absurd rfl ht
  | text content =>
      obtain rfl : '\'' = c := (List.cons.inj h).1
      decide
  | op operator =>
      cases operator <;>
        (obtain rfl := (List.cons.inj h).1
         decide)
  | openParen | closeParen | comma =>
      cases h
      decide

theorem ne_of_spelling {t : Token} (ht : t.Spellable) (harg : ¬t.isArgument) {c : Char}
    {cs : List Char} (h : t.spelling = c :: cs) : c ≠ '\'' ∧ c ≠ '=' := by
  cases t with
  | word name =>
      obtain ⟨d, ds, hname, hspellable⟩ := ht
      obtain ⟨hstart, -⟩ := Bool.and_eq_true_iff.mp hspellable
      rw [spelling, hname] at h
      cases h
      constructor
      · rintro rfl
        exact absurd hstart (by decide)
      · rintro rfl
        exact absurd hstart (by decide)
  | text content => exact absurd rfl harg
  | op operator => exact absurd rfl harg
  | openParen | closeParen | comma =>
      cases h
      decide

/-- A token that is neither a word after a word nor an argument after an argument shows where the one
before it ends. -/
theorem endsBefore_of_spelling {t next : Token} (hnext : next.Spellable)
    (hwords : ¬(t.isWord ∧ next.isWord)) (hargs : ¬(t.isArgument ∧ next.isArgument)) {c : Char}
    {cs : List Char} (h : next.spelling = c :: cs) : t.EndsBefore c := by
  cases t with
  | word name => exact not_isWordPart_of_spelling (fun hword ↦ hwords ⟨rfl, hword⟩) h
  | text content => exact (ne_of_spelling hnext (fun harg ↦ hargs ⟨rfl, harg⟩) h).1
  | op operator => exact (ne_of_spelling hnext (fun harg ↦ hargs ⟨rfl, harg⟩) h).2
  | openParen | closeParen | comma => trivial

theorem exists_spelling {t : Token} (ht : t.Spellable) : ∃ c cs, t.spelling = c :: cs := by
  cases t with
  | word name =>
      obtain ⟨c, cs, hname, -⟩ := ht
      exact ⟨c, cs, hname⟩
  | op operator => cases operator <;> exact ⟨_, _, rfl⟩
  | text | openParen | closeParen | comma => exact ⟨_, _, rfl⟩

end Token

theorem Layout.endsBefore {t : Token} {ts : List Token} {cs : List Char} (h : Layout ts cs)
    (hgap : t.isWord → (∃ next ∈ ts.head?, next.isWord) → ∃ c ∈ cs.head?, isSpace c)
    (hwritten : Written (t :: ts)) : ∀ c ∈ cs.head?, t.EndsBefore c := by
  intro c hc
  by_cases hspace : isSpace c
  · exact t.endsBefore_of_isSpace hspace
  cases h with
  | nil hblanks => exact absurd (hblanks c (List.mem_of_mem_head? hc)) hspace
  | @cons next ts blanks cs hblanks _ _ =>
      -- Without a blank in between the next token begins right here.
      obtain rfl : blanks = [] := by
        cases blanks with
        | nil => rfl
        | cons d ds =>
            cases hc
            exact absurd (hblanks c List.mem_cons_self) hspace
      have hnext : next.Spellable := hwritten.spellable next (by simp)
      obtain ⟨d, ds, hspelling⟩ := Token.exists_spelling hnext
      rw [hspelling, List.nil_append, List.cons_append] at hc hgap
      cases hc
      have hwords : ¬(t.isWord ∧ next.isWord) := by
        rintro ⟨hword, hnextWord⟩
        obtain ⟨e, he, hgap⟩ := hgap hword ⟨next, rfl, hnextWord⟩
        cases he
        exact hspace hgap
      exact Token.endsBefore_of_spelling hnext hwords (List.isChain_cons_cons.mp hwritten.apart).1
        hspelling

/-! ## Splitting a layout -/

theorem lex_blanks {blanks : List Char} (h : ∀ c ∈ blanks, isSpace c) (position : Nat)
    (cs : List Char) : lex position (blanks ++ cs) = lex (position + blanks.length) cs := by
  induction blanks generalizing position with
  | nil => rfl
  | cons c blanks ih =>
      obtain ⟨hc, hblanks⟩ := List.forall_mem_cons.mp h
      rw [List.cons_append, lex, if_pos hc, ih hblanks, List.length_cons]
      congr 1
      omega

theorem lex_of_scan {position : Nat} {c : Char} {cs rest : List Char} {t : Token}
    {ls : List Lexeme} (hc : ¬isSpace c) (hscan : scan c cs = .ok (t, rest))
    (hrest : lex (position + t.width) rest = .ok ls) :
    lex position (c :: cs) = .ok (⟨position, t⟩ :: ls) := by
  rw [lex, if_neg hc]
  split
  · next fault hfault =>
    rw [hscan] at hfault
    cases hfault
  · next token rest' hscan' =>
    rw [hscan] at hscan'
    cases hscan'
    rw [hrest]
    rfl

theorem lex_of_layout {ts : List Token} {cs : List Char} (h : Layout ts cs) (hwritten : Written ts)
    (position : Nat) : ∃ ls, lex position cs = .ok ls ∧ ls.map Lexeme.token = ts := by
  -- On the layout, at every offset: the blanks are skipped, the token is scanned up to where what
  -- follows shows its end, and the rest is a layout again.
  induction h generalizing position with
  | nil hblanks =>
      refine ⟨[], ?_, rfl⟩
      have hlex := lex_blanks hblanks position []
      rw [List.append_nil] at hlex
      rw [hlex, lex]
  | @cons t ts blanks cs hblanks hgap hlayout ih =>
      have hts : Written ts := ⟨(List.forall_mem_cons.mp hwritten.spellable).2, (List.isChain_cons.mp hwritten.apart).2⟩
      have ht : t.Spellable := (List.forall_mem_cons.mp hwritten.spellable).1
      obtain ⟨c, rest, hcons, hc, hscan⟩ := scan_spelling ht (hlayout.endsBefore hgap hwritten)
      obtain ⟨ls, hls, htokens⟩ := ih hts (position + blanks.length + t.width)
      refine ⟨⟨position + blanks.length, t⟩ :: ls, ?_, by rw [List.map_cons, htokens]⟩
      rw [lex_blanks hblanks, hcons]
      exact lex_of_scan hc hscan hls

/-! ## What the grammar derives -/

namespace Written

theorem cons {t : Token} {ts : List Token} (ht : t.Spellable)
    (hnext : ∀ next ∈ ts.head?, ¬(t.isArgument ∧ next.isArgument)) (h : Written ts) :
    Written (t :: ts) :=
  ⟨List.forall_mem_cons.mpr ⟨ht, h.spellable⟩, List.isChain_cons.mpr ⟨hnext, h.apart⟩⟩

theorem cons_of_not_isArgument {t : Token} {ts : List Token} (ht : t.Spellable)
    (harg : ¬t.isArgument) (h : Written ts) : Written (t :: ts) :=
  cons ht (fun _ _ hboth ↦ harg hboth.1) h

theorem append {t : Token} {ts us : List Token} (h : Written ts) (hus : Written (t :: us))
    (harg : ¬t.isArgument) : Written (ts ++ t :: us) := by
  constructor
  · intro u hu
    rcases List.mem_append.mp hu with hts | hus'
    · exact h.spellable u hts
    · exact hus.spellable u hus'
  · refine List.isChain_append.mpr ⟨h.apart, hus.apart, ?_⟩
    intro _ _ next hnext hboth
    cases hnext
    exact harg hboth.2

theorem nil : Written [] :=
  ⟨fun _ h ↦ absurd h List.not_mem_nil, .nil⟩

theorem listed {first : Token} {others : List Token} (h : ∀ t ∈ first :: others, t.isArgument) :
    Written (listed first others) := by
  have hspellable : ∀ t : Token, t.isArgument → t.Spellable := by
    intro t ht
    cases t with
    | word name => cases ht
    | text | op | openParen | closeParen | comma => trivial
  induction others generalizing first with
  | nil =>
      have hclose : Written [.closeParen] := cons_of_not_isArgument trivial (by decide) nil
      refine cons (hspellable first (h first List.mem_cons_self)) ?_ hclose
      rintro _ ⟨⟩ ⟨-, hargument⟩
      cases hargument
  | cons second others ih =>
      obtain ⟨hfirst, hothers⟩ := List.forall_mem_cons.mp h
      have hcomma : Written (.comma :: Filter.listed second others) :=
        cons_of_not_isArgument trivial (by decide) (ih hothers)
      refine cons (hspellable first hfirst) ?_ hcomma
      rintro _ ⟨⟩ ⟨-, hargument⟩
      cases hargument

theorem parenthesized {args : List Token} (h : ∀ t ∈ args, t.isArgument) :
    Written (parenthesized args) := by
  cases args with
  | nil =>
      exact cons_of_not_isArgument trivial (by decide)
        (cons_of_not_isArgument trivial (by decide) nil)
  | cons first others => exact cons_of_not_isArgument trivial (by decide) (listed h)

end Written

theorem Connective.spellable_word (c : Connective) : (Token.word c.word).Spellable := by
  cases c <;> exact ⟨_, _, rfl, by decide⟩

theorem IsCall.spellable_name {name : String} {args : List Token} {f : Filter}
    (h : IsCall name args f) : (Token.word name).Spellable := by
  cases h with
  | compare field h => cases field <;> exact ⟨_, _, rfl, by decide⟩
  | rowPrefix | columnPrefix | columnValue | firstOfRow | keysOnly => exact ⟨_, _, rfl, by decide⟩

theorem Written.append_joined {c : Connective} {ts : List Token} {parts : List Phrase}
    (h : Written ts) (hparts : ∀ p ∈ parts, Written p.tokens) :
    Written (ts ++ parts.flatMap (Phrase.joined c)) := by
  induction parts generalizing ts with
  | nil =>
      rw [List.flatMap_nil, List.append_nil]
      exact h
  | cons p parts ih =>
      obtain ⟨hp, hparts⟩ := List.forall_mem_cons.mp hparts
      have hjoined : Written (p.joined c) :=
        hp.cons_of_not_isArgument c.spellable_word (by simp [Token.isArgument])
      rw [List.flatMap_cons, ← List.append_assoc]
      exact ih (h.append hjoined (by simp [Token.isArgument])) hparts

theorem Derives.written {s : Symbol} {ts : List Token} {f : Filter} (h : Derives s ts f) :
    Written ts := by
  induction h with
  | single _ ih => exact ih
  | @chain c first others _ _ ih =>
      obtain ⟨hfirst, hothers⟩ := List.forall_mem_cons.mp ih
      exact hfirst.append_joined hothers
  | skip _ ih => exact ih.cons_of_not_isArgument ⟨_, _, rfl, by decide⟩ (by decide)
  | primary _ ih => exact ih
  | parens _ ih =>
      have hclose : Written [.closeParen] := .cons_of_not_isArgument trivial (by decide) .nil
      exact (ih.append hclose (by decide)).cons_of_not_isArgument trivial (by decide)
  | call h =>
      exact (Written.parenthesized h.isArgument).cons_of_not_isArgument h.spellable_name
        (by simp [Token.isArgument])

/-- Every layout of what the grammar derives is read. -/
theorem Derives.parse_eq {ts : List Token} {f : Filter} (h : Derives (.chain .or) ts f)
    {expression : String} (hlayout : Layout ts expression.toList) : parse expression = .ok f := by
  obtain ⟨ls, hlex, htokens⟩ := lex_of_layout hlayout h.written 0
  exact parse_of_derives hlex (htokens ▸ h)

def spaced (ts : List Token) : List Char :=
  ts.flatMap fun t ↦ ' ' :: t.spelling

theorem layout_spaced (ts : List Token) : Layout ts (spaced ts) := by
  induction ts with
  | nil => exact .nil fun _ h ↦ absurd h List.not_mem_nil
  | cons t ts ih =>
      have hblank : ∀ c ∈ [' '], isSpace c := by simp [isSpace]
      refine .cons hblank ?_ ih
      rintro - ⟨next, hnext, -⟩
      cases ts with
      | nil => cases hnext
      | cons u us => exact ⟨' ', rfl, by decide⟩

end Filter

end ColumnStore
