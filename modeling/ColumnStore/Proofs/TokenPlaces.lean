import ColumnStore.Proofs.FilterLayout

/-!
# Where tokens stand

Scanning finds a token only where one is written and what follows shows its end (`heads_of_scan`). Every
token of an expression stands at its offset (`standsIn_of_lex`), and where splitting fails no token begins
(`untokenizable_of_lex`).
-/

namespace ColumnStore

namespace Filter

/-! ## Octets -/

theorem octets_eq_length (cs : List Char) :
    octets cs = (cs.flatMap String.utf8EncodeChar).length := by
  induction cs using List.reverseRecOn with
  | nil => rfl
  | append_singleton cs c ih =>
      rw [octets, List.foldl_concat, ← octets, ih, List.flatMap_append, List.length_append,
        List.flatMap_singleton, String.length_utf8EncodeChar]

theorem octets_append (cs ds : List Char) : octets (cs ++ ds) = octets cs + octets ds := by
  rw [octets_eq_length, octets_eq_length, octets_eq_length, List.flatMap_append, List.length_append]

theorem octets_cons (c : Char) (cs : List Char) : octets (c :: cs) = c.utf8Size + octets cs := by
  rw [octets_eq_length, octets_eq_length, List.flatMap_cons, List.length_append,
    String.length_utf8EncodeChar]

theorem octets_doubled (cs : List Char) : octets (doubled cs) = octets cs + cs.count '\'' := by
  have hquote : ('\'').utf8Size = 1 := rfl
  induction cs with
  | nil => rfl
  | cons c cs ih =>
      rw [octets_cons, List.count_cons, doubled]
      by_cases hc : c = '\''
      · rw [if_pos hc, octets_cons, octets_cons, ih, hc, hquote, beq_self_eq_true, if_pos rfl]
        omega
      · rw [if_neg hc, octets_cons, ih, beq_false_of_ne hc, if_neg Bool.false_ne_true]
        omega

namespace Token

theorem octets_spelling (t : Token) : octets t.spelling = t.width := by
  cases t with
  | word name => rfl
  | text content =>
      have hquote : octets ['\''] = 1 := rfl
      have hquoteSize : ('\'').utf8Size = 1 := rfl
      rw [spelling, width, octets_cons, octets_append, octets_doubled, hquote, hquoteSize]
      omega
  | op operator => cases operator <;> rfl
  | openParen | closeParen | comma => rfl

/-- A character goes on with a token that it follows. -/
def GoesOnWith : Token → Char → Prop
  | word _, c => isWordPart c
  | text _, c => c = '\''
  | op .less, c | op .greater, c => c = '='
  | op _, _ | openParen, _ | closeParen, _ | comma, _ => False

/-- A token stands at the front of some characters and ends where the others begin. -/
structure Heads (t : Token) (cs rest : List Char) : Prop where
  spellable : t.Spellable
  eq_append : cs = t.spelling ++ rest
  ends : ∀ c ∈ rest.head?, ¬t.GoesOnWith c

end Token

/-! ## Quoted texts -/

theorem eq_doubled_of_readQuoted? {cs content rest : List Char}
    (h : readQuoted? cs = some (content, rest)) :
    cs = doubled content ++ '\'' :: rest ∧ ∀ c ∈ rest.head?, c ≠ '\'' := by
  fun_induction readQuoted? cs generalizing content rest with
  | case1 => cases h
  | case2 cs ih =>
      obtain ⟨⟨content', rest'⟩, h', heq⟩ := Option.map_eq_some_iff.mp h
      cases heq
      obtain ⟨rfl, hrest⟩ := ih h'
      exact ⟨by simp [doubled], hrest⟩
  | case3 cs hcs =>
      cases h
      refine ⟨rfl, ?_⟩
      rintro c hc rfl
      obtain ⟨tail, rfl⟩ := List.head?_eq_some_iff.mp hc
      exact hcs tail rfl
  | case4 c cs _ hquote ih =>
      obtain ⟨⟨content', rest'⟩, h', heq⟩ := Option.map_eq_some_iff.mp h
      cases heq
      obtain ⟨rfl, hrest⟩ := ih h'
      have hc : c ≠ '\'' := fun hc ↦ hquote hc
      exact ⟨by simp [doubled, hc], hrest⟩

theorem eq_doubled_of_unclosed {cs : List Char} (h : readQuoted? cs = none) :
    ∃ content, cs = doubled content := by
  fun_induction readQuoted? cs with
  | case1 => exact ⟨[], rfl⟩
  | case2 cs ih =>
      obtain ⟨content, rfl⟩ := ih (Option.map_eq_none_iff.mp h)
      exact ⟨'\'' :: content, by simp [doubled]⟩
  | case3 => cases h
  | case4 c cs _ hquote ih =>
      obtain ⟨content, rfl⟩ := ih (Option.map_eq_none_iff.mp h)
      have hc : c ≠ '\'' := fun hc ↦ hquote hc
      exact ⟨c :: content, by simp [doubled, hc]⟩

/-! ## Scanning -/

def signs : List Char :=
  ['(', ')', ',', '<', '>', '!', '=', '\'']

/-- Characters with which no token begins, and why. -/
inductive Untokenizable : List Char → SyntaxFault → Prop
  | loneExclamation {cs : List Char} (h : ∀ c ∈ cs.head?, c ≠ '=') :
    Untokenizable ('!' :: cs) .loneExclamation
  | unclosedText (content : List Char) : Untokenizable ('\'' :: doubled content) .unclosedText
  | strayCharacter {c : Char} {cs : List Char} (hword : ¬isWordStart c)
    (hsign : c ∉ signs) (hspace : ¬isSpace c) :
    Untokenizable (c :: cs) (.strayCharacter c)

variable {c : Char} {cs rest : List Char} {t : Token} {fault : SyntaxFault}

theorem heads_word (hc : isWordStart c) (cs : List Char) :
    (Token.word (String.ofList (c :: cs.takeWhile isWordPart))).Heads (c :: cs)
      (cs.dropWhile isWordPart) where
  spellable := by
    refine ⟨c, cs.takeWhile isWordPart, String.toList_ofList, ?_⟩
    rw [hc, Bool.true_and, List.all_takeWhile]
  eq_append := by
    rw [Token.spelling, String.toList_ofList, List.cons_append, List.takeWhile_append_dropWhile]
  ends d hd hpart := by
    have hnot := List.head?_dropWhile_not isWordPart cs
    rw [Option.mem_def.mp hd] at hnot
    exact Bool.false_ne_true (Eq.trans (Eq.symm hnot) hpart)

theorem heads_of_scan (h : scan c cs = .ok (t, rest)) : t.Heads (c :: cs) rest := by
  unfold scan at h
  split at h
  case h_5 hequals =>
    cases h
    refine ⟨trivial, rfl, ?_⟩
    rintro d hd rfl
    obtain ⟨tail, rfl⟩ := List.head?_eq_some_iff.mp hd
    exact hequals tail rfl
  case h_7 hequals =>
    cases h
    refine ⟨trivial, rfl, ?_⟩
    rintro d hd rfl
    obtain ⟨tail, rfl⟩ := List.head?_eq_some_iff.mp hd
    exact hequals tail rfl
  case h_9 => cases h
  case h_11 =>
    split at h
    · next content _ hread =>
      cases h
      obtain ⟨rfl, hrest⟩ := eq_doubled_of_readQuoted? hread
      exact ⟨trivial, by simp [Token.spelling], hrest⟩
    · cases h
  case h_12 =>
    split at h
    · next hc =>
      cases h
      exact heads_word hc cs
    · cases h
  all_goals
    cases h
    exact ⟨trivial, rfl, fun _ _ ↦ id⟩

theorem untokenizable_of_scan (hspace : ¬isSpace c) (h : scan c cs = .error fault) :
    Untokenizable (c :: cs) fault := by
  unfold scan at h
  split at h
  case h_9 hequals =>
    cases h
    refine .loneExclamation ?_
    rintro d hd rfl
    obtain ⟨tail, rfl⟩ := List.head?_eq_some_iff.mp hd
    exact hequals tail rfl
  case h_11 =>
    split at h
    · cases h
    · next hread =>
      cases h
      obtain ⟨content, rfl⟩ := eq_doubled_of_unclosed hread
      exact .unclosedText content
  case h_12 =>
    split at h
    · cases h
    · next hword =>
      cases h
      refine .strayCharacter hword ?_ hspace
      simp_all [signs]
  all_goals cases h

theorem Untokenizable.begins (h : Untokenizable cs fault) :
    ∃ c rest, cs = c :: rest ∧ ¬isSpace c := by
  cases h with
  | loneExclamation | unclosedText => exact ⟨_, _, rfl, by decide⟩
  | strayCharacter _ _ hspace => exact ⟨_, _, rfl, hspace⟩

theorem Token.Heads.begins (h : t.Heads cs rest) : ∃ c tail, cs = c :: tail ∧ ¬isSpace c := by
  have hnone : ∀ d ∈ ([] : List Char).head?, t.EndsBefore d := nofun
  obtain ⟨c, cs', hspelling, hc, -⟩ := scan_spelling h.spellable hnone
  rw [List.append_nil] at hspelling
  exact ⟨c, cs' ++ rest, by rw [h.eq_append, hspelling, List.cons_append], hc⟩

/-! ## Splitting -/

/-- The rest of some characters from an offset on. -/
def From (cs : List Char) (position : Nat) (rest : List Char) : Prop :=
  ∃ before, cs = before ++ rest ∧ octets before = position

theorem From.refl (cs : List Char) : From cs 0 cs :=
  ⟨[], rfl, rfl⟩

theorem From.trans {ds : List Char} {m n : Nat} (h : From cs m ds) (hrest : From ds n rest) :
    From cs (m + n) rest := by
  obtain ⟨before, rfl, rfl⟩ := h
  obtain ⟨between, rfl, rfl⟩ := hrest
  exact ⟨before ++ between, by rw [List.append_assoc], octets_append before between⟩

theorem From.blank {position : Nat} (h : From cs position (c :: rest)) (hc : isSpace c) :
    From cs (position + 1) rest := by
  have hsize : octets [c] = 1 := by
    simp only [isSpace, Bool.or_eq_true, decide_eq_true_eq] at hc
    rcases hc with ((rfl | rfl) | rfl) | rfl <;> rfl
  exact h.trans ⟨[c], rfl, hsize⟩

theorem From.token {position : Nat} {here : List Char} (h : From cs position here)
    (ht : t.Heads here rest) : From cs (position + t.width) rest :=
  h.trans ⟨t.spelling, ht.eq_append, t.octets_spelling⟩

/-- A lexeme stands in some characters at its offset. -/
def Lexeme.StandsIn (l : Lexeme) (cs : List Char) : Prop :=
  ∃ here after, From cs l.position here ∧ l.token.Heads here after

theorem standsIn_of_lex {whole : List Char} {position : Nat} {ls : List Lexeme}
    (hplace : From whole position cs) (h : lex position cs = .ok ls) : ∀ l ∈ ls, l.StandsIn whole := by
  fun_induction lex position cs generalizing ls with
  | case1 =>
      cases h
      exact fun l hl ↦ absurd hl List.not_mem_nil
  | case2 position c cs hc ih => exact ih (hplace.blank hc) h
  | case3 => cases h
  | case4 position c cs hc t rest hscan ih =>
      have ht : t.Heads (c :: cs) rest := heads_of_scan hscan
      cases hrest : lex (position + t.width) rest with
      | error e =>
          rw [hrest] at h
          cases h
      | ok others =>
          rw [hrest] at h
          cases h
          exact List.forall_mem_cons.mpr ⟨⟨c :: cs, rest, hplace, ht⟩, ih (hplace.token ht) hrest⟩

theorem untokenizable_of_lex {whole : List Char} {position : Nat} {e : FilterError}
    (hplace : From whole position cs) (h : lex position cs = .error e) :
    ∃ here, From whole e.position here ∧ Untokenizable here e.fault := by
  fun_induction lex position cs with
  | case1 => cases h
  | case2 position c cs hc ih => exact ih (hplace.blank hc) h
  | case3 position c cs hc fault hscan =>
      cases h
      exact ⟨c :: cs, hplace, untokenizable_of_scan hc hscan⟩
  | case4 position c cs hc t rest hscan ih =>
      cases hrest : lex (position + t.width) rest with
      | error e =>
          rw [hrest] at h
          cases h
          exact ih (hplace.token (heads_of_scan hscan)) hrest
      | ok others =>
          rw [hrest] at h
          cases h

end Filter

end ColumnStore
