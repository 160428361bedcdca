import ColumnStore.Proofs.RefusedTokens

/-!
# Where refusals point

A refused expression is refused at one of its tokens, at characters with which no token begins, or at its end,
and at its end only where it is the beginning of an expression and not yet one (`Filter.EndsEarly`). All
these places are boundaries of characters, so that nothing is cut wherever a refusal points.
-/

namespace ColumnStore

namespace Filter

/-! ## Refusals -/

/-- An expression of tokens that are a beginning of something, but nothing yet. -/
def EndsEarly (expression : String) : Prop :=
  ∃ ls, tokenize expression = .ok ls ∧ Begun (.chain .or) (ls.map Lexeme.token) ∧
    ¬Shaped (.chain .or) (ls.map Lexeme.token)

variable {expression : String} {ls : List Lexeme} {e : FilterError}

/-- Where a refusal points: at a token of the expression, at characters with which no token begins, or at
the end of an expression that ends too early. -/
inductive PointsInto (expression : String) (e : FilterError) : Prop
  | token {ls : List Lexeme} {l : Lexeme} {here after : List Char} (htokens : tokenize expression = .ok ls)
      (hl : l ∈ ls) (hposition : e.position = l.position) (hplace : From expression.toList e.position here)
      (hhere : l.token.Heads here after)
  | untokenizable {here : List Char} (hplace : From expression.toList e.position here)
      (hhere : Untokenizable here e.fault)
  | at_end (hposition : e.position = octets expression.toList) (h : EndsEarly expression)

theorem pointsInto_of_points (htokens : tokenize expression = .ok ls)
    (h : Points (octets expression.toList) (Begun (.chain .or)) ls e) : PointsInto expression e := by
  cases h with
  | @at_token l hl hposition =>
      obtain ⟨here, after, hplace, hhere⟩ := standsIn_of_lex (.refl _) htokens l hl
      exact .token htokens hl hposition (hposition ▸ hplace) hhere
  | at_end hposition hbegun hunclosed =>
      exact .at_end hposition ⟨ls, htokens, hbegun, fun hshaped ↦ hunclosed.not_closed hshaped.closed⟩

theorem pointsInto_of_parse (h : parse expression = .error e) : PointsInto expression e := by
  unfold parse at h
  split at h
  · next herror =>
    cases h
    obtain ⟨here, hplace, hhere⟩ := untokenizable_of_lex (.refl _) herror
    exact .untokenizable hplace hhere
  · next ls htokens =>
    split at h
    · next herror =>
      cases h
      exact pointsInto_of_points htokens (chain_points (c := .or) herror)
    · cases h
    · next filter l rest hrest hread =>
      cases h
      obtain ⟨vs, hvs, -⟩ := orExpr_sound hread
      exact pointsInto_of_points htokens (.at_token (hvs ▸ List.mem_append_right vs List.mem_cons_self) rfl)

/-! ## Places -/

theorem length_ofString (s : String) : (Bytes.ofString s).length = octets s.toList := by
  rw [Bytes.ofString_eq, octets_eq_length]

theorem utf8ByteSize_eq (s : String) : s.utf8ByteSize = octets s.toList := by
  rw [← length_ofString, Bytes.ofString, Array.length_toList]
  rfl

namespace From

variable {position : Nat} {c : Char} {here rest : List Char}

theorem lt_octets {cs : List Char} (h : From cs position (c :: rest)) : position < octets cs := by
  obtain ⟨before, rfl, rfl⟩ := h
  rw [octets_append, octets_cons]
  have hpos := c.utf8Size_pos
  omega

theorem last (cs : List Char) : From cs (octets cs) [] :=
  ⟨cs, (List.append_nil cs).symm, rfl⟩

theorem bytes_eq (h : From expression.toList position here) : ∃ before : Bytes,
    Bytes.ofString expression = before ++ Utf8.encode here ∧ before.length = position := by
  obtain ⟨before, hsplit, rfl⟩ := h
  refine ⟨Utf8.encode before, ?_, Utf8.length_encode before⟩
  rw [← Utf8.encode_append, ← hsplit]
  exact Bytes.ofString_eq expression

theorem isBoundary (h : From expression.toList position here) :
    (Bytes.ofString expression).isBoundary position := by
  obtain ⟨before, hbytes, rfl⟩ := h.bytes_eq
  rw [hbytes]
  exact Bytes.isBoundary_append before here

theorem isValid (h : From expression.toList position here) :
    String.Pos.Raw.IsValid expression ⟨position⟩ := by
  obtain ⟨before, hsplit, rfl⟩ := h
  refine String.Pos.Raw.isValid_iff_exists_append.mpr ⟨String.ofList before, String.ofList here, ?_, ?_⟩
  · rw [← String.ofList_append, ← hsplit, String.ofList_toList]
  · rw [String.Pos.Raw.ext_iff, String.byteIdx_rawEndPos, utf8ByteSize_eq, String.toList_ofList]

/-- The first octet of a character that is no blank is none either. -/
theorem not_blank (h : From expression.toList position (c :: rest)) (hc : ¬isSpace c) :
    ∃ byte, (Bytes.ofString expression)[position]? = some byte ∧ byte ∉ [0x20, 0x09, 0x0D, 0x0A] := by
  obtain ⟨before, hbytes, rfl⟩ := h.bytes_eq
  obtain ⟨byte, more, hoctets, -⟩ := Utf8.readsBack_utf8EncodeChar c
  have hfirst := Utf8.test_first isSpace (fun _ ↦ Checked.isSpace_lt) hoctets
  refine ⟨byte, ?_, ?_⟩
  · rw [hbytes, Utf8.encode_cons, hoctets, List.cons_append, Bytes.getElem?_append_cons]
  · intro hblank
    have hspace : ∀ byte ∈ ([0x20, 0x09, 0x0D, 0x0A] : Bytes), isSpace byte.toChar := by decide +kernel
    rw [hspace byte hblank] at hfirst
    exact hc hfirst.symm

end From

end Filter

/-- A refusal lies within the octets of an expression and cuts no character. Before the end there is no
blank, but the beginning of a token or of what is none; at the end the expression ends too early. -/
structure FilterError.Located (e : FilterError) (expression : String) : Prop where
  le_length : e.position ≤ (Bytes.ofString expression).length
  isBoundary : (Bytes.ofString expression).isBoundary e.position
  isValid : String.Pos.Raw.IsValid expression ⟨e.position⟩
  not_blank : e.position < (Bytes.ofString expression).length →
    ∃ byte, (Bytes.ofString expression)[e.position]? = some byte ∧ byte ∉ [0x20, 0x09, 0x0D, 0x0A]
  begins : e.position < (Bytes.ofString expression).length →
    ∃ here, Filter.From expression.toList e.position here ∧
      ((∃ ls l after, Filter.tokenize expression = .ok ls ∧ l ∈ ls ∧ l.position = e.position ∧
        l.token.Heads here after) ∨ Filter.Untokenizable here e.fault)
  at_end : e.position = (Bytes.ofString expression).length → Filter.EndsEarly expression

namespace Filter

variable {expression : String} {e : FilterError}

theorem located_of_begins {c : Char} {rest : List Char}
    (hplace : From expression.toList e.position (c :: rest)) (hc : ¬isSpace c)
    (hbegins : (∃ ls l after, tokenize expression = .ok ls ∧ l ∈ ls ∧ l.position = e.position ∧
      l.token.Heads (c :: rest) after) ∨ Untokenizable (c :: rest) e.fault) :
    e.Located expression := by
  have hinside : e.position < (Bytes.ofString expression).length :=
    Nat.lt_of_lt_of_eq hplace.lt_octets (length_ofString expression).symm
  exact {
    le_length := Nat.le_of_lt hinside
    isBoundary := hplace.isBoundary
    isValid := hplace.isValid
    not_blank := fun _ ↦ hplace.not_blank hc
    begins := fun _ ↦ ⟨_, hplace, hbegins⟩
    at_end := fun hend ↦ absurd hend (Nat.ne_of_lt hinside) }

theorem located_of_end (hposition : e.position = octets expression.toList)
    (h : EndsEarly expression) : e.Located expression := by
  have hplace : From expression.toList e.position [] := hposition ▸ .last _
  have hend : e.position = (Bytes.ofString expression).length :=
    hposition.trans (length_ofString expression).symm
  exact {
    le_length := Nat.le_of_eq hend
    isBoundary := hplace.isBoundary
    isValid := hplace.isValid
    not_blank := fun hinside ↦ absurd hend (Nat.ne_of_lt hinside)
    begins := fun hinside ↦ absurd hend (Nat.ne_of_lt hinside)
    at_end := fun _ ↦ h }

theorem PointsInto.located (h : PointsInto expression e) : e.Located expression := by
  cases h with
  | @token ls l here after htokens hl hposition hplace hhere =>
      obtain ⟨c, cs, rfl, hc⟩ := hhere.begins
      exact located_of_begins hplace hc (.inl ⟨ls, l, after, htokens, hl, hposition.symm, hhere⟩)
  | untokenizable hplace hhere =>
      obtain ⟨c, cs, rfl, hc⟩ := hhere.begins
      exact located_of_begins hplace hc (.inr hhere)
  | at_end hposition h => exact located_of_end hposition h

/-- An expression is read without any access outside its octets and without cutting a character, and
wherever it is refused, that place can be found in it. -/
theorem parse_located (expression : String) :
    (Checked.parse expression).run = some (parse expression) ∧
    ∀ e, parse expression = .error e → e.Located expression := by
  refine ⟨Checked.parse_eq expression, ?_⟩
  intro e herror
  exact (pointsInto_of_parse herror).located

def strayText : String :=
  "PrefixFilter('é') €"

def earlyText : String :=
  "SKIP (KeyOnlyFilter()"

theorem parse_strayText : parse strayText = .error ⟨19, .strayCharacter '€'⟩ := by
  have htokens : tokenize strayText = .error ⟨19, .strayCharacter '€'⟩ := by decide +kernel
  rw [parse, htokens]

theorem parse_earlyText : parse earlyText = .error ⟨21, .expected .closeParen none⟩ := by
  have htokens : tokenize earlyText = .ok [⟨0, .word "SKIP"⟩, ⟨5, .openParen⟩,
    ⟨6, .word "KeyOnlyFilter"⟩, ⟨19, .openParen⟩, ⟨20, .closeParen⟩] := by decide +kernel
  have hlength : octets earlyText.toList = 21 := by decide +kernel
  rw [parse, htokens, hlength]
  simp [orExpr, andExpr, unary, primary, orTail, andTail, arguments, expect, build]

theorem parse_located_sample :
    parse strayText = .error ⟨19, .strayCharacter '€'⟩ ∧
      FilterError.Located ⟨19, .strayCharacter '€'⟩ strayText ∧
      parse earlyText = .error ⟨21, .expected .closeParen none⟩ ∧ EndsEarly earlyText := by
  obtain ⟨-, hstray⟩ := parse_located strayText
  obtain ⟨-, hearly⟩ := parse_located earlyText
  exact ⟨parse_strayText, hstray _ parse_strayText, parse_earlyText,
    (hearly _ parse_earlyText).at_end (by decide +kernel)⟩

end Filter

end ColumnStore
