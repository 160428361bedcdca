import ColumnStore.Proofs.CellLayout
import ColumnStore.Proofs.FilterRoundTrip
import ColumnStore.Proofs.FilterStability
import ColumnStore.Proofs.FinalSigma
import ColumnStore.Proofs.TextOctets

/-!
# Looking for a text in values

A filter that looks for a text compares lower-case forms, its own and that of the whole value. It finds
the text in every value that contains it, unless the text leaves a capital sigma open: then there are
values that contain the text and in which it is not found (`finds_contained`).
-/

namespace ColumnStore

namespace Filter

/-! ## The expression -/

def lookFor (op : CompareOp) (operand : String) : String :=
  "ValueFilter(" ++ op.symbol ++ ", 'substring:" ++ String.ofList (doubled operand.toList) ++ "')"

theorem Layout.tight {t : Token} {ts : List Token} {cs : List Char} (h : Layout ts cs)
    (hgap : t.isWord → ∀ next ∈ ts.head?, ¬next.isWord) : Layout (t :: ts) (t.spelling ++ cs) := by
  apply @Layout.cons t ts [] cs _ _ h
  · intro c hc
    cases hc
  · rintro hword ⟨next, hnext, hnextWord⟩
    exact absurd hnextWord (hgap hword next hnext)

theorem layout_lookFor (op : CompareOp) (operand : String) :
    Layout (.word "ValueFilter" :: parenthesized [.op op, .text (comparatorText "substring" operand)])
      (lookFor op operand).toList := by
  let operands : Token := .text (comparatorText "substring" operand)
  have hend : Layout [] [] := .nil (by simp)
  have hclose : Layout [.closeParen] [')'] := hend.tight (by simp)
  have htext : Layout [operands, .closeParen] ([' '] ++ (operands.spelling ++ [')'])) := by
    apply Layout.cons _ _ hclose
    · simp [isSpace]
    · rintro ⟨⟩
  have hcomma := htext.tight (t := .comma) (by rintro ⟨⟩)
  have hop := hcomma.tight (t := .op op) (by rintro ⟨⟩)
  have hopen := hop.tight (t := .openParen) (by rintro ⟨⟩)
  have hname := hopen.tight (t := .word "ValueFilter") (by rintro - _ ⟨⟩ ⟨⟩)
  have hcharacters : (lookFor op operand).toList =
      "ValueFilter".toList ++
        ('(' :: (op.symbol.toList ++ (',' :: ' ' :: (operands.spelling ++ [')'])))) := by
    simp [lookFor, operands, Token.spelling, comparatorText, doubled]
  rw [hcharacters]
  exact hname

theorem parse_lookFor {op : CompareOp} (h : op = .equal ∨ op = .notEqual) (operand : String) :
    parse (lookFor op operand) =
      .ok (.compare .value op (.substring (Text.lowercase operand))) :=
  (IsCall.compare .value (.substring operand h)).parse_eq (layout_lookFor op operand)

/-! ## What is found -/

theorem mem_apply_compare {field : FilterField} {op : CompareOp} {comparator : Comparator}
    {row : List Cell} {cell : Cell} (h : cell ∈ row) :
    cell ∈ (Filter.compare field op comparator).apply row ↔
      comparator.passes op (field.read cell) = true := by
  have hkept := apply_eq_kept (f := .compare field op comparator) (by rintro ⟨⟩) row
  rw [hkept, mem_kept]
  constructor
  · rintro ⟨place, -, hkeeps⟩
    exact hkeeps
  · intro hpasses
    obtain ⟨place, hplace⟩ := exists_place h
    exact ⟨place, hplace, hpasses⟩

theorem findsText_iff {s t : String} :
    Comparator.findsText (Text.lowercase s) (Bytes.ofString t) = true ↔
      Text.lowerChars false s.toList <:+: Text.lowerChars false t.toList := by
  rw [Comparator.findsText, Text.occursIn_iff, Bytes.decodeLossy_ofString, Text.lowercase,
    String.toList_ofList]

section Found

variable {s t : String} {row : List Cell} {cell : Cell}

theorem mem_apply_of_infix (hcell : cell ∈ row) (hvalue : cell.value = Bytes.ofString t)
    (h : Text.lowerChars false s.toList <:+: Text.lowerChars false t.toList) :
    cell ∈ (Filter.compare .value .equal (.substring (Text.lowercase s))).apply row ∧
      cell ∉ (Filter.compare .value .notEqual (.substring (Text.lowercase s))).apply row := by
  rw [mem_apply_compare hcell, mem_apply_compare hcell, FilterField.read, hvalue,
    Comparator.passes, Comparator.passes, findsText_iff.mpr h]
  decide

theorem mem_apply_of_not_infix (hcell : cell ∈ row) (hvalue : cell.value = Bytes.ofString t)
    (h : ¬Text.lowerChars false s.toList <:+: Text.lowerChars false t.toList) :
    cell ∉ (Filter.compare .value .equal (.substring (Text.lowercase s))).apply row ∧
      cell ∈ (Filter.compare .value .notEqual (.substring (Text.lowercase s))).apply row := by
  rw [← findsText_iff, Bool.not_eq_true] at h
  rw [mem_apply_compare hcell, mem_apply_compare hcell, FilterField.read, hvalue,
    Comparator.passes, Comparator.passes, h]
  decide

end Found

/-- A filter that looks for a text finds it in every value that contains the text, if the text leaves no
capital sigma open, as where it has none at all. For any other text there is a value that contains it
and does not count as doing so. -/
theorem finds_contained (s : String) :
    ∃ f g, parse (lookFor .equal s) = .ok f ∧ parse (lookFor .notEqual s) = .ok g ∧
      ('Σ' ∉ s.toList → Text.AllDecided s.toList) ∧
      (Text.AllDecided s.toList → ∀ row : List Cell, ∀ cell ∈ row, cell.value.IsText →
        Bytes.ofString s <:+: cell.value → cell ∈ f.apply row ∧ cell ∉ g.apply row) ∧
      (¬Text.AllDecided s.toList → ∃ t, Bytes.ofString s <:+: Bytes.ofString t ∧
        ∀ row : List Cell, ∀ cell ∈ row, cell.value = Bytes.ofString t →
          cell ∉ f.apply row ∧ cell ∈ g.apply row) := by
  refine ⟨_, _, parse_lookFor (.inl rfl) s, parse_lookFor (.inr rfl) s, ?_, ?_, ?_⟩
  · rintro hnone p q hs
    rw [hs] at hnone
    exact absurd (List.mem_append_right p List.mem_cons_self) hnone
  · rintro hdecided row cell hcell ⟨t, hvalue⟩ hcontains
    rw [← hvalue, Bytes.infix_ofString_iff] at hcontains
    obtain ⟨x, y, ht⟩ := hcontains
    apply mem_apply_of_infix hcell hvalue.symm
    rw [← ht, List.append_assoc]
    exact (Text.found_iff_decided s.toList).mpr hdecided x y
  · intro hopen
    rw [← Text.found_iff_decided, not_forall] at hopen
    obtain ⟨x, hx⟩ := hopen
    obtain ⟨y, hlost⟩ := not_forall.mp hx
    refine ⟨String.ofList (x ++ (s.toList ++ y)), ?_, ?_⟩
    · rw [Bytes.infix_ofString_iff, String.toList_ofList, ← List.append_assoc]
      exact List.infix_append _ _ _
    · intro row cell hcell hvalue
      apply mem_apply_of_not_infix hcell hvalue
      rw [String.toList_ofList]
      exact hlost

def sampleText : CellFields where
  row := [114]
  family := [102]
  qualifier := [113]
  timestamp := 1
  type := .put
  value := Bytes.ofString "ΑΣΑ"
  tags := []

theorem exists_sampleText :
    ∃ cell, Cell.pack? sampleText = .ok cell ∧ cell.value = Bytes.ofString "ΑΣΑ" := by
  have hwithin : sampleText.WithinLimits := by constructor <;> decide +kernel
  obtain ⟨cell, hcell⟩ := (Cell.exists_pack?_iff sampleText).mpr hwithin
  exact ⟨cell, hcell, (Cell.holds_of_pack? hcell 0).value⟩

theorem sigma_found :
    Text.AllDecided "ΣΑ".toList ∧
      ∃ cell f g, Cell.pack? sampleText = .ok cell ∧
        parse "ValueFilter(=, 'substring:ΣΑ')" = .ok f ∧
        parse "ValueFilter(!=, 'substring:ΣΑ')" = .ok g ∧
        cell ∈ f.apply [cell] ∧ cell ∉ g.apply [cell] := by
  obtain ⟨cell, hcell, hvalue⟩ := exists_sampleText
  have hequal : lookFor .equal "ΣΑ" = "ValueFilter(=, 'substring:ΣΑ')" := by decide +kernel
  have hnotEqual : lookFor .notEqual "ΣΑ" = "ValueFilter(!=, 'substring:ΣΑ')" := by decide +kernel
  have hcontains : Bytes.ofString "ΣΑ" <:+: Bytes.ofString "ΑΣΑ" := by
    rw [Bytes.infix_ofString_iff]
    exact ⟨['Α'], [], rfl⟩
  have hdecided : Text.AllDecided "ΣΑ".toList := by
    intro p q h
    cases p with
    | nil =>
        obtain rfl : ['Α'] = q := (List.cons.inj h).2
        exact .inl Text.casedFollows_alpha
    | cons c p =>
        have hrest : ['Α'] = p ++ 'Σ' :: q := (List.cons.inj h).2
        have hmem : 'Σ' ∈ ['Α'] := hrest ▸ List.mem_append_right p List.mem_cons_self
        cases List.mem_singleton.mp hmem
  obtain ⟨f, g, hf, hg, -, hfound, -⟩ := finds_contained "ΣΑ"
  rw [hequal] at hf
  rw [hnotEqual] at hg
  refine ⟨hdecided, cell, f, g, hcell, hf, hg, ?_⟩
  apply hfound hdecided [cell] cell List.mem_cons_self
  · exact ⟨_, hvalue.symm⟩
  · rwa [hvalue]

/-- The value contains the operand as it stands, yet the filter for it drops the cell: the sigma that ends
the operand is lowercased in another way than the one inside the value. -/
theorem sigma_not_found :
    ∃ cell f g, Cell.pack? sampleText = .ok cell ∧
      Bytes.ofString "ΑΣ" <:+: cell.value ∧
      parse "ValueFilter(=, 'substring:ΑΣ')" = .ok f ∧
      parse "ValueFilter(!=, 'substring:ΑΣ')" = .ok g ∧
      cell ∉ f.apply [cell] ∧ cell ∈ g.apply [cell] := by
  obtain ⟨cell, hcell, hvalue⟩ := exists_sampleText
  have hequal : lookFor .equal "ΑΣ" = "ValueFilter(=, 'substring:ΑΣ')" := by decide +kernel
  have hnotEqual : lookFor .notEqual "ΑΣ" = "ValueFilter(!=, 'substring:ΑΣ')" := by decide +kernel
  have hlost : ¬Text.lowerChars false ['Α', 'Σ'] <:+: Text.lowerChars false ['Α', 'Σ', 'Α'] := by
    apply Text.not_infix_before_alpha (p := ['Α']) (q := [])
    · rw [Text.casedAfter, Text.not_caseIgnorable_alpha, Text.cased_alpha]
      rfl
    · rfl
  refine ⟨cell, _, _, hcell, ?_, hequal ▸ parse_lookFor (.inl rfl) "ΑΣ",
    hnotEqual ▸ parse_lookFor (.inr rfl) "ΑΣ", ?_⟩
  · rw [hvalue, Bytes.infix_ofString_iff]
    exact ⟨[], ['Α'], rfl⟩
  · apply mem_apply_of_not_infix List.mem_cons_self hvalue
    exact hlost

end Filter

end ColumnStore
