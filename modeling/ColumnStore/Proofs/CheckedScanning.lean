import ColumnStore.Proofs.TextOctets
import ColumnStore.Proofs.TokenPlaces

/-!
# Checked splitting of filter expressions

Here the octets of an expression are read by their offsets, and words are cut out of them, with a check
for every access: it must not leave the octets, nor cut a character. No check fails, and the tokens are
those of `Filter.lex` (`Checked.lex_eq`).
-/

namespace ColumnStore

theorem Utf8.length_encode (cs : List Char) : (encode cs).length = Filter.octets cs :=
  (Filter.octets_eq_length cs).symm

namespace Bytes

/-- The text between two offsets, if the octets reach that far and no character is cut. -/
def cut? (bytes : Bytes) (start stop : Nat) : Option (List Char) :=
  if start ≤ stop ∧ bytes.isBoundary start ∧ bytes.isBoundary stop then
    Utf8.decode? (window bytes start (stop - start))
  else none

theorem cut?_eq (before : Bytes) (cs ds : List Char) :
    (before ++ Utf8.encode (cs ++ ds)).cut? before.length (before.length + Filter.octets cs) =
      some cs := by
  have hstart := isBoundary_append before (cs ++ ds)
  have hstop := isBoundary_append (before ++ Utf8.encode cs) ds
  rw [List.length_append, List.append_assoc, ← Utf8.encode_append, Utf8.length_encode] at hstop
  rw [cut?, if_pos ⟨Nat.le_add_right _ _, hstart, hstop⟩, Nat.add_sub_cancel_left, Utf8.encode_append,
    window_eq before (Utf8.encode ds) rfl rfl (Utf8.length_encode cs).symm, Utf8.decode?_encode]

end Bytes

namespace Filter

namespace Checked

/-! ## Tokens by offset -/

/-- Where the word ends that goes on at an offset. -/
def wordEnd? (bytes : Bytes) (i : Nat) : Option Nat :=
  if i < bytes.length then
    match bytes[i]? with
    | some byte => if isWordPart byte.toChar then wordEnd? bytes (i + 1) else some i
    | none => none
  else some i
termination_by bytes.length - i

/-- The octets of a quoted text that goes on at an offset, and where it ends. It may not end at all, so that
to find no octet is no failure here. -/
def quoted? (bytes : Bytes) (i : Nat) : Option (Bytes × Nat) :=
  match _h : bytes[i]? with
  | none => none
  | some byte =>
    if byte.toChar = '\'' then
      if bytes[i + 1]?.map UInt8.toChar = some '\'' then
        (quoted? bytes (i + 2)).map fun (content, stop) ↦ (byte :: content, stop)
      else some ([], i + 1)
    else (quoted? bytes (i + 1)).map fun (content, stop) ↦ (byte :: content, stop)
termination_by bytes.length - i
decreasing_by
  all_goals
    have hi := (List.getElem?_eq_some_iff.mp _h).1
    omega

/-- Read the token that begins with an octet, and where it ends. -/
def scan (bytes : Bytes) (start : Nat) (byte : UInt8) : Option (Except SyntaxFault (Token × Nat)) :=
  let equals := bytes[start + 1]?.map UInt8.toChar = some '='
  match byte.toChar with
  | '(' => some (.ok (.openParen, start + 1))
  | ')' => some (.ok (.closeParen, start + 1))
  | ',' => some (.ok (.comma, start + 1))
  | '<' => some (.ok (if equals then (.op .lessOrEqual, start + 2) else (.op .less, start + 1)))
  | '>' => some (.ok (if equals then (.op .greaterOrEqual, start + 2) else (.op .greater, start + 1)))
  | '!' => some (if equals then .ok (.op .notEqual, start + 2) else .error .loneExclamation)
  | '=' => some (.ok (.op .equal, start + 1))
  | '\'' =>
    some <| match quoted? bytes (start + 1) with
    | some (content, stop) => .ok (.text (Utf8.lossy content), stop)
    | none => .error .unclosedText
  | c =>
    if isWordStart c then do
      let stop ← wordEnd? bytes start
      let name ← bytes.cut? start stop
      some (.ok (.word (String.ofList name), stop))
    else do
      let rest ← bytes.cut? start bytes.length
      some (.error (.strayCharacter (rest.head?.getD '?')))

/-- The tokens from an offset on. Reading that does not go forward is a failed check too. -/
def lex (bytes : Bytes) (i : Nat) : Option (Except FilterError (List Lexeme)) :=
  if i < bytes.length then
    match bytes[i]? with
    | none => none
    | some byte =>
      if isSpace byte.toChar then lex bytes (i + 1)
      else
        match scan bytes i byte with
        | none => none
        | some (.error fault) => some (.error ⟨i, fault⟩)
        | some (.ok (token, stop)) =>
          if i < stop then (lex bytes stop).map (Except.map (⟨i, token⟩ :: ·)) else none
  else some (.ok [])
termination_by bytes.length - i

/-! ## Octets at an offset -/

theorem head_of_encode {d : Char} (hd : d.toNat < 0x80) (before : Bytes) (cs : List Char) :
    (before ++ Utf8.encode cs)[before.length]?.map UInt8.toChar = some d ↔ cs.head? = some d := by
  cases cs with
  | nil => simp [Utf8.encode]
  | cons c cs =>
      obtain ⟨byte, more, hoctets, -⟩ := Utf8.readsBack_utf8EncodeChar c
      have htest : ∀ e, decide (e = d) = true → e.toNat < 0x80 := by
        intro e he
        rw [of_decide_eq_true he]
        exact hd
      have hfirst := Utf8.test_first (fun e ↦ decide (e = d)) htest hoctets
      rw [Utf8.encode_cons, hoctets, List.cons_append, Bytes.getElem?_append_cons, Option.map_some,
        List.head?_cons, Option.some.injEq, Option.some.injEq]
      exact decide_eq_decide.mp hfirst

theorem isWordPart_lt {c : Char} (h : isWordPart c) : c.toNat < 0x80 := by
  unfold isWordPart at h
  delta Char.isAlphanum Char.isAlpha Char.isUpper Char.isLower Char.isDigit at h
  simp only [Bool.or_eq_true, Bool.and_eq_true, decide_eq_true_eq, UInt32.le_iff_toNat_le,
    ge_iff_le] at h
  rcases h with ((⟨-, h⟩ | ⟨-, h⟩) | ⟨-, h⟩) | rfl
  · exact Nat.lt_of_le_of_lt h (by decide)
  · exact Nat.lt_of_le_of_lt h (by decide)
  · exact Nat.lt_of_le_of_lt h (by decide)
  · decide

theorem isSpace_lt {c : Char} (h : isSpace c) : c.toNat < 0x80 := by
  simp only [isSpace, Bool.or_eq_true, decide_eq_true_eq] at h
  rcases h with ((rfl | rfl) | rfl) | rfl <;> decide

theorem wordEnd?_eq (before : Bytes) (cs : List Char) :
    wordEnd? (before ++ Utf8.encode cs) before.length =
      some (before.length + octets (cs.takeWhile isWordPart)) := by
  induction cs generalizing before with
  | nil =>
      rw [wordEnd?, if_neg (by simp [Utf8.encode])]
      rfl
  | cons c cs ih =>
      obtain ⟨byte, more, hoctets, -⟩ := Utf8.readsBack_utf8EncodeChar c
      have hword := Utf8.test_first isWordPart (fun _ ↦ isWordPart_lt) hoctets
      have hlength : before.length < (before ++ (byte :: (more ++ Utf8.encode cs))).length := by
        simp
      rw [Utf8.encode_cons, hoctets, List.cons_append, wordEnd?, if_pos hlength, Bytes.getElem?_append_cons]
      dsimp only
      rw [hword]
      by_cases hc : isWordPart c
      · rw [if_pos hc, List.takeWhile_cons_of_pos hc]
        rw [Utf8.utf8EncodeChar_plain (isWordPart_lt hc)] at hoctets
        obtain ⟨rfl, rfl⟩ := List.cons.inj hoctets
        have hstep := ih (before ++ [c.toUInt8])
        rw [List.length_append, List.length_singleton] at hstep
        rw [List.nil_append, List.append_cons, hstep, octets_cons, Utf8.utf8Size_plain (isWordPart_lt hc),
          Nat.add_assoc]
      · rw [if_neg hc, List.takeWhile_cons_of_neg hc]
        rfl

theorem toChar_ne_of_mem {c d : Char} (hd : d.toNat < 0x80) (hc : c ≠ d) :
    ∀ byte ∈ String.utf8EncodeChar c, byte.toChar ≠ d := by
  intro byte hbyte
  by_cases hplain : c.toNat < 0x80
  · rw [Utf8.utf8EncodeChar_plain hplain] at hbyte
    rw [List.mem_singleton.mp hbyte, Utf8.toChar_toUInt8 hplain]
    exact hc
  · obtain ⟨first, more, hoctets, hfirst, hmore⟩ := Utf8.utf8EncodeChar_high (Nat.le_of_not_lt hplain)
    have hhigh : 0x80 ≤ byte.toNat := by
      rw [hoctets] at hbyte
      rcases List.mem_cons.mp hbyte with rfl | hbyte
      · exact Nat.le_trans (by decide) hfirst
      · exact hmore byte hbyte
    rintro rfl
    rw [Utf8.toNat_toChar] at hd
    omega

theorem quoted?_of_getElem? {bytes : Bytes} {i : Nat} {byte : UInt8} (h : bytes[i]? = some byte) :
    quoted? bytes i =
      if byte.toChar = '\'' then
        if bytes[i + 1]?.map UInt8.toChar = some '\'' then
          (quoted? bytes (i + 2)).map fun (content, stop) ↦ (byte :: content, stop)
        else some ([], i + 1)
      else (quoted? bytes (i + 1)).map fun (content, stop) ↦ (byte :: content, stop) := by
  rw [quoted?]
  split
  · next hnone =>
    rw [h] at hnone
    cases hnone
  · next byte' hsome =>
    obtain rfl : byte = byte' := Option.some.inj (h.symm.trans hsome)
    rfl

/-- Octets other than quotes belong to the text. -/
theorem quoted?_skip {octets : Bytes} (h : ∀ byte ∈ octets, byte.toChar ≠ '\'')
    (before rest : Bytes) :
    quoted? (before ++ octets ++ rest) before.length =
      (quoted? (before ++ octets ++ rest) (before ++ octets).length).map
        fun (content, stop) ↦ (octets ++ content, stop) := by
  induction octets generalizing before with
  | nil => simp
  | cons byte octets ih =>
      obtain ⟨hbyte, hoctets⟩ := List.forall_mem_cons.mp h
      have hget : (before ++ byte :: octets ++ rest)[before.length]? = some byte := by
        rw [List.append_assoc, List.cons_append, Bytes.getElem?_append_cons]
      have hstep := ih hoctets (before ++ [byte])
      rw [← List.append_cons, List.length_append, List.length_singleton] at hstep
      rw [quoted?_of_getElem? hget, if_neg hbyte, hstep, Option.map_map]
      rfl

theorem quoted?_quotes (before rest : Bytes) :
    quoted? (before ++ ['\''.toUInt8, '\''.toUInt8] ++ rest) before.length =
      (quoted? (before ++ ['\''.toUInt8, '\''.toUInt8] ++ rest) (before.length + 2)).map
        fun (content, stop) ↦ ('\''.toUInt8 :: content, stop) := by
  have hquote : '\''.toUInt8.toChar = '\'' := rfl
  have hfirst : (before ++ ['\''.toUInt8, '\''.toUInt8] ++ rest)[before.length]? = some '\''.toUInt8 := by
    rw [List.append_assoc, List.cons_append, Bytes.getElem?_append_cons]
  have hsecond : (before ++ ['\''.toUInt8, '\''.toUInt8] ++ rest)[before.length + 1]? =
      some '\''.toUInt8 := by
    have hget := Bytes.getElem?_append_cons (before ++ ['\''.toUInt8]) '\''.toUInt8 rest
    rw [List.length_append, List.length_singleton] at hget
    rw [← hget]
    simp
  rw [quoted?_of_getElem? hfirst, if_pos hquote, hsecond, Option.map_some, hquote, if_pos rfl]

theorem quoted?_end (before : Bytes) {rest : List Char} (h : ∀ c ∈ rest.head?, c ≠ '\'') :
    quoted? (before ++ ['\''.toUInt8] ++ Utf8.encode rest) before.length =
      some ([], before.length + 1) := by
  have hquote : '\''.toUInt8.toChar = '\'' := rfl
  have hfirst : (before ++ ['\''.toUInt8] ++ Utf8.encode rest)[before.length]? =
      some '\''.toUInt8 := by
    rw [← List.append_cons, Bytes.getElem?_append_cons]
  have hnext : (before ++ ['\''.toUInt8] ++ Utf8.encode rest)[before.length + 1]?.map UInt8.toChar ≠
      some '\'' := by
    have hhead := head_of_encode (d := '\'') (by decide) (before ++ ['\''.toUInt8]) rest
    rw [List.length_append, List.length_singleton] at hhead
    intro hnext
    exact h '\'' (hhead.mp hnext) rfl
  rw [quoted?_of_getElem? hfirst, if_pos hquote, if_neg hnext]

theorem quoted?_nil (before : Bytes) : quoted? before before.length = none := by
  have hnone : before[before.length]? = none := List.getElem?_eq_none (Nat.le_refl _)
  rw [quoted?]
  split
  · rfl
  · next byte hsome =>
    rw [hnone] at hsome
    cases hsome

/-- Whatever is found behind a text with every quote doubled, it comes after the text. -/
theorem quoted?_doubled (content : List Char) (before rest : Bytes) :
    quoted? (before ++ Utf8.encode (doubled content) ++ rest) before.length =
      (quoted? (before ++ Utf8.encode (doubled content) ++ rest)
        (before ++ Utf8.encode (doubled content)).length).map
          fun (tail, stop) ↦ (Utf8.encode content ++ tail, stop) := by
  induction content generalizing before with
  | nil => simp [doubled, Utf8.encode]
  | cons c content ih =>
      by_cases hc : c = '\''
      · subst hc
        have hstep := ih (before ++ ['\''.toUInt8, '\''.toUInt8])
        have hquote : String.utf8EncodeChar '\'' = ['\''.toUInt8] := rfl
        have hcons : Utf8.encode (doubled ('\'' :: content)) =
            ['\''.toUInt8, '\''.toUInt8] ++ Utf8.encode (doubled content) := by
          simp [doubled, Utf8.encode_cons, hquote]
        rw [hcons, ← List.append_assoc, List.append_assoc (_ ++ _), quoted?_quotes, ← List.append_assoc]
        rw [List.length_append, List.length_cons, List.length_singleton] at hstep
        rw [hstep, Option.map_map, Utf8.encode_cons, hquote]
        rfl
      · have hstep := ih (before ++ String.utf8EncodeChar c)
        have hcons : Utf8.encode (doubled (c :: content)) =
            String.utf8EncodeChar c ++ Utf8.encode (doubled content) := by
          rw [doubled, if_neg hc, Utf8.encode_cons]
        have hskip := quoted?_skip (toChar_ne_of_mem (by decide) hc) before
          (Utf8.encode (doubled content) ++ rest)
        rw [hcons, ← List.append_assoc, List.append_assoc (_ ++ _), hskip, ← List.append_assoc, hstep,
          Option.map_map, Utf8.encode_cons]
        simp only [Function.comp_def, List.append_assoc]

/-! ## Tokens -/

variable {before : Bytes} {c : Char} {cs rest : List Char} {t : Token} {fault : SyntaxFault}
  {byte : UInt8} {more : Bytes}

theorem scan_of_not_sign (bytes : Bytes) (start : Nat) (h : byte.toChar ∉ signs) :
    scan bytes start byte =
      if isWordStart byte.toChar then
        (wordEnd? bytes start).bind fun stop ↦ (bytes.cut? start stop).bind fun name ↦
          some (.ok (.word (String.ofList name), stop))
      else
        (bytes.cut? start bytes.length).bind fun rest ↦
          some (.error (.strayCharacter (rest.head?.getD '?'))) := by
  unfold scan
  dsimp only
  split
  case h_9 => rfl
  all_goals
    next hsign =>
      rw [hsign] at h
      exact absurd (by decide) h

theorem isWordStart_lt (h : isWordStart c) : c.toNat < 0x80 :=
  isWordPart_lt (isWordPart_of_isWordStart h)

theorem not_mem_signs_of_isWordStart (h : isWordStart c) : c ∉ signs := by
  intro hsign
  simp only [signs, List.mem_cons, List.not_mem_nil, or_false] at hsign
  rcases hsign with rfl | rfl | rfl | rfl | rfl | rfl | rfl | rfl <;> exact absurd h (by decide)

theorem lt_of_mem_signs (h : c ∈ signs) : c.toNat < 0x80 := by
  simp only [signs, List.mem_cons, List.not_mem_nil, or_false] at h
  rcases h with rfl | rfl | rfl | rfl | rfl | rfl | rfl | rfl <;> decide

/-- The octet after a plain character tells whether an equality sign follows. -/
theorem next_equals_iff (hc : c.toNat < 0x80) :
    (before ++ Utf8.encode (c :: cs))[before.length + 1]?.map UInt8.toChar = some '=' ↔
      cs.head? = some '=' := by
  have hhead := head_of_encode (d := '=') (by decide) (before ++ [c.toUInt8]) cs
  rw [List.length_append, List.length_singleton, ← List.append_cons] at hhead
  rw [Utf8.encode_cons, Utf8.utf8EncodeChar_plain hc, List.singleton_append]
  exact hhead

theorem next_equals (hc : c.toNat < 0x80) :
    (before ++ Utf8.encode (c :: '=' :: cs))[before.length + 1]?.map UInt8.toChar = some '=' :=
  (next_equals_iff hc).mpr rfl

theorem not_next_equals (hc : c.toNat < 0x80) (h : ∀ d ∈ cs.head?, d ≠ '=') :
    ¬(before ++ Utf8.encode (c :: cs))[before.length + 1]?.map UInt8.toChar = some '=' := by
  intro hnext
  exact h '=' ((next_equals_iff hc).mp hnext) rfl

theorem scan_quote (bytes : Bytes) (start : Nat) :
    scan bytes start '\''.toUInt8 =
      some (match quoted? bytes (start + 1) with
        | some (content, stop) => .ok (.text (Utf8.lossy content), stop)
        | none => .error .unclosedText) := rfl

theorem scan_exclamation (bytes : Bytes) (start : Nat) :
    scan bytes start '!'.toUInt8 =
      some (if bytes[start + 1]?.map UInt8.toChar = some '=' then .ok (.op .notEqual, start + 2)
        else .error .loneExclamation) := rfl

theorem scan_less (bytes : Bytes) (start : Nat) :
    scan bytes start '<'.toUInt8 =
      some (.ok (if bytes[start + 1]?.map UInt8.toChar = some '=' then (.op .lessOrEqual, start + 2)
        else (.op .less, start + 1))) := rfl

theorem scan_greater (bytes : Bytes) (start : Nat) :
    scan bytes start '>'.toUInt8 =
      some (.ok (if bytes[start + 1]?.map UInt8.toChar = some '=' then (.op .greaterOrEqual, start + 2)
        else (.op .greater, start + 1))) := rfl

theorem scan_of_untokenizable (h : Untokenizable (c :: cs) fault)
    (hoctets : String.utf8EncodeChar c = byte :: more) :
    scan (before ++ Utf8.encode (c :: cs)) before.length byte = some (.error fault) := by
  cases h with
  | loneExclamation hequals =>
      obtain rfl : '!'.toUInt8 = byte := (List.cons.inj hoctets).1
      rw [scan_exclamation, if_neg (not_next_equals (by decide) hequals)]
  | unclosedText content =>
      obtain rfl : '\''.toUInt8 = byte := (List.cons.inj hoctets).1
      have hread : quoted? (before ++ Utf8.encode ('\'' :: doubled content)) (before.length + 1) =
          none := by
        have hdoubled := quoted?_doubled content (before ++ ['\''.toUInt8]) []
        rw [List.append_nil, quoted?_nil, List.length_append, List.length_singleton] at hdoubled
        rw [Utf8.encode_cons, Utf8.utf8EncodeChar_plain (by decide), List.singleton_append, List.append_cons,
          hdoubled]
        rfl
      rw [scan_quote, hread]
  | strayCharacter hword hsign hspace =>
      have hwordFirst := Utf8.test_first isWordStart (fun _ ↦ isWordStart_lt) hoctets
      have hsignFirst := Utf8.test_first (fun d ↦ decide (d ∈ signs))
        (fun _ hd ↦ lt_of_mem_signs (of_decide_eq_true hd)) hoctets
      have hbyte : byte.toChar ∉ signs := by
        rw [decide_eq_decide.mp hsignFirst]
        exact hsign
      have hcut := Bytes.cut?_eq before (c :: cs) []
      rw [List.append_nil, ← Utf8.length_encode, ← List.length_append] at hcut
      rw [scan_of_not_sign _ _ hbyte, hwordFirst, if_neg hword, hcut]
      rfl

theorem quoted?_closed (content : List Char) (before : Bytes) (h : ∀ c ∈ rest.head?, c ≠ '\'') :
    quoted? (before ++ Utf8.encode (doubled content ++ '\'' :: rest)) before.length =
      some (Utf8.encode content, before.length + octets (doubled content) + 1) := by
  have hquote : String.utf8EncodeChar '\'' = ['\''.toUInt8] := rfl
  have hend := quoted?_end (before ++ Utf8.encode (doubled content)) h
  have hdoubled := quoted?_doubled content before ('\''.toUInt8 :: Utf8.encode rest)
  rw [← List.append_cons] at hend
  rw [hend, List.length_append, Utf8.length_encode] at hdoubled
  rw [Utf8.encode_append, Utf8.encode_cons, hquote, List.singleton_append, ← List.append_assoc, hdoubled,
    Option.map_some]
  dsimp only
  rw [List.append_nil]

theorem scan_word {name : String} (h : (Token.word name).Heads (c :: cs) rest)
    (hoctets : String.utf8EncodeChar c = byte :: more) :
    scan (before ++ Utf8.encode (c :: cs)) before.length byte =
      some (.ok (.word name, before.length + (Token.word name).width)) := by
  obtain ⟨⟨first, parts, hname, hspelled⟩, happend, hends⟩ := h
  obtain ⟨hstart, hparts⟩ := Bool.and_eq_true_iff.mp hspelled
  rw [Token.spelling, hname, List.cons_append] at happend
  obtain ⟨rfl, rfl⟩ := List.cons.inj happend
  have hbyte : byte.toChar = c := by
    rw [Utf8.utf8EncodeChar_plain (isWordStart_lt hstart)] at hoctets
    rw [← (List.cons.inj hoctets).1, Utf8.toChar_toUInt8 (isWordStart_lt hstart)]
  have htake : (c :: (parts ++ rest)).takeWhile isWordPart = c :: parts := by
    have hrest : rest.takeWhile isWordPart = [] := by
      cases rest with
      | nil => rfl
      | cons d ds => exact List.takeWhile_cons_of_neg (hends d rfl)
    rw [List.takeWhile_cons_of_pos (isWordPart_of_isWordStart hstart),
      List.takeWhile_append_of_pos (List.all_eq_true.mp hparts), hrest, List.append_nil]
  have hend := wordEnd?_eq before (c :: (parts ++ rest))
  have hcut := Bytes.cut?_eq before (c :: parts) rest
  rw [htake] at hend
  rw [List.cons_append] at hcut
  rw [scan_of_not_sign _ _ (hbyte ▸ not_mem_signs_of_isWordStart hstart), hbyte, if_pos hstart, hend,
    Option.bind_some, hcut, Option.bind_some, ← hname, String.ofList_toList]
  rfl

theorem scan_op {operator : CompareOp} (h : (Token.op operator).Heads (c :: cs) rest)
    (hoctets : String.utf8EncodeChar c = byte :: more) :
    scan (before ++ Utf8.encode (c :: cs)) before.length byte =
      some (.ok (.op operator, before.length + (Token.op operator).width)) := by
  obtain ⟨-, happend, hends⟩ := h
  cases operator with
  | less =>
      obtain ⟨hc, hcs⟩ : c = '<' ∧ cs = rest := List.cons.inj happend
      subst hc hcs
      obtain rfl : '<'.toUInt8 = byte := (List.cons.inj hoctets).1
      rw [scan_less, if_neg (not_next_equals (by decide) fun d hd ↦ hends d hd)]
      rfl
  | lessOrEqual =>
      obtain ⟨hc, hcs⟩ : c = '<' ∧ cs = '=' :: rest := List.cons.inj happend
      subst hc hcs
      obtain rfl : '<'.toUInt8 = byte := (List.cons.inj hoctets).1
      rw [scan_less, if_pos (next_equals (by decide))]
      rfl
  | equal =>
      obtain ⟨hc, hcs⟩ : c = '=' ∧ cs = rest := List.cons.inj happend
      subst hc hcs
      obtain rfl : '='.toUInt8 = byte := (List.cons.inj hoctets).1
      rfl
  | notEqual =>
      obtain ⟨hc, hcs⟩ : c = '!' ∧ cs = '=' :: rest := List.cons.inj happend
      subst hc hcs
      obtain rfl : '!'.toUInt8 = byte := (List.cons.inj hoctets).1
      rw [scan_exclamation, if_pos (next_equals (by decide))]
      rfl
  | greaterOrEqual =>
      obtain ⟨hc, hcs⟩ : c = '>' ∧ cs = '=' :: rest := List.cons.inj happend
      subst hc hcs
      obtain rfl : '>'.toUInt8 = byte := (List.cons.inj hoctets).1
      rw [scan_greater, if_pos (next_equals (by decide))]
      rfl
  | greater =>
      obtain ⟨hc, hcs⟩ : c = '>' ∧ cs = rest := List.cons.inj happend
      subst hc hcs
      obtain rfl : '>'.toUInt8 = byte := (List.cons.inj hoctets).1
      rw [scan_greater, if_neg (not_next_equals (by decide) fun d hd ↦ hends d hd)]
      rfl

theorem scan_of_heads (h : t.Heads (c :: cs) rest) (hoctets : String.utf8EncodeChar c = byte :: more) :
    scan (before ++ Utf8.encode (c :: cs)) before.length byte =
      some (.ok (t, before.length + t.width)) := by
  cases t with
  | word name => exact scan_word h hoctets
  | text content =>
      obtain ⟨-, happend, hends⟩ := h
      rw [Token.spelling, List.cons_append, List.append_assoc, List.singleton_append] at happend
      obtain ⟨rfl, rfl⟩ := List.cons.inj happend
      obtain rfl : '\''.toUInt8 = byte := (List.cons.inj hoctets).1
      have hread := quoted?_closed content.toList (before ++ ['\''.toUInt8]) hends
      have hstop : before.length + 1 + octets (doubled content.toList) + 1 =
          before.length + (Token.text content).width := by
        rw [octets_doubled, Token.width]
        omega
      rw [← List.append_cons, List.length_append, List.length_singleton, hstop] at hread
      rw [Utf8.encode_cons, Utf8.utf8EncodeChar_plain (by decide), List.singleton_append, scan_quote, hread]
      dsimp only
      rw [Utf8.lossy_encode, String.ofList_toList]
  | op operator => exact scan_op h hoctets
  | openParen | closeParen | comma =>
      obtain ⟨rfl, rfl⟩ := List.cons.inj h.eq_append
      obtain rfl := (List.cons.inj hoctets).1
      rfl

/-! ## Splitting -/

theorem width_pos (h : t.Heads (c :: cs) rest) : 0 < t.width := by
  obtain ⟨d, ds, hspelling⟩ := Token.exists_spelling h.spellable
  have hwidth := t.octets_spelling
  have hpos := d.utf8Size_pos
  rw [hspelling, octets_cons] at hwidth
  omega

theorem lex_cons (before : Bytes) (cs : List Char) (hoctets : String.utf8EncodeChar c = byte :: more) :
    lex (before ++ Utf8.encode (c :: cs)) before.length =
      if isSpace c then lex (before ++ Utf8.encode (c :: cs)) (before.length + 1)
      else
        match scan (before ++ Utf8.encode (c :: cs)) before.length byte with
        | none => none
        | some (.error fault) => some (.error ⟨before.length, fault⟩)
        | some (.ok (token, stop)) =>
          if before.length < stop then
            (lex (before ++ Utf8.encode (c :: cs)) stop).map (Except.map (⟨before.length, token⟩ :: ·))
          else none := by
  have hspace := Utf8.test_first isSpace (fun _ ↦ isSpace_lt) hoctets
  have hget : (before ++ Utf8.encode (c :: cs))[before.length]? = some byte := by
    rw [Utf8.encode_cons, hoctets, List.cons_append, Bytes.getElem?_append_cons]
  have hinside : before.length < (before ++ Utf8.encode (c :: cs)).length :=
    (List.getElem?_eq_some_iff.mp hget).1
  rw [lex, if_pos hinside, hget]
  dsimp only
  rw [hspace]

theorem lex_eq {position : Nat} (before : Bytes) (cs : List Char)
    (hposition : position = before.length) :
    lex (before ++ Utf8.encode cs) position = some (Filter.lex position cs) := by
  -- On the characters that are left, with the octets of those before them: blanks and tokens go over
  -- from one part to the other.
  fun_induction Filter.lex position cs generalizing before with
  | case1 =>
      have hend : ¬before.length < (before ++ Utf8.encode []).length := by simp [Utf8.encode]
      rw [hposition, lex, if_neg hend]
  | case2 position c cs hc ih =>
      obtain ⟨byte, more, hoctets, -⟩ := Utf8.readsBack_utf8EncodeChar c
      have hplain := Utf8.utf8EncodeChar_plain (isSpace_lt hc)
      have hstep := ih (before ++ [c.toUInt8]) (by rw [hposition]; simp)
      rw [← List.append_cons, ← List.singleton_append, ← hplain, ← Utf8.encode_cons] at hstep
      rw [hposition, lex_cons before cs hoctets, if_pos hc, ← hposition, hstep]
  | case3 position c cs hc fault hscan =>
      obtain ⟨byte, more, hoctets, -⟩ := Utf8.readsBack_utf8EncodeChar c
      rw [hposition, lex_cons before cs hoctets, if_neg hc,
        scan_of_untokenizable (untokenizable_of_scan hc hscan) hoctets]
  | case4 position c cs hc t rest hscan ih =>
      obtain ⟨byte, more, hoctets, -⟩ := Utf8.readsBack_utf8EncodeChar c
      have ht : t.Heads (c :: cs) rest := heads_of_scan hscan
      have hstep := ih (before ++ Utf8.encode t.spelling) (by
        rw [hposition, List.length_append, Utf8.length_encode, t.octets_spelling])
      rw [List.append_assoc, ← Utf8.encode_append, ← ht.eq_append] at hstep
      rw [hposition] at hstep ⊢
      rw [lex_cons before cs hoctets, if_neg hc, scan_of_heads ht hoctets]
      dsimp only
      rw [if_pos (Nat.lt_add_of_pos_right (width_pos ht)), hstep]
      rfl

end Checked

end Filter

end ColumnStore
