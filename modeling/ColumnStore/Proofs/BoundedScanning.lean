import ColumnStore.Proofs.CheckedScanning

/-!
# Splitting filter expressions in a bounded number of rounds

The loops that split the octets of an expression get a number of rounds here, and end without a result
if it is used up. One round more than there are octets is enough (`Bounded.lex_eq`): each round but the
last takes an octet.
-/

namespace ColumnStore

namespace Filter

namespace Bounded

/-! ## Loops over octets -/

/-- Where the word ends that goes on at an offset, if that is found in some number of rounds. -/
def wordEnd (bytes : Bytes) : (rounds : Nat) → (i : Nat) → Option Nat
  | 0, _ => none
  | rounds + 1, i =>
    match bytes[i]? with
    | some byte => if isWordPart byte.toChar then wordEnd bytes rounds (i + 1) else some i
    | none => some i

/-- What a quoted text holds that goes on at an offset, and where it ends, if it ends at all. -/
def quoted (bytes : Bytes) : (rounds : Nat) → (i : Nat) → Option (Option (Bytes × Nat))
  | 0, _ => none
  | rounds + 1, i =>
    match bytes[i]? with
    | none => some none
    | some byte =>
      if byte.toChar = '\'' then
        if bytes[i + 1]?.map UInt8.toChar = some '\'' then
          (quoted bytes rounds (i + 2)).map (Option.map fun (content, stop) ↦ (byte :: content, stop))
        else some (some ([], i + 1))
      else (quoted bytes rounds (i + 1)).map (Option.map fun (content, stop) ↦ (byte :: content, stop))

/-- Read the token that begins with an octet, and where it ends. -/
def scan (bytes : Bytes) (rounds start : Nat) (byte : UInt8) :
    Option (Except SyntaxFault (Token × Nat)) :=
  if byte.toChar = '\'' then do
    match ← quoted bytes rounds (start + 1) with
    | some (content, stop) => some (.ok (.text (Utf8.lossy content), stop))
    | none => some (.error .unclosedText)
  else if isWordStart byte.toChar then do
    let stop ← wordEnd bytes rounds start
    let name ← bytes.cut? start stop
    some (.ok (.word (String.ofList name), stop))
  else Checked.scan bytes start byte

/-- The tokens from an offset on. A round that does not go forward is a round all the same. -/
def lex (bytes : Bytes) : (rounds : Nat) → (i : Nat) → Option (Except FilterError (List Lexeme))
  | 0, _ => none
  | rounds + 1, i =>
    match bytes[i]? with
    | none => some (.ok [])
    | some byte =>
      if isSpace byte.toChar then lex bytes rounds (i + 1)
      else
        match scan bytes (rounds + 1) i byte with
        | none => none
        | some (.error fault) => some (.error ⟨i, fault⟩)
        | some (.ok (token, stop)) =>
          (lex bytes rounds stop).map (Except.map (⟨i, token⟩ :: ·))

/-! ## Enough rounds -/

variable {bytes : Bytes}

theorem wordEnd_eq {rounds i : Nat} (h : bytes.length - i < rounds) :
    wordEnd bytes rounds i = Checked.wordEnd? bytes i := by
  induction rounds generalizing i with
  | zero => exact absurd h (Nat.not_lt_zero _)
  | succ rounds ih =>
      rw [wordEnd, Checked.wordEnd?]
      by_cases hi : i < bytes.length
      · rw [if_pos hi, List.getElem?_eq_getElem hi]
        dsimp only
        rw [ih (by omega)]
      · rw [if_neg hi, List.getElem?_eq_none (Nat.le_of_not_lt hi)]

theorem quoted_eq {rounds i : Nat} (h : bytes.length - i < rounds) :
    quoted bytes rounds i = some (Checked.quoted? bytes i) := by
  induction rounds generalizing i with
  | zero => exact absurd h (Nat.not_lt_zero _)
  | succ rounds ih =>
      cases hbyte : bytes[i]? with
      | none =>
          rw [quoted, Checked.quoted?, hbyte]
      | some byte =>
          have hi := (List.getElem?_eq_some_iff.mp hbyte).1
          rw [quoted, Checked.quoted?_of_getElem? hbyte, hbyte]
          dsimp only
          rw [ih (by omega), ih (by omega)]
          split_ifs <;> rfl

theorem scan_eq {rounds start : Nat} (h : bytes.length - start < rounds) (byte : UInt8) :
    scan bytes rounds start byte = Checked.scan bytes start byte := by
  rw [scan]
  split
  · next hquote =>
    obtain rfl : byte = '\''.toUInt8 := by
      rw [← UInt8.toNat_inj, ← Utf8.toNat_toChar byte, hquote]
      rfl
    rw [Checked.scan_quote, quoted_eq (by omega)]
    cases Checked.quoted? bytes (start + 1) <;> rfl
  · split
    · next hword =>
      rw [Checked.scan_of_not_sign bytes start (Checked.not_mem_signs_of_isWordStart hword),
        if_pos hword, wordEnd_eq h]
      rfl
    · rfl

theorem lex_of_checked {rounds i : Nat} {tokens : Except FilterError (List Lexeme)}
    (h : bytes.length - i < rounds) (hchecked : Checked.lex bytes i = some tokens) :
    lex bytes rounds i = some tokens := by
  induction rounds generalizing i tokens with
  | zero => exact absurd h (Nat.not_lt_zero _)
  | succ rounds ih =>
      rw [Checked.lex] at hchecked
      rw [lex]
      by_cases hi : i < bytes.length
      · rw [if_pos hi, List.getElem?_eq_getElem hi] at hchecked
        rw [List.getElem?_eq_getElem hi]
        dsimp only at hchecked ⊢
        split at hchecked
        · next hspace =>
          rw [if_pos hspace]
          exact ih (by omega) hchecked
        · next hspace =>
          rw [if_neg hspace, scan_eq h]
          revert hchecked
          cases Checked.scan bytes i bytes[i] with
          | none =>
              intro hchecked
              cases hchecked
          | some result =>
              intro hchecked
              cases result with
              | error fault => exact hchecked
              | ok read =>
                  -- A token takes an octet at least, so that the rounds that are left are enough.
                  dsimp only at hchecked ⊢
                  split at hchecked
                  · next hforward =>
                    obtain ⟨tokens', htokens', rfl⟩ := Option.map_eq_some_iff.mp hchecked
                    rw [ih (by omega) htokens']
                    rfl
                  · cases hchecked
      · rw [if_neg hi] at hchecked
        rw [List.getElem?_eq_none (Nat.le_of_not_lt hi)]
        exact hchecked

/-- One round more than there are octets is enough. -/
theorem lex_eq (expression : String) {rounds : Nat}
    (h : (Bytes.ofString expression).length < rounds) :
    lex (Bytes.ofString expression) rounds 0 = some (tokenize expression) := by
  refine lex_of_checked h ?_
  rw [Bytes.ofString_eq]
  exact Checked.lex_eq [] expression.toList rfl

end Bounded

end Filter

end ColumnStore
