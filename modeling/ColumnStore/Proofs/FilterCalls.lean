import ColumnStore.Filter.Parser
import Mathlib.Data.List.TakeDrop

/-!
# Calls in filter expressions

A filter is written as its name with arguments in parentheses. `IsCall` lists the names, with what
each of them takes, and `IsComparator` the texts that give comparators. `build_eq_ok_iff` says that
filters are built from just these calls, and `arguments_sound` with `arguments_complete` that just the
arguments in parentheses are read.
-/

namespace ColumnStore

namespace FilterField

def filterName : FilterField → String
  | row => "RowFilter"
  | family => "FamilyFilter"
  | qualifier => "QualifierFilter"
  | value => "ValueFilter"

end FilterField

namespace Filter

/-- The text that stands for a comparator: its kind, a colon and its operand. -/
def comparatorText (kind operand : String) : String :=
  kind ++ ":" ++ operand

/-- The comparators that texts stand for. -/
inductive IsComparator (op : CompareOp) : String → Comparator → Prop
  | binary (operand : String) :
    IsComparator op (comparatorText "binary" operand) (.binary (Bytes.ofString operand))
  | binaryPrefix (operand : String) :
    IsComparator op (comparatorText "binaryprefix" operand) (.binaryPrefix (Bytes.ofString operand))
  | substring (operand : String) (h : op = .equal ∨ op = .notEqual) :
    IsComparator op (comparatorText "substring" operand) (.substring (Text.lowercase operand))
  | regex (pattern : Pattern) (h : op = .equal ∨ op = .notEqual) :
    IsComparator op (comparatorText "regexstring" pattern.source) (.regex pattern)

/-- The filters that a name stands for with its arguments. -/
inductive IsCall : String → List Token → Filter → Prop
  | rowPrefix (beginning : String) :
    IsCall "PrefixFilter" [.text beginning] (.rowPrefix (Bytes.ofString beginning))
  | columnPrefix (beginning : String) :
    IsCall "ColumnPrefixFilter" [.text beginning] (.columnPrefix (Bytes.ofString beginning))
  | compare (field : FilterField) {op : CompareOp} {content : String} {comparator : Comparator}
      (h : IsComparator op content comparator) :
    IsCall field.filterName [.op op, .text content] (.compare field op comparator)
  | columnValue (family qualifier : String) {op : CompareOp} {content : String}
      {comparator : Comparator} (h : IsComparator op content comparator) :
    IsCall "SingleColumnValueFilter" [.text family, .text qualifier, .op op, .text content]
      (.columnValue (Bytes.ofString family) (Bytes.ofString qualifier) op comparator)
  | firstOfRow : IsCall "FirstKeyOnlyFilter" [] .firstOfRow
  | keysOnly : IsCall "KeyOnlyFilter" [] .keysOnly

/-! ## Comparators -/

theorem cutAtColon?_comparatorText (kind operand : String) (h : ':' ∉ kind.toList) :
    cutAtColon? (comparatorText kind operand).toList = some (kind.toList, operand.toList) := by
  have hkind : ∀ c ∈ kind.toList, (fun c ↦ decide (c ≠ ':')) c = true := by
    intro c hc
    exact decide_eq_true fun hcolon ↦ h (hcolon ▸ hc)
  have hcolon : ":".toList = [':'] := rfl
  rw [comparatorText, String.toList_append, String.toList_append, hcolon, cutAtColon?,
    List.span_eq_takeWhile_dropWhile, List.append_assoc, List.takeWhile_append_of_pos hkind,
    List.dropWhile_append_of_pos hkind]
  simp

theorem eq_comparatorText {content : String} {kind operand : List Char}
    (h : cutAtColon? content.toList = some (kind, operand)) :
    content = comparatorText (String.ofList kind) (String.ofList operand) := by
  unfold cutAtColon? at h
  rw [List.span_eq_takeWhile_dropWhile] at h
  split at h
  · next before colon after hspan =>
    cases h
    obtain ⟨hbefore, hafter⟩ := Prod.mk.inj hspan
    have hcolon : colon = ':' := by
      have hhead := List.head?_dropWhile_not (fun c ↦ decide (c ≠ ':')) content.toList
      rw [hafter] at hhead
      simpa using hhead
    have hsplit : content.toList.takeWhile (fun c ↦ decide (c ≠ ':')) ++
        content.toList.dropWhile (fun c ↦ decide (c ≠ ':')) = content.toList :=
      List.takeWhile_append_dropWhile
    rw [hbefore, hafter, hcolon] at hsplit
    apply String.toList_injective
    rw [← hsplit]
    simp [comparatorText]
  · cases h

/-- Comparators are read from the texts that stand for them, under the operators that they allow. -/
theorem comparator_eq_ok_iff {position : Nat} {content : String} {op : CompareOp}
    {c : Comparator} : comparator position content op = .ok c ↔ IsComparator op content c := by
  constructor
  · intro h
    unfold comparator at h
    split at h
    · cases h
    · next kind operand hcut =>
      have hcontent := eq_comparatorText hcut
      dsimp only at h
      split at h
      · next hkind =>
        cases h
        rw [hcontent, hkind]
        exact .binary _
      · next hkind =>
        cases h
        rw [hcontent, hkind]
        exact .binaryPrefix _
      · next hkind =>
        split at h
        · next hop =>
          cases h
          rw [hcontent, hkind]
          exact .substring _ hop
        · cases h
      · next hkind =>
        split at h
        · next hop =>
          split at h
          · next pattern hpattern =>
            cases h
            rw [hcontent, hkind, ← Pattern.source_of_ofSource? hpattern]
            exact .regex _ hop
          · cases h
        · cases h
      · cases h
  · intro h
    cases h with
    | binary operand =>
        have hcut := cutAtColon?_comparatorText "binary" operand (by decide)
        simp [comparator, hcut]
    | binaryPrefix operand =>
        have hcut := cutAtColon?_comparatorText "binaryprefix" operand (by decide)
        simp [comparator, hcut]
    | substring operand hop =>
        have hcut := cutAtColon?_comparatorText "substring" operand (by decide)
        simp [comparator, hcut, hop]
    | regex pattern hop =>
        have hcut := cutAtColon?_comparatorText "regexstring" pattern.source (by decide)
        simp [comparator, hcut, hop, Pattern.ofSource?_source]

/-! ## Calls -/

def Argument.token : Argument → Token
  | .text _ content => .text content
  | .op _ operator => .op operator

theorem Lexeme.token_of_argument? {l : Lexeme} {a : Argument} (h : l.argument? = some a) :
    a.token = l.token := by
  unfold Lexeme.argument? at h
  split at h
  · next htoken =>
    cases h
    exact htoken.symm
  · next htoken =>
    cases h
    exact htoken.symm
  · cases h

theorem Argument.text?_eq_ok_iff {a : Argument} {s : String} :
    a.text? = .ok s ↔ a.token = .text s := by
  cases a <;> simp [Argument.text?, Argument.token]

theorem Argument.op?_eq_ok_iff {a : Argument} {op : CompareOp} :
    a.op? = .ok op ↔ a.token = .op op := by
  cases a <;> simp [Argument.op?, Argument.token]

theorem Argument.comparator?_eq_ok_iff {a : Argument} {op : CompareOp} {c : Comparator} :
    a.comparator? op = .ok c ↔ ∃ content, a.token = .text content ∧ IsComparator op content c := by
  cases a <;> simp [Argument.comparator?, Argument.token, comparator_eq_ok_iff]

theorem bind_eq_ok_iff {ε α β : Type} {x : Except ε α} {f : α → Except ε β} {b : β} :
    x >>= f = .ok b ↔ ∃ a, x = .ok a ∧ f a = .ok b := by
  cases x with
  | error e => simp [bind, Except.bind]
  | ok a => simp [bind, Except.bind]

theorem buildCompare_eq_ok_iff {position : Nat} {name : String} {field : FilterField}
    {args : List Argument} {f : Filter} :
    buildCompare position name field args = .ok f ↔ ∃ op content c,
      args.map Argument.token = [.op op, .text content] ∧ IsComparator op content c ∧
        f = .compare field op c := by
  unfold buildCompare
  split
  · next a b =>
    simp only [bind_eq_ok_iff, Argument.op?_eq_ok_iff, Argument.comparator?_eq_ok_iff, List.map_cons,
      List.map_nil, List.cons.injEq, and_true, Except.ok.injEq]
    constructor
    · rintro ⟨op, ha, c, ⟨content, hb, hc⟩, rfl⟩
      exact ⟨op, content, c, ⟨ha, hb⟩, hc, rfl⟩
    · rintro ⟨op, content, c, ⟨ha, hb⟩, hc, rfl⟩
      exact ⟨op, ha, c, ⟨content, hb, hc⟩, rfl⟩
  · next hargs =>
    constructor
    · intro h
      cases h
    · rintro ⟨op, content, c, hmap, -⟩
      obtain ⟨a, rest, rfl, -, hrest⟩ := List.map_eq_cons_iff.mp hmap
      obtain ⟨b, rfl, -⟩ := List.map_eq_singleton_iff.mp hrest
      exact (hargs a b rfl).elim

variable {position : Nat} {name : String} {args : List Argument} {f : Filter}

theorem isCall_of_buildCompare {field : FilterField}
    (h : buildCompare position name field args = .ok f) :
    IsCall field.filterName (args.map Argument.token) f := by
  obtain ⟨op, content, c, hargs, hc, rfl⟩ := buildCompare_eq_ok_iff.mp h
  rw [hargs]
  exact .compare field hc

theorem isCall_of_build (h : build position name args = .ok f) :
    IsCall name (args.map Argument.token) f := by
  unfold build at h
  dsimp only at h
  split at h
  · split at h
    · next a =>
      obtain ⟨beginning, ha, hf⟩ := bind_eq_ok_iff.mp h
      cases hf
      rw [List.map_singleton, Argument.text?_eq_ok_iff.mp ha]
      exact .rowPrefix beginning
    · cases h
  · split at h
    · next a =>
      obtain ⟨beginning, ha, hf⟩ := bind_eq_ok_iff.mp h
      cases hf
      rw [List.map_singleton, Argument.text?_eq_ok_iff.mp ha]
      exact .columnPrefix beginning
    · cases h
  · exact isCall_of_buildCompare h
  · exact isCall_of_buildCompare h
  · exact isCall_of_buildCompare h
  · exact isCall_of_buildCompare h
  · split at h
    · next family qualifier op comparator =>
      obtain ⟨f, hfamily, h⟩ := bind_eq_ok_iff.mp h
      obtain ⟨q, hqualifier, h⟩ := bind_eq_ok_iff.mp h
      obtain ⟨o, hop, h⟩ := bind_eq_ok_iff.mp h
      obtain ⟨c, hcomparator, h⟩ := bind_eq_ok_iff.mp h
      obtain ⟨content, hcontent, hc⟩ := Argument.comparator?_eq_ok_iff.mp hcomparator
      cases h
      simp only [List.map_cons, List.map_nil, Argument.text?_eq_ok_iff.mp hfamily,
        Argument.text?_eq_ok_iff.mp hqualifier, Argument.op?_eq_ok_iff.mp hop, hcontent]
      exact .columnValue f q hc
    · cases h
  · split at h
    · next hargs =>
      cases h
      rw [List.isEmpty_iff.mp hargs]
      exact .firstOfRow
    · cases h
  · split at h
    · next hargs =>
      cases h
      rw [List.isEmpty_iff.mp hargs]
      exact .keysOnly
    · cases h
  · cases h

theorem build_of_isCall (h : IsCall name (args.map Argument.token) f) :
    build position name args = .ok f := by
  generalize hargs : args.map Argument.token = tokens at h
  cases h with
  | rowPrefix beginning =>
      obtain ⟨a, rfl, ha⟩ := List.map_eq_singleton_iff.mp hargs
      simp [build, bind_eq_ok_iff, Argument.text?_eq_ok_iff, ha]
  | columnPrefix beginning =>
      obtain ⟨a, rfl, ha⟩ := List.map_eq_singleton_iff.mp hargs
      simp [build, bind_eq_ok_iff, Argument.text?_eq_ok_iff, ha]
  | compare field hc =>
      cases field <;> exact buildCompare_eq_ok_iff.mpr ⟨_, _, _, hargs, hc, rfl⟩
  | columnValue family qualifier hc =>
      obtain ⟨a, rest, rfl, ha, hrest⟩ := List.map_eq_cons_iff.mp hargs
      obtain ⟨b, rest, rfl, hb, hrest⟩ := List.map_eq_cons_iff.mp hrest
      obtain ⟨c, rest, rfl, hcop, hrest⟩ := List.map_eq_cons_iff.mp hrest
      obtain ⟨d, rfl, hd⟩ := List.map_eq_singleton_iff.mp hrest
      simp [build, bind_eq_ok_iff, Argument.text?_eq_ok_iff, Argument.op?_eq_ok_iff,
        Argument.comparator?_eq_ok_iff, ha, hb, hcop, hd, hc]
  | firstOfRow =>
      rw [List.map_eq_nil_iff.mp hargs]
      rfl
  | keysOnly =>
      rw [List.map_eq_nil_iff.mp hargs]
      rfl

/-- Filters are built from the calls that stand for them, and from nothing else. -/
theorem build_eq_ok_iff :
    build position name args = .ok f ↔ IsCall name (args.map Argument.token) f :=
  ⟨isCall_of_build, build_of_isCall⟩

theorem IsCall.ne_skip {args : List Token} (h : IsCall name args f) : name ≠ "SKIP" := by
  cases h with
  | compare field _ => cases field <;> simp [FilterField.filterName]
  | rowPrefix | columnPrefix | columnValue | firstOfRow | keysOnly => simp

/-! ## Argument lists -/

def listed (first : Token) (others : List Token) : List Token :=
  first :: (others.flatMap (fun arg ↦ [.comma, arg]) ++ [.closeParen])

def parenthesized : List Token → List Token
  | [] => [.openParen, .closeParen]
  | first :: others => .openParen :: listed first others

def Token.isArgument : Token → Bool
  | .text _ | .op _ => true
  | .word _ | .openParen | .closeParen | .comma => false

theorem Lexeme.exists_argument {l : Lexeme} (h : l.token.isArgument) :
    ∃ a, l.argument? = some a ∧ a.token = l.token := by
  obtain ⟨position, token⟩ := l
  cases token with
  | text content => exact ⟨_, rfl, rfl⟩
  | op operator => exact ⟨_, rfl, rfl⟩
  | word | openParen | closeParen | comma => cases h

theorem argumentList_sound {stop : Nat} {ls rest : List Lexeme} {args : List Argument}
    (h : argumentList stop ls = .ok (args, rest)) :
    ∃ first others us, args = first :: others ∧ ls = us ++ rest ∧
      us.map Lexeme.token = listed first.token (others.map Argument.token) := by
  fun_induction argumentList stop ls generalizing args rest with
  | case1 | case2 | case3 | case4 | case6 | case8 => cases h
  | case5 a s rest' argument ha hs args' rest'' hrec ih =>
      cases h
      obtain ⟨first, others, us, rfl, rfl, hus⟩ := ih hrec
      refine ⟨argument, first :: others, a :: s :: us, rfl, rfl, ?_⟩
      rw [List.map_cons, List.map_cons, hus, hs, ← Lexeme.token_of_argument? ha]
      simp [listed]
  | case7 a s rest' argument ha hs hclose =>
      cases h
      refine ⟨argument, [], [a, s], rfl, rfl, ?_⟩
      simp [listed, Lexeme.token_of_argument? ha, hclose]

theorem argumentList_complete (stop : Nat) {us : List Lexeme} {first : Token}
    {others : List Token} (vs : List Lexeme) (hargs : ∀ t ∈ first :: others, t.isArgument)
    (hus : us.map Lexeme.token = listed first others) :
    ∃ args, args.map Argument.token = first :: others ∧
      argumentList stop (us ++ vs) = .ok (args, vs) := by
  induction others generalizing first us with
  | nil =>
      obtain ⟨l, us, rfl, rfl, htail⟩ := List.map_eq_cons_iff.mp hus
      obtain ⟨s, rfl, hs⟩ := List.map_eq_singleton_iff.mp htail
      obtain ⟨a, ha, hatoken⟩ := Lexeme.exists_argument (hargs _ List.mem_cons_self)
      exact ⟨[a], by simp [hatoken], by simp [argumentList, ha, hs]⟩
  | cons second others ih =>
      obtain ⟨l, us, rfl, rfl, htail⟩ := List.map_eq_cons_iff.mp hus
      obtain ⟨s, us, rfl, hs, hnext⟩ := List.map_eq_cons_iff.mp htail
      obtain ⟨a, ha, hatoken⟩ := Lexeme.exists_argument (hargs _ List.mem_cons_self)
      obtain ⟨args, hargs', hread⟩ := ih (List.forall_mem_cons.mp hargs).2 hnext
      exact ⟨a :: args, by simp [hatoken, hargs'], by simp [argumentList, ha, hs, hread]⟩

theorem expect_eq_ok_iff {stop : Nat} {wanted : Token} {ls rest : List Lexeme} :
    expect stop wanted ls = .ok rest ↔ ∃ l, ls = l :: rest ∧ l.token = wanted := by
  cases ls with
  | nil => simp [expect]
  | cons l ls =>
      by_cases h : l.token = wanted
      · simp [expect, h]
      · simp [expect, h]

/-- What is read as arguments was written in parentheses, with commas between. -/
theorem arguments_sound {stop : Nat} {ls rest : List Lexeme} {args : List Argument}
    (h : arguments stop ls = .ok (args, rest)) :
    ∃ us, ls = us ++ rest ∧ us.map Lexeme.token = parenthesized (args.map Argument.token) := by
  unfold arguments at h
  split at h
  · cases h
  · cases h
  · next l ls' hexpect =>
    obtain ⟨p, rfl, hp⟩ := expect_eq_ok_iff.mp hexpect
    split at h
    · next hclose =>
      cases h
      exact ⟨[p, l], rfl, by simp [parenthesized, hp, hclose]⟩
    · obtain ⟨first, others, us, rfl, hls, hus⟩ := argumentList_sound h
      exact ⟨p :: us, by rw [hls, List.cons_append], by simp [parenthesized, hp, hus]⟩

/-- Arguments in parentheses are read whatever comes after them. -/
theorem arguments_complete (stop : Nat) {us : List Lexeme} {ts : List Token} (vs : List Lexeme)
    (hargs : ∀ t ∈ ts, t.isArgument) (hus : us.map Lexeme.token = parenthesized ts) :
    ∃ args, args.map Argument.token = ts ∧ arguments stop (us ++ vs) = .ok (args, vs) := by
  cases ts with
  | nil =>
      obtain ⟨p, us, rfl, hp, htail⟩ := List.map_eq_cons_iff.mp hus
      obtain ⟨l, rfl, hl⟩ := List.map_eq_singleton_iff.mp htail
      exact ⟨[], rfl, by simp [arguments, expect, hp, hl]⟩
  | cons first others =>
      obtain ⟨p, us, rfl, hp, hlisted⟩ := List.map_eq_cons_iff.mp hus
      obtain ⟨args, hargs', hread⟩ := argumentList_complete stop vs hargs hlisted
      obtain ⟨l, us, rfl, hl, -⟩ := List.map_eq_cons_iff.mp hlisted
      have hfirst : l.token ≠ .closeParen := by
        rintro h
        rw [hl] at h
        have harg := hargs first List.mem_cons_self
        rw [h] at harg
        cases harg
      refine ⟨args, hargs', ?_⟩
      simp [arguments, expect, hp, hfirst, ← hread]

theorem IsCall.isArgument {name : String} {args : List Token} {f : Filter} (h : IsCall name args f) :
    ∀ t ∈ args, t.isArgument := by
  cases h <;> simp [Token.isArgument]

end Filter

end ColumnStore
