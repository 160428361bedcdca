import ColumnStore.Proofs.Lifecycle
import ColumnStore.Proofs.PlainText

/-!
# What validation lets through

Validation takes a list of resource files for given as soon as the text is not blank, while blank parts
of it are no paths. Both agree unless the list has commas and else just white space (`OnlyCommas`). Such
a list names no file, yet it passes for one: settings that are not given have their defaults then.
-/

namespace ColumnStore

namespace ClientConfig

/-- What is given is neither blank nor zero. -/
structure Usable (c : ClientConfig) : Prop where
  quorum : ∀ quorum, c.quorum = some quorum → ¬Text.isAllBlank quorum
  port : c.port ≠ some 0
  parent : ∀ parent, c.parent = some parent → ¬Text.isAllBlank parent
  retries : c.retries ≠ some 0
  overrides : ∀ entry ∈ c.overrides, ¬Text.isAllBlank entry.1 ∧ entry.2 ≠ ""

/-- The list of resource files is nothing but commas, at least one, and white space. -/
def OnlyCommas (c : ClientConfig) : Prop :=
  ∃ files, c.resourceFiles = some files ∧ ',' ∈ files.toList ∧
    ∀ char ∈ files.toList, char = ',' ∨ Text.isBlank char

/-! ## Resource files -/

theorem resourcePaths_eq_nil_iff (c : ClientConfig) :
    c.resourcePaths = [] ↔ ∀ files, c.resourceFiles = some files →
      ∀ char ∈ files.toList, char = ',' ∨ Text.isBlank char := by
  rw [resourcePaths]
  cases hfiles : c.resourceFiles with
  | none => simp
  | some files =>
      dsimp only
      rw [Text.filter_trim_split_eq_nil_iff]
      simp

theorem OnlyCommas.resourcePaths_eq_nil {c : ClientConfig} (h : c.OnlyCommas) :
    c.resourcePaths = [] := by
  obtain ⟨files, hfiles, -, hchars⟩ := h
  rw [resourcePaths_eq_nil_iff]
  intro files' hfiles'
  rw [hfiles] at hfiles'
  exact Option.some.inj hfiles' ▸ hchars

theorem hasFiles_iff (c : ClientConfig) : c.hasFiles ↔ c.resourcePaths ≠ [] ∨ c.OnlyCommas := by
  rw [ne_eq, resourcePaths_eq_nil_iff, hasFiles, OnlyCommas]
  cases hfiles : c.resourceFiles with
  | none => simp
  | some files =>
      have hcomma : Text.isBlank ',' = false := by decide
      simp only [Option.any_some, Bool.not_eq_true', ← Bool.not_eq_true, Text.isAllBlank_iff,
        Option.some.injEq, forall_eq', exists_eq_left']
      constructor
      -- Where no path is left, what keeps the text from being blank is a comma.
      · intro h
        by_cases hchars : ∀ char ∈ files.toList, char = ',' ∨ Text.isBlank char
        · refine .inr ⟨?_, hchars⟩
          by_contra hnone
          apply h
          intro char hchar
          rcases hchars char hchar with rfl | hblank
          · exact absurd hchar hnone
          · exact hblank
        · exact .inl hchars
      · rintro (hother | ⟨hmem, -⟩) hblank
        · exact hother fun char hchar ↦ .inr (hblank char hchar)
        · have h := hblank ',' hmem
          rw [hcomma] at h
          cases h

/-! ## Settings -/

theorem overrideFault?_eq_none_iff (overrides : List (String × String)) :
    overrideFault? overrides = none ↔
      ∀ entry ∈ overrides, ¬Text.isAllBlank entry.1 ∧ entry.2 ≠ "" := by
  induction overrides with
  | nil => simp [overrideFault?]
  | cons entry rest ih =>
      obtain ⟨key, value⟩ := entry
      rw [overrideFault?, List.forall_mem_cons, ← ih, ne_eq, ← String.isEmpty_iff]
      split
      · next hkey => simp [hkey]
      · next hkey =>
        split
        · next hvalue => simp [hvalue]
        · next hvalue => simp [hkey, hvalue]

theorem ite_some_eq_none_iff {p : Prop} [Decidable p] {fault : ConfigFault}
    {rest : Option ConfigFault} : (if p then some fault else rest) = none ↔ ¬p ∧ rest = none := by
  by_cases hp : p <;> simp [hp]

theorem fault?_eq_none_iff (c : ClientConfig) :
    c.fault? = none ↔ (c.hasFiles ∨ c.hasAllNamed) ∧ c.Usable := by
  simp only [fault?, ite_some_eq_none_iff, overrideFault?_eq_none_iff]
  have hgiven : ¬(!c.hasFiles && !c.hasAllNamed) ↔ c.hasFiles ∨ c.hasAllNamed := by
    cases c.hasFiles <;> cases c.hasAllNamed <;> decide
  have hblank : ∀ text : Option String, ¬text.any Text.isAllBlank ↔
      ∀ s, text = some s → ¬Text.isAllBlank s := by
    intro text
    cases text <;> simp
  rw [hgiven, hblank, hblank]
  constructor
  · rintro ⟨hgiven, hquorum, hport, hparent, hretries, hoverrides⟩
    exact ⟨hgiven, hquorum, hport, hparent, hretries, hoverrides⟩
  · rintro ⟨hgiven, husable⟩
    exact ⟨hgiven, husable.quorum, husable.port, husable.parent, husable.retries, husable.overrides⟩

theorem validate_eq_ok_iff (c : ClientConfig) :
    c.validate = .ok () ↔ (c.resourcePaths ≠ [] ∨ c.OnlyCommas ∨ c.hasAllNamed) ∧ c.Usable := by
  have hok : c.validate = .ok () ↔ c.fault? = none := by
    rw [validate]
    cases c.fault? <;> simp
  rw [hok, fault?_eq_none_iff, hasFiles_iff, or_assoc]

theorem OnlyCommas.resolve_eq {c : ClientConfig} (h : c.OnlyCommas) (files : Files) :
    c.resolve files = .ok (c.applyOverrides (c.applyNamed .defaults)) := by
  rw [resolve, h.resourcePaths_eq_nil]
  rfl

/-! ## Enabling -/

theorem enable_refuses_iff {σ : Type} [Store σ] (s : Service σ) (store : σ) (files : Files)
    (c : ClientConfig) :
    (∃ fault, (s.enable store files c).result = .error (.configValidation fault)) ↔
      c.validate ≠ .ok () := by
  cases hvalid : c.validate with
  | error fault =>
      rw [Service.enable_of_invalid s store files hvalid]
      simp
  | ok _ =>
      simp only [ne_eq, not_true_eq_false, iff_false, not_exists, Service.enable, hvalid]
      intro fault
      split
      · simp
      · cases (Service.establish store files c).result <;> simp

/-- Validation accepts exactly what names a file or sets everything, and nothing that is blank or zero,
apart from lists of files with commas alone. -/
theorem validate_exact (c : ClientConfig) :
    (c.validate = .ok () ↔
      (c.resourcePaths ≠ [] ∨ c.OnlyCommas ∨ c.hasAllNamed) ∧ c.Usable) ∧
    (c.OnlyCommas → c.resourcePaths = [] ∧
      ∀ files, c.resolve files = .ok (c.applyOverrides (c.applyNamed .defaults))) ∧
    ∀ (σ : Type) [Store σ] (s : Service σ) (store : σ) (files : Files),
      (∀ fault, (s.enable store files c).result ≠ .error (.configValidation fault)) ↔
        (c.resourcePaths ≠ [] ∨ c.OnlyCommas ∨ c.hasAllNamed) ∧ c.Usable := by
  refine ⟨c.validate_eq_ok_iff, fun h ↦ ⟨h.resourcePaths_eq_nil, h.resolve_eq⟩, ?_⟩
  intro σ _ s store files
  have hrefuses := enable_refuses_iff s store files c
  rw [← not_exists, hrefuses, not_not]
  exact c.validate_eq_ok_iff

def commaSample : ClientConfig where
  resourceFiles := some ","

/-- A list with one comma names no file and nothing else is set, yet it is valid, and it resolves to the
defaults. -/
theorem validate_commaSample :
    ¬(commaSample.validate = .ok () ↔
      (commaSample.resourcePaths ≠ [] ∨ commaSample.hasAllNamed) ∧ commaSample.Usable) ∧
    ∀ files, commaSample.resolve files = .ok .defaults := by
  have htext : (",").toList = [','] := rfl
  have hcommas : commaSample.OnlyCommas := by
    refine ⟨",", rfl, ?_, ?_⟩
    · rw [htext]
      exact List.mem_singleton_self ','
    · rw [htext]
      intro char hchar
      exact .inl (List.mem_singleton.mp hchar)
  have hvalid : commaSample.validate = .ok () := rfl
  constructor
  · intro h
    rcases (h.mp hvalid).1 with hpaths | hnamed
    · exact hpaths hcommas.resourcePaths_eq_nil
    · cases hnamed
  · intro files
    rw [hcommas.resolve_eq]
    rfl

end ClientConfig

end ColumnStore
