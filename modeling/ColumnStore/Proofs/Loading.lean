import ColumnStore.Proofs.Layers
import Mathlib.Data.List.Permutation

/-!
# Loading a resource file

The settings of a resource file are put in place one by one, in ascending order, until one of them turns
out to be no text, number or truth value. A file that cannot be read as an object leaves a configuration
alone. One that is refused for a setting leaves the settings before it behind, and only the list of files
as it was (`load_stages`).
-/

namespace ColumnStore

namespace Json

def Value.isScalar : Value → Bool
  | string _ | number _ | bool _ => true
  | null | array _ | object _ => false

/-! ## Order of fields -/

theorem eq_of_word {name s : List Char} {v v' : Value} {rest : Rest s}
    (h : word name v s = some (v', rest)) : v' = v := by
  unfold word at h
  split at h
  · cases h
    rfl
  · cases h

theorem unspaced_ne_object {s : List Char} {fields : List (String × Value)} {rest : Rest s} :
    unspaced s ≠ some (.object fields, rest) := by
  intro h
  unfold unspaced at h
  split at h
  · next hword =>
    cases h
    cases eq_of_word hword
  · split at h
    · next hword =>
      cases h
      cases eq_of_word hword
    · split at h
      · next hword =>
        cases h
        cases eq_of_word hword
      · split at h
        · cases h
        · obtain ⟨_, _, hnumber⟩ := Option.map_eq_some_iff.mp h
          cases hnumber

theorem scalar_ne_object {s : List Char} {fields : List (String × Value)} {rest : Rest s} :
    scalar s ≠ some (.object fields, rest) := by
  intro h
  unfold scalar at h
  split at h
  · cases h
  · next hunspaced =>
    cases h
    exact unspaced_ne_object hunspaced

theorem ascending_of_value {depth : Nat} {s : List Char} {fields : List (String × Value)}
    {rest : Rest s} (h : value depth s = some (.object fields, rest)) :
    fields.Pairwise (fun f g ↦ compare f.1 g.1 = .lt) := by
  cases depth with
  | zero => exact absurd h scalar_ne_object
  | succ depth =>
      unfold value at h
      split at h
      · split at h <;> cases h
      · split at h
        · split at h
          · cases h
          · -- An object is the entries of a map, and only this reader gives one.
            cases h
            exact OrderedMap.ascending _
        · exact absurd h scalar_ne_object

theorem ascending_of_read? {s : List Char} {fields : List (String × Value)}
    (h : Value.read? s = some (.object fields)) :
    fields.Pairwise (fun f g ↦ compare f.1 g.1 = .lt) := by
  unfold Value.read? at h
  split at h
  · cases h
  · next hvalue =>
    split at h
    · cases h
      exact ascending_of_value hvalue
    · cases h

end Json

namespace Files

def fieldsIn (files : Files) (path : String) : Except String (List (String × Json.Value)) :=
  match files.readText path with
  | .error reason => .error reason
  | .ok document => Configuration.documentFields files.explain document

theorem ascending_fieldsIn {files : Files} {path : String} {fields : List (String × Json.Value)}
    (h : files.fieldsIn path = .ok fields) :
    fields.Pairwise (fun f g ↦ compare f.1 g.1 = .lt) := by
  unfold fieldsIn at h
  split at h
  · cases h
  · unfold Configuration.documentFields at h
    split at h
    · cases h
    · next hread =>
      cases h
      exact Json.ascending_of_read? hread
    · cases h

end Files

namespace Configuration

open OrderedMap

theorem isSome_settingText? (v : Json.Value) : (settingText? v).isSome = v.isScalar := by
  cases v <;> rfl

/-! ## Applying fields -/

variable (c : Configuration) (fields : List (String × Json.Value))

/-- Applying fields fails at the first that is no scalar. -/
theorem applyFields_outcome :
    (c.applyFields fields).2 =
      (fields.find? (!·.2.isScalar)).map fun field ↦ nonScalar field.1 field.2 := by
  induction fields generalizing c with
  | nil => rfl
  | cons field fields ih =>
      obtain ⟨key, v⟩ := field
      rw [applyFields, List.find?_cons, ← isSome_settingText?]
      cases settingText? v with
      | none => rfl
      | some text => exact ih (c.set key text)

theorem resources_applyFields : (c.applyFields fields).1.resources = c.resources := by
  induction fields generalizing c with
  | nil => rfl
  | cons field fields ih =>
      obtain ⟨key, v⟩ := field
      rw [applyFields]
      cases settingText? v with
      | none => rfl
      | some text => exact ih (c.set key text)

variable {c fields}

/-- Fields lie over the settings of a configuration in another one. -/
def Overlaid (c : Configuration) (fields : List (String × Json.Value)) (d : Configuration) : Prop :=
  ∀ key, d.get? key = ((lookup key fields).bind settingText?).or (c.get? key)

theorem overlaid_applyFields (h : fields.Pairwise (fun f g ↦ compare f.1 g.1 = .lt)) :
    c.Overlaid (fields.takeWhile (·.2.isScalar)) (c.applyFields fields).1 := by
  intro key
  induction fields generalizing c with
  | nil => rfl
  | cons field fields ih =>
      obtain ⟨key', v⟩ := field
      obtain ⟨hhead, htail⟩ := List.pairwise_cons.mp h
      rw [applyFields, List.takeWhile_cons, ← isSome_settingText?]
      cases htext : settingText? v with
      | none => rfl
      | some text =>
          rw [Option.isSome_some, if_pos rfl, lookup]
          dsimp only
          rw [ih htail]
          by_cases hkey : key = key'
          · -- The other fields have greater keys, so none of them replaces this one.
            subst hkey
            have hothers : lookup key (fields.takeWhile (·.2.isScalar)) = none :=
              lookup_eq_none_of_lt fun field hfield ↦
                hhead field ((List.takeWhile_prefix _).subset hfield)
            rw [hothers, Option.bind_none, Option.none_or, get?_set_self, if_pos Std.ReflCmp.compare_self,
              Option.bind_some, htext, Option.some_or]
          · have hne : compare key key' ≠ .eq := fun heq ↦ hkey (Std.LawfulEqOrd.eq_of_compare heq)
            rw [get?_set_of_ne _ hkey, if_neg hne]

theorem Overlaid.eq_iff {before : List (String × Json.Value)} {d : Configuration}
    (h : c.Overlaid before d) (hresources : d.resources = c.resources)
    (hbefore : before.Pairwise (fun f g ↦ compare f.1 g.1 = .lt))
    (hscalar : ∀ field ∈ before, field.2.isScalar = true) :
    d = c ↔ ∀ field ∈ before, c.get? field.1 = settingText? field.2 := by
  constructor
  · rintro rfl field hfield
    obtain ⟨text, htext⟩ := Option.isSome_iff_exists.mp
      ((isSome_settingText? field.2).trans (hscalar field hfield))
    rw [h, lookup_of_mem hbefore hfield, Option.bind_some, htext, Option.some_or]
  · intro hsame
    have hsettings : d.settings = c.settings := by
      apply ext_get?
      intro key
      have hkey := h key
      cases hlookup : lookup key before with
      | none => rwa [hlookup, Option.bind_none, Option.none_or] at hkey
      | some v =>
          rw [hlookup, Option.bind_some, ← hsame _ (mem_of_lookup hlookup), Option.or_self] at hkey
          exact hkey
    cases d
    cases c
    cases hsettings
    cases hresources
    rfl

/-! ## Loading -/

variable (c) (files : Files) (path : String)

theorem load_eq : c.load files path =
    match files.fieldsIn path with
    | .error reason => (c, .error (.resource path reason))
    | .ok fields =>
      match fields.find? (!·.2.isScalar) with
      | some (key, v) => ((c.applyFields fields).1, .error (.resource path (nonScalar key v)))
      | none => ({ (c.applyFields fields).1 with resources := c.resources ++ [path] }, .ok ()) := by
  unfold load Files.fieldsIn
  cases files.readText path with
  | error reason => rfl
  | ok document =>
      dsimp only
      cases documentFields files.explain document with
      | error reason => rfl
      | ok fields =>
          have houtcome := c.applyFields_outcome fields
          have hresources := c.resources_applyFields fields
          dsimp only
          generalize c.applyFields fields = applied at houtcome hresources
          obtain ⟨d, outcome⟩ := applied
          subst houtcome
          rw [← hresources]
          cases fields.find? (!·.2.isScalar) <;> rfl

variable {files path}

theorem load_of_scalars (h : files.fieldsIn path = .ok fields)
    (hscalar : ∀ field ∈ fields, field.2.isScalar = true) :
    (c.load files path).2 = .ok () ∧ (c.load files path).1.resources = c.resources ++ [path] ∧
      c.Overlaid fields (c.load files path).1 := by
  have hnone : fields.find? (!·.2.isScalar) = none := by
    rw [List.find?_eq_none]
    intro field hfield
    simp [hscalar field hfield]
  have hover := c.overlaid_applyFields (Files.ascending_fieldsIn h)
  rw [List.takeWhile_eq_self_iff.mpr hscalar] at hover
  rw [load_eq, h]
  dsimp only
  rw [hnone]
  exact ⟨rfl, rfl, hover⟩

theorem load_of_refused {before after : List (String × Json.Value)} {key : String} {v : Json.Value}
    (h : files.fieldsIn path = .ok (before ++ (key, v) :: after))
    (hscalar : ∀ field ∈ before, field.2.isScalar = true) (hv : v.isScalar = false) :
    (c.load files path).2 = .error (.resource path (nonScalar key v)) ∧
      c.Overlaid before (c.load files path).1 := by
  have hfound : (before ++ (key, v) :: after).find? (!·.2.isScalar) = some (key, v) := by
    rw [List.find?_eq_some_iff_append]
    exact ⟨by simp [hv], before, after, rfl, fun field hfield ↦ by simp [hscalar field hfield]⟩
  have htake : (before ++ (key, v) :: after).takeWhile (·.2.isScalar) = before := by
    rw [List.takeWhile_append_of_pos hscalar, List.takeWhile_cons_of_neg (by simp [hv]),
      List.append_nil]
  have hover := c.overlaid_applyFields (Files.ascending_fieldsIn h)
  rw [htake] at hover
  rw [load_eq, h]
  dsimp only
  rw [hfound]
  exact ⟨rfl, hover⟩

theorem load_of_failed {e : StoreError} (h : (c.load files path).2 = .error e) :
    (∃ reason, e = .resource path reason) ∧ (c.load files path).1.resources = c.resources := by
  rw [load_eq] at h ⊢
  cases hfields : files.fieldsIn path with
  | error reason =>
      rw [hfields] at h
      cases h
      exact ⟨⟨reason, rfl⟩, rfl⟩
  | ok fields =>
      rw [hfields] at h
      dsimp only at h ⊢
      split at h
      · cases h
        exact ⟨⟨_, rfl⟩, c.resources_applyFields fields⟩
      · cases h

/-- A file is loaded exactly if it holds an object of nothing but scalars. -/
theorem load_eq_ok_iff : (c.load files path).2 = .ok () ↔
    ∃ fields, files.fieldsIn path = .ok fields ∧ ∀ field ∈ fields, field.2.isScalar = true := by
  constructor
  · intro h
    rw [load_eq] at h
    split at h
    · cases h
    · next fields hfields =>
      split at h
      · cases h
      · next hnone =>
        rw [List.find?_eq_none] at hnone
        exact ⟨fields, hfields, fun field hfield ↦ by simpa using hnone field hfield⟩
  · rintro ⟨fields, hfields, hscalar⟩
    exact (c.load_of_scalars hfields hscalar).1

/-- Loading a file either puts all of its settings in place and lists the file, or leaves the list alone.
It then leaves the settings alone too, unless the file has settings before the first one that is refused:
those are put in place. -/
theorem load_stages (c : Configuration) (files : Files) (path : String) :
    ((c.load files path).2 = .ok () ↔
      ∃ fields, files.fieldsIn path = .ok fields ∧ ∀ field ∈ fields, field.2.isScalar = true) ∧
    (∀ fields, files.fieldsIn path = .ok fields → (∀ field ∈ fields, field.2.isScalar = true) →
      (c.load files path).1.resources = c.resources ++ [path] ∧
      c.Overlaid fields (c.load files path).1) ∧
    (∀ e, (c.load files path).2 = .error e →
      (∃ reason, e = .resource path reason) ∧ (c.load files path).1.resources = c.resources) ∧
    (∀ reason, files.fieldsIn path = .error reason →
      c.load files path = (c, .error (.resource path reason))) ∧
    (∀ before key v after, files.fieldsIn path = .ok (before ++ (key, v) :: after) →
      (∀ field ∈ before, field.2.isScalar = true) → v.isScalar = false →
        (c.load files path).2 = .error (.resource path (nonScalar key v)) ∧
        c.Overlaid before (c.load files path).1 ∧
        ((c.load files path).1 = c ↔ ∀ field ∈ before, c.get? field.1 = settingText? field.2)) ∧
    ∀ fields, files.fieldsIn path = .ok fields →
      fields.Pairwise fun field field' ↦ compare field.1 field'.1 = .lt := by
  refine ⟨c.load_eq_ok_iff, ?_, fun e ↦ c.load_of_failed, ?_, ?_,
    fun fields ↦ Files.ascending_fieldsIn⟩
  · intro fields hfields hscalar
    exact (c.load_of_scalars hfields hscalar).2
  · intro reason hreason
    rw [load_eq, hreason]
  · intro before key v after hfields hscalar hv
    obtain ⟨houtcome, hover⟩ := c.load_of_refused hfields hscalar hv
    have hresources := (c.load_of_failed houtcome).2
    have hascending := (List.pairwise_append.mp (Files.ascending_fieldsIn hfields)).1
    exact ⟨houtcome, hover, hover.eq_iff hresources hascending hscalar⟩

def refusedText : String :=
  "\x7b\"a\":\"1\",\"b\":null\x7d"

def acceptedText : String :=
  "\x7b\"b\":true\x7d"

/-- Two files, one of them in a directory of its own. -/
def sampleFiles : Files where
  read
    | "a.json" => .ok (Bytes.ofString refusedText)
    | "/etc/store/b.json" => .ok (Bytes.ofString acceptedText)
    | _ => .error "No such file or directory (os error 2)"
  explain _ := "expected value at line 1 column 1"

theorem fieldsIn_sampleFiles :
    sampleFiles.fieldsIn "a.json" = .ok ([("a", .string "1")] ++ ("b", .null) :: []) := by
  have hread : sampleFiles.readText "a.json" = .ok refusedText.toList := by decide +kernel
  rw [Files.fieldsIn, hread]
  cbv

theorem load_sampleFiles :
    (sampleFiles.fieldsIn "a.json" = .ok ([("a", .string "1")] ++ ("b", .null) :: []) ∧
      (empty.load sampleFiles "a.json").2 =
        .error (.resource "a.json" "setting `b` has non-scalar value null") ∧
      (empty.load sampleFiles "a.json").1.get? "a" = some "1") ∧
    (sampleFiles.fieldsIn "/etc/store/b.json" = .ok [("b", .bool true)] ∧
      (empty.load sampleFiles "/etc/store/b.json").1.resources = ["/etc/store/b.json"] ∧
      (empty.load sampleFiles "/etc/store/b.json").1.get? "b" = some "true") ∧
    sampleFiles.fieldsIn "c.json" = .error "No such file or directory (os error 2)" ∧
      empty.load sampleFiles "c.json" =
        (empty, .error (.resource "c.json" "No such file or directory (os error 2)")) := by
  have hread : sampleFiles.readText "/etc/store/b.json" = .ok acceptedText.toList := by decide +kernel
  have hfields : sampleFiles.fieldsIn "/etc/store/b.json" = .ok [("b", .bool true)] := by
    rw [Files.fieldsIn, hread]
    cbv
  have hmissing : sampleFiles.fieldsIn "c.json" =
      .error "No such file or directory (os error 2)" := rfl
  obtain ⟨-, -, -, -, hrefused, -⟩ := load_stages empty sampleFiles "a.json"
  obtain ⟨-, hloaded, -⟩ := load_stages empty sampleFiles "/etc/store/b.json"
  obtain ⟨-, -, -, hunread, -⟩ := load_stages empty sampleFiles "c.json"
  obtain ⟨houtcome, hbefore, -⟩ := hrefused _ _ _ _ fieldsIn_sampleFiles (by decide) rfl
  obtain ⟨hresources, hover⟩ := hloaded _ hfields (by decide)
  exact ⟨⟨fieldsIn_sampleFiles, houtcome, hbefore "a"⟩, ⟨hfields, hresources, hover "b"⟩, hmissing,
    hunread _ hmissing⟩

/-- A file that is refused can change the settings. -/
theorem load_not_atomic :
    (empty.load sampleFiles "a.json").2 =
        .error (.resource "a.json" "setting `b` has non-scalar value null") ∧
      (empty.load sampleFiles "a.json").1.get? "a" = some "1" ∧
      ¬∀ (c : Configuration) (files : Files) (path : String),
        (c.load files path).2 = .ok () ∨ (c.load files path).1 = c := by
  obtain ⟨houtcome, hbefore⟩ := empty.load_of_refused fieldsIn_sampleFiles (by decide) rfl
  refine ⟨houtcome, hbefore "a", fun hatomic ↦ ?_⟩
  rcases hatomic empty sampleFiles "a.json" with hok | hsame
  · rw [houtcome] at hok
    cases hok
  · have hleft := hbefore "a"
    rw [hsame] at hleft
    cases hleft

end Configuration

end ColumnStore
