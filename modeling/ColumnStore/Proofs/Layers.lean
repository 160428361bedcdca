import ColumnStore.Client.Config
import ColumnStore.Proofs.PlainText
import Mathlib.Data.List.Induction

/-!
# Layers of settings

What a client is given is laid over the defaults in layers: resource files in order, then the named
settings, then the overrides. The last layer with a setting decides on it (`ClientConfig.textOf`). A
file counts as a whole, since the first one that is refused ends it all (`Files.refusal?`).
-/

namespace ColumnStore

/-- The text under a key in a list of settings, of which a later one replaces an earlier one. -/
def lastOf (settings : List (String × String)) (key : String) : Option String :=
  (settings.findRev? (·.1 = key)).map Prod.snd

theorem lastOf_concat (settings : List (String × String)) (setting : String × String) (key : String) :
    lastOf (settings ++ [setting]) key =
      if setting.1 = key then some setting.2 else lastOf settings key := by
  simp only [lastOf, List.findRev?_eq_find?_reverse, List.reverse_append, List.reverse_singleton,
    List.singleton_append, List.find?_cons]
  by_cases hkey : setting.1 = key <;> simp [hkey]

/-! ## Resource files -/

def Configuration.fieldText (field : String × Json.Value) : Except String (String × String) :=
  match settingText? field.2 with
  | some text => .ok (field.1, text)
  | none => .error (nonScalar field.1 field.2)

namespace Files

/-- The settings in a resource file, or why it is refused. -/
def settingsIn (files : Files) (path : String) : Except String (List (String × String)) :=
  match files.readText path with
  | .error reason => .error reason
  | .ok document =>
    match Configuration.documentFields files.explain document with
    | .error reason => .error reason
    | .ok fields => fields.mapM Configuration.fieldText

/-- The error for a resource file, unless it can be loaded. -/
def refusal? (files : Files) (path : String) : Option StoreError :=
  match files.settingsIn path with
  | .error reason => some (.resource path reason)
  | .ok _ => none

def textIn (files : Files) (path key : String) : Option String :=
  match files.settingsIn path with
  | .error _ => none
  | .ok settings => lastOf settings key

end Files

namespace Configuration

/-! ## Laying settings over a configuration -/

def overlay (c : Configuration) (settings : List (String × String)) : Configuration :=
  settings.foldl (fun c setting ↦ c.set setting.1 setting.2) c

theorem overlay_cons (c : Configuration) (setting : String × String)
    (settings : List (String × String)) :
    c.overlay (setting :: settings) = (c.set setting.1 setting.2).overlay settings := rfl

theorem overlay_concat (c : Configuration) (settings : List (String × String))
    (setting : String × String) :
    c.overlay (settings ++ [setting]) = (c.overlay settings).set setting.1 setting.2 :=
  List.foldl_append

/-- Settings laid over others come first, and of these the last one for a key. -/
theorem get?_overlay (c : Configuration) (settings : List (String × String)) (key : String) :
    (c.overlay settings).get? key = (lastOf settings key).or (c.get? key) := by
  induction settings using List.reverseRecOn with
  | nil => rfl
  | append_singleton settings setting ih =>
      rw [overlay_concat, lastOf_concat]
      by_cases hkey : setting.1 = key
      · subst hkey
        rw [get?_set_self, if_pos rfl, Option.some_or]
      · rw [get?_set_of_ne _ (Ne.symm hkey), if_neg hkey, ih]

theorem resources_overlay (c : Configuration) (settings : List (String × String)) :
    (c.overlay settings).resources = c.resources := by
  induction settings generalizing c with
  | nil => rfl
  | cons setting settings ih => rw [overlay_cons, ih, resources_set]

/-- Fields that all have texts are laid over what is there. Otherwise applying them fails. -/
theorem applyFields_cases (c : Configuration) (fields : List (String × Json.Value)) :
    (∃ reason, fields.mapM fieldText = .error reason ∧ (c.applyFields fields).2 = some reason) ∨
      ∃ settings, fields.mapM fieldText = .ok settings ∧
        c.applyFields fields = (c.overlay settings, none) := by
  -- A field is set before the next one is read, so the configuration varies.
  induction fields generalizing c with
  | nil => exact .inr ⟨[], rfl, rfl⟩
  | cons field fields ih =>
      obtain ⟨key, v⟩ := field
      rw [List.mapM_cons, applyFields, fieldText]
      cases htext : settingText? v with
      | none => exact .inl ⟨_, rfl, rfl⟩
      | some text =>
          rcases ih (c.set key text) with ⟨reason, hfields, happly⟩ | ⟨settings, hfields, happly⟩
          · exact .inl ⟨reason, by simp [hfields, bind, Except.bind], happly⟩
          · refine .inr ⟨(key, text) :: settings, ?_, happly⟩
            simp [hfields, bind, Except.bind, pure, Except.pure]

/-- A resource file is refused with its error, or laid over what was there and listed. -/
theorem load_cases (c : Configuration) (files : Files) (path : String) :
    (∃ e, files.refusal? path = some e ∧ (c.load files path).2 = .error e) ∨
      ∃ settings, files.settingsIn path = .ok settings ∧
        c.load files path =
          ({ c.overlay settings with resources := c.resources ++ [path] }, .ok ()) := by
  unfold Files.refusal? load Files.settingsIn
  cases files.readText path with
  | error reason => exact .inl ⟨_, rfl, rfl⟩
  | ok document =>
      dsimp only
      cases documentFields files.explain document with
      | error reason => exact .inl ⟨_, rfl, rfl⟩
      | ok fields =>
          dsimp only
          rcases c.applyFields_cases fields with ⟨reason, hfields, happly⟩ | ⟨settings, hfields, happly⟩
          · rw [hfields]
            generalize c.applyFields fields = applied at happly
            obtain ⟨applied, outcome⟩ := applied
            obtain rfl : outcome = some reason := happly
            exact .inl ⟨_, rfl, rfl⟩
          · rw [hfields, happly, ← c.resources_overlay settings]
            exact .inr ⟨settings, rfl, rfl⟩

theorem refusal?_of_settingsIn {files : Files} {path : String} {settings : List (String × String)}
    (h : files.settingsIn path = .ok settings) : files.refusal? path = none := by
  rw [Files.refusal?, h]

/-- Whether a file is refused does not depend on what it is laid over. -/
theorem load_outcome (c : Configuration) (files : Files) (path : String) :
    (c.load files path).2 = (files.refusal? path).elim (.ok ()) .error := by
  rcases c.load_cases files path with ⟨e, hrefusal, hload⟩ | ⟨settings, hsettings, hload⟩
  · rw [hload, hrefusal, Option.elim_some]
  · rw [hload, refusal?_of_settingsIn hsettings, Option.elim_none]

theorem loadAll_of_refused {files : Files} {paths : List String} {e : StoreError}
    (h : paths.findSome? files.refusal? = some e) (c : Configuration) :
    c.loadAll files paths = .error e := by
  induction paths generalizing c with
  | nil => cases h
  | cons path paths ih =>
      rw [List.findSome?_cons] at h
      rw [loadAll]
      rcases c.load_cases files path with ⟨e', hrefusal, hload⟩ | ⟨settings, hsettings, hload⟩
      · rw [hrefusal] at h
        obtain rfl : e' = e := Option.some.inj h
        generalize c.load files path = loaded at hload
        obtain ⟨c', outcome⟩ := loaded
        obtain rfl : outcome = .error e' := hload
        rfl
      · rw [refusal?_of_settingsIn hsettings] at h
        rw [hload]
        exact ih h _

theorem loadAll_of_not_refused {files : Files} {paths : List String}
    (h : ∀ path ∈ paths, files.refusal? path = none) (c : Configuration) :
    ∃ conf, c.loadAll files paths = .ok conf ∧ conf.resources = c.resources ++ paths ∧
      ∀ key, conf.get? key =
        (paths.reverse.findSome? (files.textIn · key)).or (c.get? key) := by
  induction paths generalizing c with
  | nil => exact ⟨c, rfl, (List.append_nil _).symm, fun key ↦ rfl⟩
  | cons path paths ih =>
      have hpath : files.refusal? path = none := h path List.mem_cons_self
      rcases c.load_cases files path with ⟨e, hrefusal, -⟩ | ⟨settings, hsettings, hload⟩
      · rw [hpath] at hrefusal
        cases hrefusal
      · obtain ⟨conf, hconf, hresources, htexts⟩ := ih
          (fun path' hpath' ↦ h path' (List.mem_cons_of_mem path hpath'))
          { c.overlay settings with resources := c.resources ++ [path] }
        refine ⟨conf, ?_, ?_, fun key ↦ ?_⟩
        · rw [loadAll, hload]
          exact hconf
        · rw [hresources, List.append_assoc, List.singleton_append]
        · have hhere : files.textIn path key = lastOf settings key := by
            rw [Files.textIn, hsettings]
          have hbelow := c.get?_overlay settings key
          rw [htexts, List.reverse_cons, List.findSome?_append, List.findSome?_singleton, hhere,
            Option.or_assoc, ← hbelow]
          rfl

theorem port?_of_get? {conf : Configuration} {key : String} {port : UInt16}
    (h : conf.get? key = some port.toNat.repr) : conf.port? key = .ok (some port) := by
  rw [port?, number?, h]
  simp only [Text.readUInt16_trim_repr]

theorem count?_of_get? {conf : Configuration} {key : String} {count : UInt32}
    (h : conf.get? key = some count.toNat.repr) : conf.count? key = .ok (some count) := by
  rw [count?, number?, h]
  simp only [Text.readUInt32_trim_repr]

end Configuration

namespace ClientConfig

/-! ## Named settings -/

def named? (c : ClientConfig) (key : String) : Option String :=
  if key = Setting.quorum then c.quorum
  else if key = Setting.clientPort then c.port.map (·.toNat.repr)
  else if key = Setting.znodeParent then c.parent
  else if key = Setting.retries then c.retries.map (·.toNat.repr)
  else none

theorem get?_layer (conf : Configuration) (key key' : String) (text : Option String) :
    (layer conf key text).get? key' =
      if key' = key then text.or (conf.get? key') else conf.get? key' := by
  cases text with
  | none => simp [layer]
  | some value =>
      rw [layer]
      by_cases hkey : key' = key
      · subst hkey
        rw [Configuration.get?_set_self, if_pos rfl, Option.some_or]
      · rw [Configuration.get?_set_of_ne _ hkey, if_neg hkey]

theorem resources_layer (conf : Configuration) (key : String) (text : Option String) :
    (layer conf key text).resources = conf.resources := by
  cases text <;> rfl

theorem get?_applyNamed (c : ClientConfig) (conf : Configuration) (key : String) :
    (c.applyNamed conf).get? key = (c.named? key).or (conf.get? key) := by
  simp only [applyNamed, get?_layer, named?]
  -- The names are four different ones, so at most one of the layers is under the key.
  by_cases hquorum : key = Setting.quorum
  · subst hquorum
    rfl
  by_cases hport : key = Setting.clientPort
  · subst hport
    rfl
  by_cases hparent : key = Setting.znodeParent
  · subst hparent
    rfl
  by_cases hretries : key = Setting.retries
  · subst hretries
    rfl
  rw [if_neg hquorum, if_neg hport, if_neg hparent, if_neg hretries, if_neg hquorum, if_neg hport,
    if_neg hparent, if_neg hretries, Option.none_or]

theorem resources_applyNamed (c : ClientConfig) (conf : Configuration) :
    (c.applyNamed conf).resources = conf.resources := by
  simp only [applyNamed, resources_layer]

/-! ## All layers -/

/-- What the last layer with a setting says. -/
def textOf (c : ClientConfig) (files : Files) (key : String) : Option String :=
  (lastOf c.overrides key).or <|
    (c.named? key).or <|
      (c.resourcePaths.reverse.findSome? (files.textIn · key)).or (Configuration.defaults.get? key)

theorem resolve_of_refused {c : ClientConfig} {files : Files} {e : StoreError}
    (h : c.resourcePaths.findSome? files.refusal? = some e) : c.resolve files = .error e := by
  rw [resolve, Configuration.loadAll_of_refused h]

theorem resolve_of_not_refused {c : ClientConfig} {files : Files}
    (h : ∀ path ∈ c.resourcePaths, files.refusal? path = none) :
    ∃ conf, c.resolve files = .ok conf ∧ conf.resources = c.resourcePaths ∧
      ∀ key, conf.get? key = c.textOf files key := by
  obtain ⟨conf, hload, hresources, htexts⟩ :=
    Configuration.loadAll_of_not_refused h Configuration.defaults
  refine ⟨(c.applyNamed conf).overlay c.overrides, ?_, ?_, fun key ↦ ?_⟩
  · rw [resolve, hload]
    rfl
  · rw [Configuration.resources_overlay, resources_applyNamed, hresources]
    rfl
  · rw [Configuration.get?_overlay, get?_applyNamed, htexts, textOf]

theorem exists_resolve_iff (c : ClientConfig) (files : Files) :
    (∃ conf, c.resolve files = .ok conf) ↔
      ∀ path ∈ c.resourcePaths, files.refusal? path = none := by
  constructor
  · rintro ⟨conf, hconf⟩
    rw [← List.findSome?_eq_none_iff]
    cases hrefused : c.resourcePaths.findSome? files.refusal? with
    | none => rfl
    | some e =>
        rw [resolve_of_refused hrefused] at hconf
        cases hconf
  · intro h
    obtain ⟨conf, hconf, -⟩ := resolve_of_not_refused h
    exact ⟨conf, hconf⟩

theorem resolve_eq_error_iff (c : ClientConfig) (files : Files) (e : StoreError) :
    c.resolve files = .error e ↔ c.resourcePaths.findSome? files.refusal? = some e := by
  refine ⟨fun h ↦ ?_, resolve_of_refused⟩
  cases hrefused : c.resourcePaths.findSome? files.refusal? with
  | none =>
      obtain ⟨conf, hconf, -⟩ := resolve_of_not_refused (List.findSome?_eq_none_iff.mp hrefused)
      rw [hconf] at h
      cases h
  | some e' =>
      rw [resolve_of_refused hrefused] at h
      rw [Except.error.inj h]

/-- Resolving gives every setting the text of its last layer, unless a resource file is refused. -/
theorem resolve_layers (c : ClientConfig) (files : Files) :
    (∀ (base : Configuration) (path : String),
      (base.load files path).2 = (files.refusal? path).elim (.ok ()) .error) ∧
    ((∃ conf, c.resolve files = .ok conf) ↔
      ∀ path ∈ c.resourcePaths, files.refusal? path = none) ∧
    (∀ e, c.resolve files = .error e ↔ c.resourcePaths.findSome? files.refusal? = some e) ∧
    ∀ conf, c.resolve files = .ok conf →
      (∀ key, conf.get? key = c.textOf files key) ∧
      conf.resources = c.resourcePaths ∧
      (∀ port, c.port = some port → lastOf c.overrides Setting.clientPort = none →
        conf.port? Setting.clientPort = .ok (some port)) ∧
      ∀ count, c.retries = some count → lastOf c.overrides Setting.retries = none →
        conf.count? Setting.retries = .ok (some count) := by
  refine ⟨fun base path ↦ base.load_outcome files path, c.exists_resolve_iff files,
    c.resolve_eq_error_iff files, fun conf hconf ↦ ?_⟩
  obtain ⟨conf', hconf', hresources, htexts⟩ :=
    resolve_of_not_refused ((c.exists_resolve_iff files).mp ⟨conf, hconf⟩)
  obtain rfl : conf = conf' := Except.ok.inj (hconf.symm.trans hconf')
  refine ⟨htexts, hresources, ?_, ?_⟩
  · intro port hport hnot
    apply Configuration.port?_of_get?
    have hnamed : c.named? Setting.clientPort = some port.toNat.repr := by
      simp [named?, hport, Setting.clientPort, Setting.quorum]
    rw [htexts, textOf, hnot, hnamed]
    rfl
  · intro count hcount hnot
    apply Configuration.count?_of_get?
    have hnamed : c.named? Setting.retries = some count.toNat.repr := by
      simp [named?, hcount, Setting.clientPort, Setting.quorum, Setting.znodeParent, Setting.retries]
    rw [htexts, textOf, hnot, hnamed]
    rfl

/-- One resource file, in a directory of its own, with a setting that is also named. -/
def layeredFiles : Files where
  read
    | "/etc/store/a.json" =>
      .ok (Bytes.ofString "\x7b\"b\":true,\"hbase.client.retries.number\":3\x7d")
    | _ => .error "No such file or directory (os error 2)"
  explain _ := "expected value at line 1 column 1"

def layeredSample : ClientConfig where
  resourceFiles := some " /etc/store/a.json,"
  retries := some 7

example : (layeredSample.resolve layeredFiles).toOption.map
      (fun conf ↦ (conf.resources, conf.get? "b", conf.get? Setting.retries)) =
    some (["/etc/store/a.json"], some "true", some "7") := by
  decide +kernel

end ClientConfig

end ColumnStore
