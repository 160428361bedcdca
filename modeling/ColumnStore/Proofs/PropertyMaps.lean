import ColumnStore.Client.Config
import ColumnStore.Proofs.Numerals
import ColumnStore.Proofs.TextOrder
import Mathlib.Data.List.Induction

/-!
# Clients as properties

The properties that a host passes are taken one by one, and each has one place in what the client is
given: a known name is a setting, any other name is an override (`Given`). Only the two numbers can be
refused, and the first one that cannot be read is.
-/

namespace ColumnStore

namespace OrderedMap

open Std

variable {κ : Type} {α : Type} [Ord κ] [TransOrd κ]

theorem compare_of_find? (m : OrderedMap κ α) {test : κ × α → Bool} {e f : κ × α}
    (he : m.entries.find? test = some e) (hf : f ∈ m.entries) (htest : test f) :
    (compare e.1 f.1).isLE := by
  obtain ⟨-, before, after, hentries, hbefore⟩ := List.find?_eq_some_iff_append.mp he
  have hascending := m.ascending
  rw [hentries, List.pairwise_append, List.pairwise_cons] at hascending
  rw [hentries, List.mem_append, List.mem_cons] at hf
  rcases hf with hf | rfl | hf
  · exact absurd htest (by simpa using hbefore f hf)
  · rw [ReflOrd.compare_self]
    rfl
  · rw [hascending.2.1.1 f hf]
    rfl

theorem mem_ofList [LawfulEqOrd κ] [DecidableEq κ] {es : List (κ × α)}
    (h : (es.map Prod.fst).Nodup) {e : κ × α} : e ∈ (ofList es).entries ↔ e ∈ es := by
  -- The last entry of the list is the last one that is inserted, so the induction is from the end.
  induction es using List.reverseRecOn with
  | nil => rfl
  | append_singleton es f ih =>
      rw [List.map_append, List.nodup_append'] at h
      obtain ⟨hes, -, hfresh⟩ := h
      have hinsert : ofList (es ++ [f]) = (ofList es).insert f.1 f.2 := by
        rw [ofList, List.foldl_append]
        rfl
      rw [hinsert, mem_entries_iff, get?_insert, List.mem_append, List.mem_singleton]
      by_cases hkey : e.1 = f.1
      · have hne : e ∉ es := fun he ↦
          hfresh (List.mem_map_of_mem he) (by simp [hkey])
        simp [hkey, hne, Prod.ext_iff, eq_comm]
      · have hne : e ≠ f := fun he ↦ hkey (congrArg Prod.fst he)
        rw [if_neg hkey, ← mem_entries_iff, ih hes, or_iff_left hne]

end OrderedMap

namespace ClientConfig

/-! ## Settings -/

inductive Reading where
  | text (s : String)
  | number (n : Nat)
  deriving DecidableEq

def Property.read? : Property → String → Option Reading
  | .resourceFiles, t | .quorum, t | .parent, t => some (.text t)
  | .port, t => (Text.readUInt16 (Text.trim t)).toOption.map fun n ↦ .number n.toNat
  | .retries, t => (Text.readUInt32 (Text.trim t)).toOption.map fun n ↦ .number n.toNat

/-- What a client is given under the name of a property. -/
def setting (c : ClientConfig) : Property → Option Reading
  | .resourceFiles => c.resourceFiles.map .text
  | .quorum => c.quorum.map .text
  | .port => c.port.map fun n ↦ .number n.toNat
  | .parent => c.parent.map .text
  | .retries => c.retries.map fun n ↦ .number n.toNat

theorem text_injective : Function.Injective Reading.text :=
  fun _ _ ↦ Reading.text.inj

theorem number_injective {α : Type} {f : α → Nat} (hf : Function.Injective f) :
    Function.Injective fun a ↦ Reading.number (f a) :=
  fun _ _ h ↦ hf (Reading.number.inj h)

theorem ext_setting {c d : ClientConfig} (h : ∀ p, c.setting p = d.setting p)
    (hoverrides : c.overrides = d.overrides) : c = d := by
  have hresourceFiles := Option.map_injective text_injective (h .resourceFiles)
  have hquorum := Option.map_injective text_injective (h .quorum)
  have hparent := Option.map_injective text_injective (h .parent)
  have hport := Option.map_injective (number_injective fun _ _ ↦ UInt16.toNat_inj.mp) (h .port)
  have hretries := Option.map_injective (number_injective fun _ _ ↦ UInt32.toNat_inj.mp) (h .retries)
  cases c
  cases d
  simp_all

/-- A property that is known by its name, but cannot be read. -/
def unreadable (entry : String × String) : Bool :=
  match Property.ofName? entry.1 with
  | some p => (p.read? entry.2).isNone
  | none => false

theorem readNumber_eq {α : Type} (read : String → Except IntegerFault α) (name value : String) :
    readNumber read name value =
      match (read (Text.trim value)).toOption with
      | some n => .ok n
      | none => .error (.malformedProperty name value) := by
  rw [readNumber]
  cases read (Text.trim value) <;> rfl

theorem addProperty_of_unreadable (c : ClientConfig) {entry : String × String}
    (h : unreadable entry) :
    c.addProperty entry.1 entry.2 = .error (.malformedProperty entry.1 entry.2) := by
  rw [unreadable] at h
  cases hname : Property.ofName? entry.1 with
  | none =>
      rw [hname] at h
      cases h
  | some p =>
      rw [hname] at h
      cases p with
      | resourceFiles | quorum | parent => cases h
      | port | retries =>
          have hnone := Option.map_eq_none_iff.mp (Option.isNone_iff_eq_none.mp h)
          simp [addProperty, hname, readNumber_eq, hnone]

theorem addProperty_of_read (c : ClientConfig) {p : Property} {t : String} {r : Reading}
    (h : p.read? t = some r) :
    ∃ d, c.addProperty p.name t = .ok d ∧
      (∀ q, d.setting q = if q = p then some r else c.setting q) ∧ d.overrides = c.overrides := by
  cases p with
  | resourceFiles | quorum | parent =>
      cases h
      refine ⟨_, rfl, fun q ↦ ?_, rfl⟩
      cases q <;> rfl
  | port =>
      obtain ⟨n, hn, rfl⟩ := Option.map_eq_some_iff.mp h
      refine ⟨{ c with port := some n }, by simp [addProperty, readNumber_eq, hn], fun q ↦ ?_, rfl⟩
      cases q <;> rfl
  | retries =>
      obtain ⟨n, hn, rfl⟩ := Option.map_eq_some_iff.mp h
      refine ⟨{ c with retries := some n }, by simp [addProperty, readNumber_eq, hn], fun q ↦ ?_, rfl⟩
      cases q <;> rfl

theorem addProperty_of_unknown (c : ClientConfig) {name : String}
    (h : Property.ofName? name = none) (t : String) :
    c.addProperty name t = .ok { c with overrides := c.overrides ++ [(name, t)] } := by
  simp [addProperty, h]

@[simp] theorem setting_with_overrides (c : ClientConfig) (overrides : List (String × String))
    (p : Property) : { c with overrides }.setting p = c.setting p := by
  cases p <;> rfl

theorem Property.name_injective : Function.Injective name :=
  fun p q h ↦ Option.some.inj (by rw [← ofName?_name p, h, ofName?_name])

theorem Property.mem_all (p : Property) : p ∈ all := by
  cases p <;> decide

theorem Property.name_of_ofName? {name : String} {p : Property} (h : ofName? name = some p) :
    p.name = name := by
  simpa using List.find?_some h

/-! ## Taking properties one by one -/

/-- What a client is given after some properties. -/
structure Given (es : List (String × String)) (c : ClientConfig) : Prop where
  setting : ∀ p r, c.setting p = some r ↔ ∃ t, (p.name, t) ∈ es ∧ p.read? t = some r
  overrides : c.overrides = es.filter fun e ↦ Property.ofName? e.1 = none

namespace Given

variable {es : List (String × String)} {c d : ClientConfig}

theorem nil : Given [] {} where
  setting p r := by cases p <;> simp [ClientConfig.setting]
  overrides := rfl

theorem unique (hc : Given es c) (hd : Given es d) : c = d := by
  refine ext_setting (fun p ↦ Option.ext fun r ↦ ?_) (hc.overrides.trans hd.overrides.symm)
  exact (hc.setting p r).trans (hd.setting p r).symm

/-- One more property, with a name that was not seen so far, takes its own place. -/
theorem concat (h : Given es c) {entry : String × String} (hfresh : entry.1 ∉ es.map Prod.fst)
    (hread : unreadable entry = false) :
    ∃ d, c.addProperty entry.1 entry.2 = .ok d ∧ Given (es ++ [entry]) d := by
  obtain ⟨name, t⟩ := entry
  cases hname : Property.ofName? name with
  | none =>
      refine ⟨_, c.addProperty_of_unknown hname t, ?_, ?_⟩
      · intro p r
        have hne : p.name ≠ name := by
          rintro rfl
          simp at hname
        simpa [hne] using h.setting p r
      · simp [hname, h.overrides]
  | some p =>
      obtain rfl := Property.name_of_ofName? hname
      obtain ⟨r, hr⟩ : ∃ r, p.read? t = some r :=
        Option.isSome_iff_exists.mp (by simpa [unreadable] using hread)
      obtain ⟨d, hd, hsetting, hoverrides⟩ := c.addProperty_of_read hr
      refine ⟨d, hd, ?_, ?_⟩
      · intro q r'
        rw [hsetting]
        by_cases hq : q = p
        · have hnone : ∀ t', (p.name, t') ∉ es := fun t' ht' ↦
            hfresh (List.mem_map.mpr ⟨_, ht', rfl⟩)
          simp [hq, hnone, hr]
        · have hne : q.name ≠ p.name := Property.name_injective.ne hq
          simpa [hq, hne] using h.setting q r'
      · simp [hoverrides, h.overrides]

end Given

/-- Take some properties into account, up to the first one that is refused. -/
def addAll (c : ClientConfig) (es : List (String × String)) : Except ConfigFault ClientConfig :=
  es.foldlM (fun c property ↦ c.addProperty property.1 property.2) c

theorem addAll_append {c d : ClientConfig} {es : List (String × String)} (h : c.addAll es = .ok d)
    (fs : List (String × String)) : c.addAll (es ++ fs) = d.addAll fs := by
  rw [addAll] at h
  rw [addAll, List.foldlM_append, h]
  rfl

theorem addAll_cons (c : ClientConfig) (e : String × String) (es : List (String × String)) :
    c.addAll (e :: es) =
      match c.addProperty e.1 e.2 with
      | .ok d => d.addAll es
      | .error fault => .error fault := by
  rw [addAll, List.foldlM_cons]
  cases c.addProperty e.1 e.2 <;> rfl

theorem addAll_of_readable {es : List (String × String)} (hkeys : (es.map Prod.fst).Nodup)
    (hread : ∀ e ∈ es, unreadable e = false) :
    ∃ c, addAll {} es = .ok c ∧ Given es c := by
  induction es using List.reverseRecOn with
  | nil => exact ⟨{}, rfl, .nil⟩
  | append_singleton es e ih =>
      rw [List.map_append, List.nodup_append'] at hkeys
      obtain ⟨hes, -, hfresh⟩ := hkeys
      rw [List.forall_mem_append] at hread
      obtain ⟨c, hc, hgiven⟩ := ih hes hread.1
      obtain ⟨d, hd, hgiven'⟩ := hgiven.concat (by simpa using hfresh) (by simpa using hread.2)
      refine ⟨d, ?_, hgiven'⟩
      rw [addAll_append hc, addAll_cons, hd]
      rfl

theorem nodup_names (m : OrderedMap String String) : (m.entries.map Prod.fst).Nodup :=
  OrderedMap.nodup_of_ascending (List.pairwise_map.mpr m.ascending)

theorem ofProperties_of_readable {m : OrderedMap String String}
    (hread : ∀ e ∈ m.entries, unreadable e = false) :
    ∃ c, ofProperties m = .ok c ∧ Given m.entries c :=
  addAll_of_readable (nodup_names m) hread

theorem ofProperties_of_unreadable {m : OrderedMap String String} {e : String × String}
    (h : m.entries.find? unreadable = some e) :
    ofProperties m = .error (.malformedProperty e.1 e.2) := by
  obtain ⟨he, before, after, hentries, hbefore⟩ := List.find?_eq_some_iff_append.mp h
  have hkeys := nodup_names m
  rw [hentries, List.map_append, List.nodup_append'] at hkeys
  obtain ⟨c, hc, -⟩ := addAll_of_readable hkeys.1 (by simpa using hbefore)
  change addAll {} m.entries = _
  rw [hentries, addAll_append hc, addAll_cons, c.addProperty_of_unreadable he]

theorem find?_of_error {m : OrderedMap String String} {fault : ConfigFault}
    (h : ofProperties m = .error fault) :
    ∃ e, m.entries.find? unreadable = some e ∧ fault = .malformedProperty e.1 e.2 := by
  cases hfind : m.entries.find? unreadable with
  | none =>
      obtain ⟨c, hc, -⟩ := ofProperties_of_readable (by simpa using hfind)
      cases hc.symm.trans h
  | some e =>
      have hfault := ofProperties_of_unreadable hfind
      exact ⟨e, rfl, Except.error.inj (h.symm.trans hfault)⟩

theorem readable_of_ok {m : OrderedMap String String} {c : ClientConfig}
    (h : ofProperties m = .ok c) : ∀ e ∈ m.entries, unreadable e = false := by
  cases hfind : m.entries.find? unreadable with
  | none => simpa using hfind
  | some e => cases h.symm.trans (ofProperties_of_unreadable hfind)

/-! ## What is refused -/

/-- A property of a map is refused: its text is no number up to a limit, white space at its ends
aside. -/
def Refused (m : OrderedMap String String) (p : Property) (limit : Nat) (fault : ConfigFault) : Prop :=
  ∃ t, m.get? p.name = some t ∧ (∀ n ≤ limit, ¬Text.Numeral (Text.trim t) n) ∧
    fault = .malformedProperty p.name t

theorem number_eq_none_iff {α : Type} (f : Nat → α) (g : α → Reading) (limit : Nat) (s : String) :
    ((Text.readUnsigned limit s.toList).map f).toOption.map g = none ↔
      ∀ n ≤ limit, ¬Text.Numeral s n := by
  have hread : (∀ n ≤ limit, ¬Text.Numeral s n) ↔ ∀ n, Text.readUnsigned limit s.toList ≠ .ok n := by
    refine forall_congr' fun n ↦ ?_
    rw [ne_eq, Text.readUnsigned_eq_ok_iff]
    tauto
  rw [hread]
  cases Text.readUnsigned limit s.toList <;> simp [Except.map, Except.toOption]

theorem read?_port_eq_none_iff (t : String) :
    Property.port.read? t = none ↔ ∀ n ≤ 65535, ¬Text.Numeral (Text.trim t) n :=
  number_eq_none_iff UInt16.ofNat (fun n ↦ .number n.toNat) 65535 (Text.trim t)

theorem read?_retries_eq_none_iff (t : String) :
    Property.retries.read? t = none ↔ ∀ n ≤ 4294967295, ¬Text.Numeral (Text.trim t) n :=
  number_eq_none_iff UInt32.ofNat (fun n ↦ .number n.toNat) 4294967295 (Text.trim t)

theorem unreadable_iff {e : String × String} :
    unreadable e ↔
      (e.1 = Property.port.name ∧ ∀ n ≤ 65535, ¬Text.Numeral (Text.trim e.2) n) ∨
        (e.1 = Property.retries.name ∧ ∀ n ≤ 4294967295, ¬Text.Numeral (Text.trim e.2) n) := by
  rw [← read?_port_eq_none_iff, ← read?_retries_eq_none_iff, unreadable]
  constructor
  · intro h
    cases hname : Property.ofName? e.1 with
    | none => rw [hname] at h; cases h
    | some p =>
        rw [hname] at h
        have hp := (Property.name_of_ofName? hname).symm
        cases p with
        | resourceFiles | quorum | parent => cases h
        | port => exact .inl ⟨hp, Option.isNone_iff_eq_none.mp h⟩
        | retries => exact .inr ⟨hp, Option.isNone_iff_eq_none.mp h⟩
  · rintro (⟨hp, h⟩ | ⟨hp, h⟩)
    all_goals simp [hp, h]

theorem Refused.unique {m : OrderedMap String String} {p : Property} {limit : Nat}
    {fault fault' : ConfigFault} (h : Refused m p limit fault) (h' : Refused m p limit fault') :
    fault = fault' := by
  obtain ⟨t, ht, -, rfl⟩ := h
  obtain ⟨t', ht', -, rfl⟩ := h'
  rw [Option.some.inj (ht.symm.trans ht')]

/-- Why a map is refused. The retries come first, as their name does. -/
def Refusal (m : OrderedMap String String) (fault : ConfigFault) : Prop :=
  Refused m .retries 4294967295 fault ∨
    (∀ other, ¬Refused m .retries 4294967295 other) ∧ Refused m .port 65535 fault

theorem Refusal.unique {m : OrderedMap String String} {fault fault' : ConfigFault}
    (h : Refusal m fault) (h' : Refusal m fault') : fault = fault' := by
  rcases h with h | ⟨hnone, h⟩ <;> rcases h' with h' | ⟨hnone', h'⟩
  · exact h.unique h'
  · exact absurd h (hnone' fault)
  · exact absurd h' (hnone fault')
  · exact h.unique h'

theorem Refusal.of_error {m : OrderedMap String String} {fault : ConfigFault}
    (h : ofProperties m = .error fault) : Refusal m fault := by
  obtain ⟨e, hfind, rfl⟩ := find?_of_error h
  have hget : m.get? e.1 = some e.2 :=
    OrderedMap.mem_entries_iff.mp (List.mem_of_find?_eq_some hfind)
  rcases unreadable_iff.mp (List.find?_some hfind) with ⟨hname, hread⟩ | ⟨hname, hread⟩
  · rw [hname] at hget ⊢
    refine .inr ⟨?_, e.2, hget, hread, rfl⟩
    -- Retries that cannot be read would be found before the port.
    rintro other ⟨t, ht, hread', -⟩
    have hretries : unreadable (Property.retries.name, t) := unreadable_iff.mpr (.inr ⟨rfl, hread'⟩)
    have hfirst := m.compare_of_find? hfind (OrderedMap.mem_entries_iff.mpr ht) hretries
    rw [hname] at hfirst
    have hlater : (compare Property.port.name Property.retries.name).isLE = false := by decide
    exact absurd hfirst (Bool.eq_false_iff.mp hlater)
  · rw [hname] at hget ⊢
    exact .inl ⟨e.2, hget, hread, rfl⟩

theorem Refused.exists_error {m : OrderedMap String String} {fault : ConfigFault}
    (h : Refused m .port 65535 fault ∨ Refused m .retries 4294967295 fault) :
    ∃ fault', ofProperties m = .error fault' := by
  obtain ⟨e, he, hread⟩ : ∃ e ∈ m.entries, unreadable e := by
    rcases h with ⟨t, ht, hread, -⟩ | ⟨t, ht, hread, -⟩
    · exact ⟨_, OrderedMap.mem_entries_iff.mpr ht, unreadable_iff.mpr (.inl ⟨rfl, hread⟩)⟩
    · exact ⟨_, OrderedMap.mem_entries_iff.mpr ht, unreadable_iff.mpr (.inr ⟨rfl, hread⟩)⟩
  cases hresult : ofProperties m with
  | error fault' => exact ⟨fault', rfl⟩
  | ok c => exact absurd hread (by simp [readable_of_ok hresult e he])

theorem ofProperties_eq_error_iff (m : OrderedMap String String) (fault : ConfigFault) :
    ofProperties m = .error fault ↔ Refusal m fault := by
  refine ⟨.of_error, fun h ↦ ?_⟩
  obtain ⟨fault', hfault'⟩ := Refused.exists_error (h.symm.imp_left And.right)
  rw [hfault', (Refusal.of_error hfault').unique h]

/-! ## What is taken -/

/-- A client is given just what a map says: each entry is used once, as the setting of its name or as an
override, and the overrides are in the order of their octets. -/
structure Takes (m : OrderedMap String String) (c : ClientConfig) : Prop where
  resourceFiles : c.resourceFiles = m.get? Property.resourceFiles.name
  quorum : c.quorum = m.get? Property.quorum.name
  parent : c.parent = m.get? Property.parent.name
  port : Option.Rel (fun t n ↦ Text.Numeral (Text.trim t) n.toNat) (m.get? Property.port.name) c.port
  retries : Option.Rel (fun t n ↦ Text.Numeral (Text.trim t) n.toNat)
    (m.get? Property.retries.name) c.retries
  once : m.entries.Perm
    ((Property.all.filterMap fun p ↦ (m.get? p.name).map (p.name, ·)) ++ c.overrides)
  unknown : ∀ e ∈ c.overrides, ∀ p : Property, e.1 ≠ p.name
  ordered : c.overrides.Pairwise fun a b ↦
    compare (Bytes.ofString a.1) (Bytes.ofString b.1) = .lt

theorem read?_ne_none {m : OrderedMap String String} (hread : ∀ e ∈ m.entries, unreadable e = false)
    (p : Property) (t : String) (ht : m.get? p.name = some t) : p.read? t ≠ none := by
  have hreadable := hread _ (OrderedMap.mem_entries_iff.mpr ht)
  simpa [unreadable, Option.isSome_iff_ne_none] using hreadable

theorem eq_of_map_text {given said : Option String}
    (h : given.map .text = said.bind fun t ↦ some (Reading.text t)) : given = said := by
  rw [← Function.comp_def, ← Option.map_eq_bind] at h
  exact Option.map_injective text_injective h

theorem rel_of_map_number {α : Type} (toNat : α → Nat) (read : String → Except IntegerFault α)
    {given : Option α} {said : Option String} (hinjective : Function.Injective toNat)
    (hnumeral : ∀ {s n}, read s = .ok n ↔ Text.Numeral s (toNat n))
    (hread : ∀ t ∈ said, (read (Text.trim t)).toOption.map (fun n ↦ Reading.number (toNat n)) ≠ none)
    (h : given.map (fun n ↦ .number (toNat n)) =
      said.bind fun t ↦ (read (Text.trim t)).toOption.map fun n ↦ Reading.number (toNat n)) :
    Option.Rel (fun t n ↦ Text.Numeral (Text.trim t) (toNat n)) said given := by
  cases said with
  | none =>
      rw [Option.map_eq_none_iff.mp h]
      exact .none
  | some t =>
      cases hresult : read (Text.trim t) with
      | error fault => exact absurd (by rw [hresult]; rfl) (hread t rfl)
      | ok n =>
          rw [Option.bind_some, hresult] at h
          have hgiven : given = some n := Option.map_injective (number_injective hinjective) h
          rw [hgiven]
          exact .some (hnumeral.mp hresult)

namespace Given

variable {m : OrderedMap String String} {c : ClientConfig}

theorem setting_eq (h : Given m.entries c) (p : Property) :
    c.setting p = (m.get? p.name).bind p.read? := by
  refine Option.ext fun r ↦ ?_
  rw [h.setting, Option.bind_eq_some_iff]
  simp only [OrderedMap.mem_entries_iff]

theorem perm (h : Given m.entries c) : m.entries.Perm
    ((Property.all.filterMap fun p ↦ (m.get? p.name).map (p.name, ·)) ++ c.overrides) := by
  -- The overrides are the entries of unknown names as they stand. The other entries and the settings
  -- come in different orders, but neither list has an entry twice.
  have hknown : (Property.all.filterMap fun p ↦ (m.get? p.name).map (p.name, ·)).Nodup := by
    refine List.Nodup.filterMap ?_ (by decide)
    intro p q e hp hq
    obtain ⟨t, -, rfl⟩ := Option.map_eq_some_iff.mp hp
    obtain ⟨t', -, heq⟩ := Option.map_eq_some_iff.mp hq
    exact Property.name_injective (congrArg Prod.fst heq).symm
  have hsplit := List.filter_append_perm (fun e ↦ decide (Property.ofName? e.1 ≠ none)) m.entries
  rw [h.overrides]
  refine hsplit.symm.trans (List.Perm.append ?_ (.of_eq (List.filter_congr (by simp))))
  refine (List.perm_ext_iff_of_nodup ((nodup_names m).of_map.filter _) hknown).mpr fun e ↦ ?_
  rw [List.mem_filter, List.mem_filterMap]
  constructor
  · rintro ⟨he, hname⟩
    obtain ⟨p, hp⟩ := Option.ne_none_iff_exists'.mp (of_decide_eq_true hname)
    refine ⟨p, p.mem_all, ?_⟩
    rw [Property.name_of_ofName? hp, OrderedMap.mem_entries_iff.mp he]
    rfl
  · rintro ⟨p, -, hp⟩
    obtain ⟨t, ht, rfl⟩ := Option.map_eq_some_iff.mp hp
    exact ⟨OrderedMap.mem_entries_iff.mpr ht, by simp⟩

theorem takes (h : Given m.entries c) (hread : ∀ e ∈ m.entries, unreadable e = false) :
    Takes m c where
  resourceFiles := eq_of_map_text (h.setting_eq .resourceFiles)
  quorum := eq_of_map_text (h.setting_eq .quorum)
  parent := eq_of_map_text (h.setting_eq .parent)
  port := by
    refine rel_of_map_number UInt16.toNat Text.readUInt16 (fun _ _ ↦ UInt16.toNat_inj.mp)
      Text.readUInt16_eq_ok_iff ?_
      (h.setting_eq .port)
    intro t ht
    exact read?_ne_none hread .port t ht
  retries := by
    refine rel_of_map_number UInt32.toNat Text.readUInt32 (fun _ _ ↦ UInt32.toNat_inj.mp)
      Text.readUInt32_eq_ok_iff ?_
      (h.setting_eq .retries)
    intro t ht
    exact read?_ne_none hread .retries t ht
  once := h.perm
  unknown := by
    intro e he p hp
    rw [h.overrides, List.mem_filter, hp, Property.ofName?_name] at he
    simp at he
  ordered := by
    rw [h.overrides]
    refine (m.ascending.imp fun {a b} hlt ↦ ?_).filter _
    rwa [Bytes.compare_ofString]

end Given

/-! ## Writing properties -/

/-- White space before and after a number. -/
structure Margins where
  before : String
  after : String
  before_blank : Text.isAllBlank before
  after_blank : Text.isAllBlank after

def Reading.write (margins : Margins) : Reading → String
  | .text s => s
  | .number n => margins.before ++ n.repr ++ margins.after

def namedProperties (c : ClientConfig) (margins : Property → Margins) : List (String × String) :=
  Property.all.filterMap fun p ↦ (c.setting p).map fun r ↦ (p.name, r.write (margins p))

def toProperties (c : ClientConfig) (margins : Property → Margins) : OrderedMap String String :=
  .ofList (c.namedProperties margins ++ c.overrides)

section Writing

variable {c : ClientConfig} {margins : Property → Margins}

theorem read?_write {p : Property} {r : Reading} (h : c.setting p = some r) (margins : Margins) :
    p.read? (r.write margins) = some r := by
  have hnumber : ∀ n : Nat, Text.trim ((Reading.number n).write margins) = n.repr := fun n ↦
    Text.trim_margins margins.before_blank (Text.numeral_repr n).trimmed margins.after_blank
  cases p with
  | resourceFiles | quorum | parent =>
      obtain ⟨t, -, rfl⟩ := Option.map_eq_some_iff.mp h
      rfl
  | port =>
      obtain ⟨n, -, rfl⟩ := Option.map_eq_some_iff.mp h
      have hread := Text.readUInt16_eq_ok_iff.mpr (Text.numeral_repr n.toNat)
      rw [Property.read?, hnumber, hread]
      rfl
  | retries =>
      obtain ⟨n, -, rfl⟩ := Option.map_eq_some_iff.mp h
      have hread := Text.readUInt32_eq_ok_iff.mpr (Text.numeral_repr n.toNat)
      rw [Property.read?, hnumber, hread]
      rfl

theorem mem_namedProperties {e : String × String} :
    e ∈ c.namedProperties margins ↔
      ∃ p r, c.setting p = some r ∧ (p.name, r.write (margins p)) = e := by
  rw [namedProperties, List.mem_filterMap]
  simp only [Property.mem_all, true_and, Option.map_eq_some_iff]

/-- The overrides are in the order of their octets, and no name among them is a known one. -/
structure Orderly (c : ClientConfig) : Prop where
  ascending : c.overrides.Pairwise fun a b ↦
    compare (Bytes.ofString a.1) (Bytes.ofString b.1) = .lt
  unknown : ∀ e ∈ c.overrides, ∀ p : Property, e.1 ≠ p.name

theorem Orderly.pairwise (h : c.Orderly) :
    c.overrides.Pairwise fun a b ↦ compare a.1 b.1 = .lt := by
  simpa only [Bytes.compare_ofString] using h.ascending

theorem nodup_namedProperties : ((c.namedProperties margins).map Prod.fst).Nodup := by
  rw [namedProperties, List.map_filterMap]
  refine List.Nodup.filterMap ?_ (by decide)
  intro p q name hp hq
  simp only [Option.map_map, Option.mem_def, Option.map_eq_some_iff] at hp hq
  obtain ⟨_, -, hp⟩ := hp
  obtain ⟨_, -, hq⟩ := hq
  exact Property.name_injective (hp.trans hq.symm)

theorem Orderly.mem_entries (h : c.Orderly) {e : String × String} :
    e ∈ (c.toProperties margins).entries ↔ e ∈ c.namedProperties margins ∨ e ∈ c.overrides := by
  rw [toProperties, OrderedMap.mem_ofList, List.mem_append]
  rw [List.map_append, List.nodup_append']
  refine ⟨nodup_namedProperties, OrderedMap.nodup_of_ascending (List.pairwise_map.mpr h.pairwise), ?_⟩
  intro name hnamed hoverride
  obtain ⟨e, he, rfl⟩ := List.mem_map.mp hoverride
  obtain ⟨f, hf, hname⟩ := List.mem_map.mp hnamed
  obtain ⟨p, r, -, rfl⟩ := mem_namedProperties.mp hf
  exact h.unknown e he p hname.symm

theorem Orderly.ofName?_eq_none (h : c.Orderly) {e : String × String} (he : e ∈ c.overrides) :
    Property.ofName? e.1 = none := by
  by_contra hne
  obtain ⟨p, hp⟩ := Option.ne_none_iff_exists'.mp hne
  exact h.unknown e he p (Property.name_of_ofName? hp).symm

theorem Orderly.given (h : c.Orderly) : Given (c.toProperties margins).entries c where
  setting p r := by
    simp only [h.mem_entries, mem_namedProperties]
    constructor
    · intro hr
      exact ⟨_, .inl ⟨p, r, hr, rfl⟩, read?_write hr _⟩
    · rintro ⟨t, ⟨q, r', hr', heq⟩ | ht, hread⟩
      · obtain ⟨hname, rfl⟩ := Prod.mk.inj heq
        obtain rfl := Property.name_injective hname
        rw [read?_write hr'] at hread
        rw [hr', hread]
      · exact absurd rfl (h.unknown _ ht p)
  overrides := by
    -- Both lists are ascending, so they are the same as soon as they have the same members.
    have hentries := (c.toProperties margins).ascending.filter fun e ↦ Property.ofName? e.1 = none
    refine congrArg OrderedMap.entries
      (OrderedMap.ext_get? (m := ⟨c.overrides, h.pairwise⟩) (n := ⟨_, hentries⟩) fun name ↦ ?_)
    refine Option.ext fun t ↦ ?_
    rw [← OrderedMap.mem_entries_iff, ← OrderedMap.mem_entries_iff, List.mem_filter, h.mem_entries]
    constructor
    · exact fun ht ↦ ⟨.inr ht, decide_eq_true (h.ofName?_eq_none ht)⟩
    · rintro ⟨ht | ht, hunknown⟩
      · obtain ⟨p, r, -, heq⟩ := mem_namedProperties.mp ht
        obtain ⟨rfl, -⟩ := Prod.mk.inj heq
        simp at hunknown
      · exact ht

theorem Orderly.ofProperties_toProperties (h : c.Orderly) :
    ofProperties (c.toProperties margins) = .ok c := by
  have hread : ∀ e ∈ (c.toProperties margins).entries, unreadable e = false := by
    intro e he
    rcases h.mem_entries.mp he with he | he
    · obtain ⟨p, r, hr, rfl⟩ := mem_namedProperties.mp he
      simp [unreadable, read?_write hr]
    · rw [unreadable, h.ofName?_eq_none he]
  obtain ⟨d, hd, hgiven⟩ := ofProperties_of_readable hread
  rw [hd, hgiven.unique h.given]

end Writing

/-- Reading a map of properties undoes writing it. A map is refused for its two numbers alone, and
otherwise it is taken as a whole. -/
theorem ofProperties_exact :
    (∀ (c : ClientConfig) (margins : Property → Margins), c.Orderly →
      ofProperties (c.toProperties margins) = .ok c) ∧
    ∀ m : OrderedMap String String,
      ((∃ fault, ofProperties m = .error fault) ↔
        ∃ fault, Refused m .port 65535 fault ∨ Refused m .retries 4294967295 fault) ∧
      (∀ fault, ofProperties m = .error fault ↔ Refusal m fault) ∧
      ∀ c, ofProperties m = .ok c → Takes m c := by
  refine ⟨fun c margins h ↦ h.ofProperties_toProperties, fun m ↦ ⟨?_, ofProperties_eq_error_iff m, ?_⟩⟩
  · constructor
    · rintro ⟨fault, h⟩
      exact ⟨fault, (Refusal.of_error h).symm.imp_left And.right⟩
    · rintro ⟨fault, h⟩
      exact Refused.exists_error h
  · intro c hc
    have hread := readable_of_ok hc
    obtain ⟨d, hd, hgiven⟩ := ofProperties_of_readable hread
    obtain rfl := Except.ok.inj (hc.symm.trans hd)
    exact hgiven.takes hread

/-- A client with overrides before, between and after the known names. -/
def mixedSample : ClientConfig where
  quorum := some " zk1,zk2 "
  port := some 2181
  retries := some 0
  overrides := [("a", ""), ("hbase.é", "x"), ("zookeeper.zz", "y")]

/-- A tab and a space before numbers, and a line break after them. -/
def wideMargins : Margins where
  before := "\t "
  after := "\n"
  before_blank := rfl
  after_blank := rfl

theorem ofProperties_mixedSample :
    mixedSample.Orderly ∧
    (mixedSample.toProperties fun _ ↦ wideMargins).entries =
      [("a", ""), ("client-retries", "\t 0\n"), ("hbase.é", "x"),
        ("zookeeper-client-port", "\t 2181\n"), ("zookeeper-quorum", " zk1,zk2 "),
        ("zookeeper.zz", "y")] ∧
    ofProperties (mixedSample.toProperties fun _ ↦ wideMargins) = .ok mixedSample := by
  have horderly : mixedSample.Orderly := by
    refine ⟨?_, ?_⟩
    · simp only [Bytes.compare_ofString]
      decide
    · intro e he p
      rw [mixedSample] at he
      revert e
      cases p <;> decide
  exact ⟨horderly, rfl, ofProperties_exact.1 mixedSample (fun _ ↦ wideMargins) horderly⟩

end ClientConfig

end ColumnStore
