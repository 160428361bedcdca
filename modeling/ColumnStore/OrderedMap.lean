/-!
# Ordered maps

A finite map is the list of its entries in strictly ascending order of key. The order is part of
the type, so two maps with the same look-ups are the same value (`ext_get?`) and walking the
entries visits the keys in order.
-/

namespace ColumnStore

open Std

/-- A finite map from `κ` to `α`, its entries in strictly ascending order of key. -/
structure OrderedMap (κ : Type u) (α : Type v) [Ord κ] where
  entries : List (κ × α)
  ascending : entries.Pairwise (fun a b ↦ compare a.1 b.1 = .lt)

/-- A finite set, kept in ascending order. -/
abbrev OrderedSet (κ : Type u) [Ord κ] := OrderedMap κ Unit

namespace OrderedMap

variable {κ : Type u} {α : Type v} [Ord κ]

@[ext] theorem ext_entries {m n : OrderedMap κ α} (h : m.entries = n.entries) : m = n := by
  cases m
  cases n
  cases h
  rfl

instance [DecidableEq κ] [DecidableEq α] : DecidableEq (OrderedMap κ α) := fun m n ↦
  if h : m.entries = n.entries then isTrue (ext_entries h)
  else isFalse fun hmn ↦ h (hmn ▸ rfl)

instance : EmptyCollection (OrderedMap κ α) := ⟨⟨[], .nil⟩⟩

instance : Inhabited (OrderedMap κ α) := ⟨∅⟩

/-! ## Looking up -/

def lookup (k : κ) : List (κ × α) → Option α
  | [] => none
  | (k', v) :: rest => if compare k k' = .eq then some v else lookup k rest

def get? (m : OrderedMap κ α) (k : κ) : Option α :=
  lookup k m.entries

def contains (m : OrderedMap κ α) (k : κ) : Bool :=
  (m.get? k).isSome

def keys (m : OrderedMap κ α) : List κ :=
  m.entries.map Prod.fst

def size (m : OrderedMap κ α) : Nat :=
  m.entries.length

def isEmpty (m : OrderedMap κ α) : Bool :=
  m.entries.isEmpty

/-- The entries whose key is greater than `bound`, all of them when there is no bound. -/
def after (m : OrderedMap κ α) : (bound : Option κ) → List (κ × α)
  | none => m.entries
  | some k => m.entries.filter (fun e ↦ compare e.1 k = .gt)

@[simp] theorem get?_empty (k : κ) : (∅ : OrderedMap κ α).get? k = none := rfl

theorem after_of_mem [TransOrd κ] {m : OrderedMap κ α} {bound : Option κ} {e : κ × α}
    (h : e ∈ m.after bound) :
    m.after (some e.1) = (m.after bound).filter (fun e' ↦ compare e'.1 e.1 = .gt) := by
  cases bound with
  | none => rfl
  | some k =>
      have hk : compare e.1 k = .gt := by simpa [after] using (List.mem_filter.mp h).2
      simp only [after, List.filter_filter]
      refine List.filter_congr fun e' _ ↦ ?_
      by_cases he' : compare e'.1 e.1 = .gt
      · simp [he', TransCmp.gt_trans he' hk]
      · simp [he']

/-- Going on after a key that lies ahead leaves fewer entries ahead. -/
theorem length_after_lt [TransOrd κ] {m : OrderedMap κ α} {bound : Option κ} {e : κ × α}
    (h : e ∈ m.after bound) : (m.after (some e.1)).length < (m.after bound).length := by
  rw [after_of_mem h, List.length_filter_lt_length_iff_exists]
  exact ⟨e, h, by simp⟩

theorem ascending_after (m : OrderedMap κ α) (bound : Option κ) :
    (m.after bound).Pairwise (fun a b ↦ compare a.1 b.1 = .lt) := by
  cases bound with
  | none => exact m.ascending
  | some k => exact m.ascending.filter _

/-! ## Mapping values -/

/-- The same keys, with the values that a function makes of those that were there. -/
def mapValues (f : α → β) (m : OrderedMap κ α) : OrderedMap κ β :=
  ⟨m.entries.map fun e ↦ (e.1, f e.2), List.pairwise_map.mpr m.ascending⟩

theorem lookup_map (f : α → β) (k : κ) (es : List (κ × α)) :
    lookup k (es.map fun e ↦ (e.1, f e.2)) = (lookup k es).map f := by
  induction es with
  | nil => rfl
  | cons e rest ih =>
      rw [List.map_cons, lookup, ih, lookup]
      split <;> rfl

theorem get?_mapValues (f : α → β) (m : OrderedMap κ α) (k : κ) :
    (m.mapValues f).get? k = (m.get? k).map f :=
  lookup_map f k m.entries

/-! ## Inserting -/

/-- Put `v` under `k` at its place in the order, in place of what was there. -/
def insertEntry (k : κ) (v : α) : List (κ × α) → List (κ × α)
  | [] => [(k, v)]
  | (k', v') :: rest =>
    match compare k k' with
    | .lt => (k, v) :: (k', v') :: rest
    | .eq => (k, v) :: rest
    | .gt => (k', v') :: insertEntry k v rest

theorem mem_insertEntry {k : κ} {v : α} {e : κ × α} {es : List (κ × α)}
    (h : e ∈ insertEntry k v es) : e = (k, v) ∨ e ∈ es := by
  induction es with
  | nil => simpa [insertEntry] using h
  | cons e' rest ih =>
      obtain ⟨k', v'⟩ := e'
      simp only [insertEntry] at h
      split at h
      · simpa using h
      · rcases List.mem_cons.mp h with h | h
        · exact .inl h
        · exact .inr (List.mem_cons_of_mem _ h)
      · rcases List.mem_cons.mp h with h | h
        · exact .inr (h ▸ List.mem_cons_self)
        · exact (ih h).imp_right (List.mem_cons_of_mem _)

theorem insertEntry_ascending [TransOrd κ] [LawfulEqOrd κ] (k : κ) (v : α) {es : List (κ × α)}
    (h : es.Pairwise (fun a b ↦ compare a.1 b.1 = .lt)) :
    (insertEntry k v es).Pairwise (fun a b ↦ compare a.1 b.1 = .lt) := by
  induction es with
  | nil => simp [insertEntry]
  | cons e' rest ih =>
      obtain ⟨k', v'⟩ := e'
      obtain ⟨hhead, hrest⟩ := List.pairwise_cons.mp h
      simp only [insertEntry]
      split
      · next hlt =>
        refine List.pairwise_cons.mpr ⟨fun b hb ↦ ?_, h⟩
        rcases List.mem_cons.mp hb with rfl | hb
        · exact hlt
        · exact TransCmp.lt_trans hlt (hhead b hb)
      · next heq =>
        have hk : k = k' := LawfulEqOrd.eq_of_compare heq
        subst hk
        exact List.pairwise_cons.mpr ⟨hhead, hrest⟩
      · next hgt =>
        refine List.pairwise_cons.mpr ⟨fun b hb ↦ ?_, ih hrest⟩
        rcases mem_insertEntry hb with rfl | hb
        · exact OrientedCmp.lt_of_gt hgt
        · exact hhead b hb

variable [TransOrd κ] [LawfulEqOrd κ]

def insert (m : OrderedMap κ α) (k : κ) (v : α) : OrderedMap κ α :=
  ⟨insertEntry k v m.entries, insertEntry_ascending k v m.ascending⟩

/-- Replace the value under `k` by `f` of it, starting from `absent` where there is none. -/
def alter (m : OrderedMap κ α) (k : κ) (absent : α) (f : α → α) : OrderedMap κ α :=
  m.insert k (f ((m.get? k).getD absent))

omit [TransOrd κ] [LawfulEqOrd κ] in
def erase (m : OrderedMap κ α) (k : κ) : OrderedMap κ α :=
  ⟨m.entries.filter (fun e ↦ compare e.1 k ≠ .eq), m.ascending.filter _⟩

/-- The map of a list of entries. Of several with one key the last one counts. -/
def ofList (es : List (κ × α)) : OrderedMap κ α :=
  es.foldl (fun m e ↦ m.insert e.1 e.2) ∅

/-- All entries of both maps, those of `n` where both have the key. -/
def union (m n : OrderedMap κ α) : OrderedMap κ α :=
  n.entries.foldl (fun m e ↦ m.insert e.1 e.2) m

omit [TransOrd κ] in
theorem lookup_insertEntry_self (k : κ) (v : α) (es : List (κ × α)) :
    lookup k (insertEntry k v es) = some v := by
  induction es with
  | nil => simp [insertEntry, lookup]
  | cons e' rest ih =>
      obtain ⟨k', v'⟩ := e'
      simp only [insertEntry]
      split
      · simp [lookup]
      · simp [lookup]
      · next hgt => simp [lookup, hgt, ih]

omit [TransOrd κ] in
theorem lookup_insertEntry_of_ne {k k' : κ} (hk : k' ≠ k) (v : α) (es : List (κ × α)) :
    lookup k' (insertEntry k v es) = lookup k' es := by
  have hne : compare k' k ≠ .eq := fun h ↦ hk (LawfulEqOrd.eq_of_compare h)
  induction es with
  | nil => simp [insertEntry, lookup, hne]
  | cons e' rest ih =>
      obtain ⟨k'', v''⟩ := e'
      simp only [insertEntry]
      split
      · simp [lookup, hne]
      · next heq =>
        have hkk : k = k'' := LawfulEqOrd.eq_of_compare heq
        subst hkk
        simp [lookup, hne]
      · simp only [lookup, ih]

@[simp] theorem get?_insert_self (m : OrderedMap κ α) (k : κ) (v : α) :
    (m.insert k v).get? k = some v :=
  lookup_insertEntry_self k v m.entries

theorem get?_insert_of_ne (m : OrderedMap κ α) {k k' : κ} (hk : k' ≠ k) (v : α) :
    (m.insert k v).get? k' = m.get? k' :=
  lookup_insertEntry_of_ne hk v m.entries

theorem get?_insert [DecidableEq κ] (m : OrderedMap κ α) (k k' : κ) (v : α) :
    (m.insert k v).get? k' = if k' = k then some v else m.get? k' := by
  by_cases h : k' = k
  · subst h
    simp
  · simp [h, get?_insert_of_ne]

theorem get?_alter [DecidableEq κ] (m : OrderedMap κ α) (k k' : κ) (absent : α) (f : α → α) :
    (m.alter k absent f).get? k' =
      if k' = k then some (f ((m.get? k).getD absent)) else m.get? k' :=
  get?_insert m k k' _

theorem contains_alter [DecidableEq κ] (m : OrderedMap κ α) (k k' : κ) (absent : α) (f : α → α) :
    (m.alter k absent f).contains k' = (decide (k' = k) || m.contains k') := by
  rw [contains, get?_alter, contains]
  split <;> simp [*]

omit [LawfulEqOrd κ] in
theorem lookup_erase_self (k : κ) (es : List (κ × α)) :
    lookup k (es.filter (fun e ↦ compare e.1 k ≠ .eq)) = none := by
  induction es with
  | nil => rfl
  | cons e rest ih =>
      by_cases he : compare e.1 k = .eq
      · rw [List.filter_cons_of_neg (by simp [he]), ih]
      · have hne : compare k e.1 ≠ .eq := fun h ↦ he (OrientedCmp.eq_symm h)
        rw [List.filter_cons_of_pos (by simp [he]), lookup, if_neg hne, ih]

omit [TransOrd κ] in
theorem lookup_erase_of_ne {k k' : κ} (hk : k' ≠ k) (es : List (κ × α)) :
    lookup k' (es.filter (fun e ↦ compare e.1 k ≠ .eq)) = lookup k' es := by
  induction es with
  | nil => rfl
  | cons e rest ih =>
      by_cases he : compare e.1 k = .eq
      · have hne : compare k' e.1 ≠ .eq := by
          rw [LawfulEqOrd.eq_of_compare he]
          exact fun h ↦ hk (LawfulEqOrd.eq_of_compare h)
        rw [List.filter_cons_of_neg (by simp [he]), ih, lookup, if_neg hne]
      · rw [List.filter_cons_of_pos (by simp [he]), lookup, lookup, ih]

omit [LawfulEqOrd κ] in
@[simp] theorem get?_erase_self (m : OrderedMap κ α) (k : κ) : (m.erase k).get? k = none :=
  lookup_erase_self k m.entries

omit [TransOrd κ] in
theorem get?_erase_of_ne (m : OrderedMap κ α) {k k' : κ} (hk : k' ≠ k) :
    (m.erase k).get? k' = m.get? k' :=
  lookup_erase_of_ne hk m.entries

/-! ## Entries -/

omit [TransOrd κ] [LawfulEqOrd κ] in
theorem lookup_eq_none_of_lt {k : κ} {es : List (κ × α)}
    (h : ∀ e ∈ es, compare k e.1 = .lt) : lookup k es = none := by
  induction es with
  | nil => rfl
  | cons e rest ih =>
      have hne : compare k e.1 ≠ .eq := by simp [h e List.mem_cons_self]
      simp only [lookup, hne, if_false]
      exact ih fun e' he' ↦ h e' (List.mem_cons_of_mem _ he')

omit [TransOrd κ] in
theorem mem_of_lookup {k : κ} {v : α} {es : List (κ × α)} (h : lookup k es = some v) :
    (k, v) ∈ es := by
  induction es with
  | nil => cases h
  | cons e es ih =>
      simp only [lookup] at h
      split at h
      · next heq =>
        cases h
        rw [LawfulEqOrd.eq_of_compare heq]
        exact List.mem_cons_self
      · exact List.mem_cons_of_mem _ (ih h)

omit [LawfulEqOrd κ] in
theorem lookup_of_mem {k : κ} {v : α} {es : List (κ × α)}
    (hes : es.Pairwise (fun a b ↦ compare a.1 b.1 = .lt)) (h : (k, v) ∈ es) :
    lookup k es = some v := by
  induction es with
  | nil => cases h
  | cons e es ih =>
      obtain ⟨he, hes⟩ := List.pairwise_cons.mp hes
      rcases List.mem_cons.mp h with rfl | h
      · simp [lookup]
      · have hgt : compare k e.1 = .gt := OrientedCmp.gt_of_lt (he _ h)
        simp [lookup, hgt, ih hes h]

theorem mem_entries_iff {m : OrderedMap κ α} {k : κ} {v : α} :
    (k, v) ∈ m.entries ↔ m.get? k = some v :=
  ⟨lookup_of_mem m.ascending, mem_of_lookup⟩

omit [TransOrd κ] [LawfulEqOrd κ] in
theorem get?_eq_none_of_isEmpty {m : OrderedMap κ α} (h : m.isEmpty) (k : κ) : m.get? k = none := by
  rw [get?, List.isEmpty_iff.mp h, lookup]

theorem get?_foldl_insert [DecidableEq κ] {es : List (κ × α)}
    (hes : es.Pairwise (fun a b ↦ compare a.1 b.1 = .lt)) (m : OrderedMap κ α) (k : κ) :
    (es.foldl (fun m e ↦ m.insert e.1 e.2) m).get? k = (lookup k es).or (m.get? k) := by
  induction es generalizing m with
  | nil => rfl
  | cons e es ih =>
      obtain ⟨he, hes⟩ := List.pairwise_cons.mp hes
      rw [List.foldl_cons, ih hes, get?_insert, lookup]
      by_cases hk : k = e.1
      · subst hk
        simp [lookup_eq_none_of_lt he]
      · have hne : compare k e.1 ≠ .eq := fun h ↦ hk (LawfulEqOrd.eq_of_compare h)
        simp [hk, hne]

theorem get?_union [DecidableEq κ] (m n : OrderedMap κ α) (k : κ) :
    (m.union n).get? k = (n.get? k).or (m.get? k) :=
  get?_foldl_insert n.ascending m k

omit [LawfulEqOrd κ] in
theorem nodup_of_ascending {ks : List κ} (h : ks.Pairwise (fun a b ↦ compare a b = .lt)) :
    ks.Nodup := by
  refine h.imp fun {a b} hlt hab ↦ ?_
  subst hab
  simp at hlt

/-! ## Extensionality -/

theorem entries_eq_of_lookup_eq {es fs : List (κ × α)}
    (hes : es.Pairwise (fun a b ↦ compare a.1 b.1 = .lt))
    (hfs : fs.Pairwise (fun a b ↦ compare a.1 b.1 = .lt))
    (h : ∀ k, lookup k es = lookup k fs) : es = fs := by
  induction es generalizing fs with
  | nil =>
      cases fs with
      | nil => rfl
      | cons f rest =>
          have hf := h f.1
          simp [lookup] at hf
  | cons e es ih =>
      obtain ⟨k, v⟩ := e
      obtain ⟨hk, hes'⟩ := List.pairwise_cons.mp hes
      cases fs with
      | nil =>
          have he := h k
          simp [lookup] at he
      | cons f fs =>
          obtain ⟨k', v'⟩ := f
          obtain ⟨hk', hfs'⟩ := List.pairwise_cons.mp hfs
          have hkk : k = k' := by
            apply LawfulEqOrd.eq_of_compare
            cases hc : compare k k' with
            | eq => rfl
            | lt =>
                have hnone : lookup k ((k', v') :: fs) = none :=
                  lookup_eq_none_of_lt fun e' he' ↦ by
                    rcases List.mem_cons.mp he' with rfl | he'
                    · exact hc
                    · exact TransCmp.lt_trans hc (hk' e' he')
                rw [← h k] at hnone
                simp [lookup] at hnone
            | gt =>
                have hlt : compare k' k = .lt := OrientedCmp.lt_of_gt hc
                have hnone : lookup k' ((k, v) :: es) = none :=
                  lookup_eq_none_of_lt fun e' he' ↦ by
                    rcases List.mem_cons.mp he' with rfl | he'
                    · exact hlt
                    · exact TransCmp.lt_trans hlt (hk e' he')
                rw [h k'] at hnone
                simp [lookup] at hnone
          subst hkk
          have hv : v = v' := by simpa [lookup] using h k
          subst hv
          congr 1
          refine ih hes' hfs' fun k'' ↦ ?_
          cases hc : compare k'' k with
          | eq =>
              have hkk : k'' = k := LawfulEqOrd.eq_of_compare hc
              subst hkk
              rw [lookup_eq_none_of_lt hk, lookup_eq_none_of_lt hk']
          | lt => simpa [lookup, hc] using h k''
          | gt => simpa [lookup, hc] using h k''

theorem ext_get? {m n : OrderedMap κ α} (h : ∀ k, m.get? k = n.get? k) : m = n :=
  ext_entries (entries_eq_of_lookup_eq m.ascending n.ascending h)

/-- Two maps with the same keys agree on their values if they do so where an absent one is filled in. -/
theorem mapValues_eq {β : Type w} {f : α → β} {m n : OrderedMap κ α} (absent : α)
    (hkeys : ∀ k, m.contains k = n.contains k)
    (hvalues : ∀ k, f ((m.get? k).getD absent) = f ((n.get? k).getD absent)) :
    m.mapValues f = n.mapValues f := by
  apply ext_get?
  intro k
  have hk := hkeys k
  have hv := hvalues k
  rw [get?_mapValues, get?_mapValues]
  simp only [contains] at hk
  cases hm : m.get? k <;> cases hn : n.get? k <;> simp_all

theorem mapValues_insert {β : Type w} (f : α → β) (m : OrderedMap κ α) (k : κ) (v : α) :
    (m.insert k v).mapValues f = (m.mapValues f).insert k (f v) := by
  apply ext_get?
  intro k'
  rw [get?_mapValues]
  by_cases hk : k' = k
  · subst hk
    rw [get?_insert_self, get?_insert_self, Option.map_some]
  · rw [get?_insert_of_ne _ hk, get?_insert_of_ne _ hk, get?_mapValues]

end OrderedMap

namespace OrderedSet

variable {κ : Type u} [Ord κ] [TransOrd κ] [LawfulEqOrd κ]

def add (s : OrderedSet κ) (k : κ) : OrderedSet κ :=
  OrderedMap.insert s k ()

def singleton (k : κ) : OrderedSet κ :=
  add ∅ k

theorem contains_add {s : OrderedSet κ} {k k' : κ} :
    (s.add k).contains k' ↔ k' = k ∨ s.contains k' := by
  by_cases hk : k' = k
  · subst hk
    simp [OrderedMap.contains, add]
  · simp [OrderedMap.contains, add, OrderedMap.get?_insert_of_ne _ hk, hk]

theorem contains_singleton {k k' : κ} : (singleton k).contains k' ↔ k' = k := by
  rw [singleton, contains_add]
  simp [OrderedMap.contains]

theorem contains_union [DecidableEq κ] {s t : OrderedSet κ} {k : κ} :
    (OrderedMap.union s t).contains k ↔ t.contains k ∨ s.contains k := by
  simp [OrderedMap.contains, OrderedMap.get?_union]

theorem contains_foldl_add (ks : List κ) (s : OrderedSet κ) (k : κ) :
    (ks.foldl add s).contains k ↔ k ∈ ks ∨ s.contains k := by
  induction ks generalizing s with
  | nil => simp
  | cons k' ks ih => rw [List.foldl_cons, ih, contains_add, List.mem_cons, or_left_comm, or_assoc]

theorem ext_contains {s t : OrderedSet κ} (h : ∀ k, s.contains k ↔ t.contains k) : s = t := by
  apply OrderedMap.ext_get?
  intro k
  have hk := h k
  simp only [OrderedMap.contains] at hk
  cases hs : s.get? k <;> cases ht : t.get? k <;> simp_all

end OrderedSet

end ColumnStore
