import ColumnStore.Proofs.CellLayout
import ColumnStore.Proofs.Delivery

/-!
# Writes are all or nothing

A batch is written exactly when its table has all its families, an attempt gets through and all its
cells are within their limits (`put_eq_ok_iff`). Otherwise nothing is left of it, whether it was given
to a cluster or to a service (`put_atomic`).
-/

namespace ColumnStore

namespace Put

theorem length_writes (puts : List Put) : (writes puts).length = (puts.map size).sum := by
  rw [writes, List.length_flatMap]
  congr 1
  apply List.map_congr_left
  intro p _
  exact List.length_map _

theorem encodeColumn_eq (now : Timestamp) (write : Bytes × ColumnWrite) :
    encodeColumn now write.1 write.2 = Cell.pack? (fieldsOf now write) := rfl

theorem exists_encodeAll_iff {now : Timestamp} {writes : List (Bytes × ColumnWrite)} :
    (∃ cells, encodeAll now writes = .ok cells) ↔
      ∀ write ∈ writes, (fieldsOf now write).WithinLimits := by
  induction writes with
  | nil => simp [encodeAll]
  | cons write writes ih =>
      rw [List.forall_mem_cons, ← ih, ← Cell.exists_pack?_iff, ← encodeColumn_eq]
      obtain ⟨row, w⟩ := write
      rw [encodeAll]
      cases encodeColumn now row w with
      | error fault => simp
      | ok cell => cases encodeAll now writes <;> simp

end Put

namespace Cluster

/-! ## When a batch is taken -/

/-- Everything that a batch needs to be written. -/
structure Takes (c : Cluster) (handle : TableHandle) (now : Timestamp) (puts : List Put) : Prop where
  declared : ∃ t, c.tables.get? handle.name = some t ∧
    ∀ write ∈ Put.writes puts, (t.descriptor.family? write.2.family).isSome
  patient : c.faults.puts < handle.attempts
  fits : ∀ write ∈ Put.writes puts, (Put.fieldsOf now write).WithinLimits

variable {c : Cluster} {handle : TableHandle} {now : Timestamp} {puts : List Put}

theorem put_of_takes (h : c.Takes handle now puts) : (c.put handle now puts).result = .ok () := by
  obtain ⟨⟨t, htable, hdeclared⟩, hpatient, hfits⟩ := h
  obtain ⟨cells, hcells⟩ := Put.exists_encodeAll_iff.mpr hfits
  have hfamilies : checkFamilies t.descriptor ((Put.writes puts).map (·.2.family)) = .ok () := by
    rw [checkFamilies_eq_ok_iff]
    intro family hfamily
    obtain ⟨write, hwrite, rfl⟩ := List.mem_map.mp hfamily
    exact hdeclared write hwrite
  simp only [put, table?, htable, hfamilies, attempt_eq, if_pos hpatient, apply, hcells]

theorem patient_of_put (h : (c.put handle now puts).result = .ok ()) :
    c.faults.puts < handle.attempts := by
  by_contra hless
  unfold put at h
  split at h
  · cases h
  · split at h
    · cases h
    · simp only [attempt_eq, if_neg hless] at h
      cases h

theorem takes_of_put (h : (c.put handle now puts).result = .ok ()) : c.Takes handle now puts := by
  rcases c.put_cases handle now puts with ⟨e, left, herror, -⟩ |
    ⟨t, cells, htable, hdeclared, hcells, -, -⟩
  · rw [h] at herror
    cases herror
  · exact ⟨⟨t, htable, hdeclared⟩, patient_of_put h, Put.exists_encodeAll_iff.mp ⟨cells, hcells⟩⟩

/-- A put succeeds exactly for a batch that the cluster takes. -/
theorem put_eq_ok_iff : (c.put handle now puts).result = .ok () ↔ c.Takes handle now puts :=
  ⟨takes_of_put, put_of_takes⟩

/-! ## What is left of a batch -/

/-- Nothing is different, but fewer attempts may fail from now on. -/
def Spared (c d : Cluster) : Prop :=
  ∃ left ≤ c.faults.puts, d = { c with faults.puts := left }

/-- One batch more is recorded, with a sequence id for each of its columns, and no other table is
concerned. Sequence ids start again after the greatest one. -/
structure Wrote (c : Cluster) (name : String) (puts : List Put) (d : Cluster) : Prop where
  batches : d.batches = c.batches ++ [⟨name, puts.map (·.row)⟩]
  sequence : d.sequence = c.sequence + UInt64.ofNat (puts.map Put.size).sum
  grows : c.sequence.toNat + (puts.map Put.size).sum < UInt64.size →
    d.sequence.toNat = c.sequence.toNat + (puts.map Put.size).sum
  others : ∀ other, other ≠ name → d.tables.get? other = c.tables.get? other

theorem spared_of_put {e : StoreError} (h : (c.put handle now puts).result = .error e) :
    c.Spared (c.put handle now puts).state := by
  rcases c.put_cases handle now puts with ⟨_, left, -, hleft, hstate⟩ | ⟨_, _, -, -, -, hok, -⟩
  · exact ⟨left, hleft, hstate⟩
  · rw [h] at hok
    cases hok

theorem wrote_of_put (h : (c.put handle now puts).result = .ok ()) :
    c.Wrote handle.name puts (c.put handle now puts).state := by
  rcases c.put_cases handle now puts with ⟨e, left, herror, -⟩ |
    ⟨t, cells, -, -, hcells, -, hstate⟩
  · rw [h] at herror
    cases herror
  · have hlength : cells.length = (puts.map Put.size).sum := by
      have hfields := congrArg List.length (Put.fields_of_encodeAll hcells)
      rwa [List.length_map, List.length_map, Put.length_writes] at hfields
    have hsequence : (t.storeAll c.sequence cells).2 =
        c.sequence + UInt64.ofNat (puts.map Put.size).sum := by
      rw [StoredTable.storeAll_eq, hlength]
    rw [hstate]
    constructor
    case batches => rfl
    case sequence => exact hsequence
    case grows =>
      intro hbound
      simp only [hsequence, UInt64.toNat_add, UInt64.toNat_ofNat']
      rw [Nat.add_mod_mod]
      exact Nat.mod_eq_of_lt hbound
    case others =>
      intro other hother
      exact OrderedMap.get?_insert_of_ne _ hother _

/-- The handle that a service opens for a write is released again. -/
theorem Spared.released {d : Cluster}
    (h : Spared { c with gauges.tables := c.gauges.tables + 1 } d) : c.Spared d.releaseTable := by
  obtain ⟨left, hleft, rfl⟩ := h
  refine ⟨left, hleft, ?_⟩
  simp [releaseTable]

theorem spared_of_service_put {service : Service Cluster} {table : String}
    {requests : List WriteRequest} {e : ClientError}
    (h : (service.put c now table requests).result = .error e) :
    c.Spared (service.put c now table requests).state := by
  have hsame : c.Spared c := ⟨c.faults.puts, Nat.le_refl _, rfl⟩
  unfold Service.put at h ⊢
  cases hservice : service.connected? with
  | none => exact hsame
  | some connection =>
      rw [hservice] at h
      dsimp only at h ⊢
      by_cases hrequests : requests.isEmpty
      · rw [if_pos hrequests]
        exact hsame
      · rw [if_neg hrequests] at h ⊢
        have hopening : Store.openTable c connection table = c.openTable connection table := rfl
        cases hopen : Connection.closed connection with
        | true =>
            rw [hopening, openTable_of_closed hopen]
            exact hsame
        | false =>
            rw [hopening, openTable_of_open hopen] at h ⊢
            dsimp only at h ⊢
            split at h
            · next hwritten =>
              exact (spared_of_put hwritten).released
            · cases h

/-- A write that fails leaves the rows, the record of batches and the sequence ids as they are, and a
write that succeeds takes its batch as a whole. -/
theorem put_atomic (c : Cluster) :
    (∀ handle now puts, (c.put handle now puts).result = .ok () ↔ c.Takes handle now puts) ∧
    (∀ handle now puts e, (c.put handle now puts).result = .error e →
      c.Spared (c.put handle now puts).state) ∧
    (∀ (service : Service Cluster) now table requests e,
      (service.put c now table requests).result = .error e →
        c.Spared (service.put c now table requests).state) ∧
    ∀ handle now puts, (c.put handle now puts).result = .ok () →
      c.Wrote handle.name puts (c.put handle now puts).state := by
  refine ⟨?_, ?_, ?_, ?_⟩
  · intro handle now puts
    exact put_eq_ok_iff
  · intro handle now puts e h
    exact spared_of_put h
  · intro service now table requests e h
    exact spared_of_service_put h
  · intro handle now puts h
    exact wrote_of_put h

end Cluster

end ColumnStore
