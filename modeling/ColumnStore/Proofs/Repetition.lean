import ColumnStore.Proofs.Batching
import ColumnStore.Proofs.Retries

/-!
# Batches put again or in another order

A table is what comes of storing every cell that was ever written to it (`Reached.replayed`), and of all
these writes just the last one under each address counts (`Reached.contents_eq`), whatever was cut off
on the way. So nothing changes when a batch is put again whose columns have times of their own, and
two such batches can be exchanged if they have no address in common.
-/

namespace ColumnStore

namespace CellFields

def address (f : CellFields) : Bytes × Column × Timestamp :=
  (f.row, f.column, f.timestamp)

/-- Two histories end with the same write under every address. -/
def SameLast (fs gs : List CellFields) : Prop :=
  ∀ a, fs.findRev? (·.address = a) = gs.findRev? (·.address = a)

theorem findRev?_append (p : CellFields → Bool) (fs gs : List CellFields) :
    (fs ++ gs).findRev? p = (gs.findRev? p).or (fs.findRev? p) := by
  simp only [List.findRev?_eq_find?_reverse, List.reverse_append, List.find?_append]

theorem lastAt_filter (fs : List CellFields) (row : Bytes) (column : Column) (t : Timestamp) :
    Versions.lastAt CellFields.timestamp (fs.filter (·.isAt row column)) t =
      fs.findRev? (·.address = (row, column, t)) := by
  rw [Versions.lastAt, List.findRev?_eq_find?_reverse, List.findRev?_eq_find?_reverse,
    ← List.filter_reverse, List.find?_filter]
  congr 1
  funext f
  simp [isAt, address, and_assoc]

theorem any_isAt_iff {fs : List CellFields} {row : Bytes} {column : Column} :
    fs.any (·.isAt row column) ↔ ∃ t, (fs.findRev? (·.address = (row, column, t))).isSome := by
  simp only [List.findRev?_eq_find?_reverse, List.find?_isSome, List.mem_reverse, List.any_eq_true,
    decide_eq_true_eq]
  constructor
  · rintro ⟨f, hf, hat⟩
    obtain ⟨hrow, hcolumn⟩ := of_decide_eq_true hat
    exact ⟨f.timestamp, f, hf, by rw [address, hrow, hcolumn]⟩
  · rintro ⟨t, f, hf, haddress⟩
    obtain ⟨hrow, hcolumn, -⟩ : f.row = row ∧ f.column = column ∧ f.timestamp = t := by
      simpa [address] using haddress
    exact ⟨f, hf, decide_eq_true ⟨hrow, hcolumn⟩⟩

namespace SameLast

variable {fs gs : List CellFields}

theorem any_isAt (h : SameLast fs gs) (row : Bytes) (column : Column) :
    fs.any (·.isAt row column) = gs.any (·.isAt row column) := by
  rw [Bool.eq_iff_iff, any_isAt_iff, any_isAt_iff]
  simp only [h _]

theorem newest_eq (h : SameLast fs gs) (count : Nat) (row : Bytes) (column : Column) :
    Versions.newest CellFields.timestamp count (fs.filter (·.isAt row column)) =
      Versions.newest CellFields.timestamp count (gs.filter (·.isAt row column)) := by
  apply Versions.newest_congr
  intro t
  rw [lastAt_filter, lastAt_filter, h]

/-- What is written again had the last word before. -/
theorem again (fs gs : List CellFields) : SameLast (fs ++ gs ++ gs) (fs ++ gs) := by
  intro a
  rw [findRev?_append, findRev?_append]
  cases gs.findRev? (·.address = a) <;> rfl

/-- Writes without a common address can be exchanged. -/
theorem exchange (es : List CellFields)
    (h : (fs.map address).Disjoint (gs.map address)) :
    SameLast (es ++ fs ++ gs) (es ++ gs ++ fs) := by
  intro a
  simp only [findRev?_append]
  cases hf : fs.findRev? (·.address = a) with
  | none => cases gs.findRev? (·.address = a) <;> rfl
  | some f =>
      cases hg : gs.findRev? (·.address = a) with
      | none => rfl
      | some g =>
          rw [List.findRev?_eq_find?_reverse] at hf hg
          have hfa : f.address = a := by simpa using List.find?_some hf
          have hga : g.address = a := by simpa using List.find?_some hg
          have hfmem := List.mem_map_of_mem (f := address)
            (List.mem_reverse.mp (List.mem_of_find?_eq_some hf))
          have hgmem := List.mem_map_of_mem (f := address)
            (List.mem_reverse.mp (List.mem_of_find?_eq_some hg))
          rw [hfa] at hfmem
          rw [hga] at hgmem
          exact (h hfmem hgmem).elim

end SameLast

end CellFields

/-! ## What a history leaves in a table -/

theorem StoredTable.contents_replay {descriptor : TableDescriptor} {cells cells' : List Cell}
    (h : CellFields.SameLast (cells'.map Cell.fields) (cells.map Cell.fields)) :
    (cells'.foldl store { descriptor }).contents = (cells.foldl store { descriptor }).contents := by
  apply contents_foldl_store_eq h.any_isAt
  intro row column
  have hempty : Versions.Descending Cell.timestamp
      (Cluster.versionsIn ({ descriptor } : StoredTable).rows row column) := .nil
  have hnewest : ∀ fs : List CellFields,
      fs.foldl (fun gs f ↦ (Versions.place CellFields.timestamp f gs).take
          (({ descriptor } : StoredTable).retained column.family)) [] =
        Versions.newest CellFields.timestamp
          (({ descriptor } : StoredTable).retained column.family) fs := by
    intro fs
    rw [← Versions.take_foldl_place, ← Versions.foldl_place_take, List.take_nil]
  rw [fields_versions_foldl_store hempty, fields_versions_foldl_store hempty]
  have hnil : (Cluster.versionsIn ({ descriptor } : StoredTable).rows row column).map
    Cell.fields = [] := rfl
  rw [hnil, hnewest, hnewest, h.newest_eq]

namespace Cluster

variable {c d : Cluster} {log log' : List LoggedWrite}

/-- A table comes from an empty one by storing all cells that were written to it, in their order. -/
theorem Reached.replayed (h : Reached c log) {name : String} {t : StoredTable}
    (ht : c.tables.get? name = some t) :
    ∃ cells : List Cell, t = cells.foldl StoredTable.store { descriptor := t.descriptor } ∧
      cells.map (LoggedWrite.ofCell name) = log.filter (·.table = name) := by
  induction h generalizing t with
  | new quorum port parent => cases ht
  | @perform c log hc operation ih =>
      cases c.effect operation with
      | quiet same accepted =>
          rw [accepted, List.append_nil]
          rw [same.tables] at ht
          exact ih ht
      | created descriptor absent tables sequence accepted =>
          rw [accepted, List.append_nil]
          rw [tables, OrderedMap.get?_insert] at ht
          split at ht
          · next hname =>
            cases ht
            refine ⟨[], rfl, (List.filter_eq_nil_iff.mpr ?_).symm⟩
            intro w hw hat
            exact hc.accounted.present w hw (of_decide_eq_true hat ▸ hname ▸ absent)
          · exact ih ht
      | stored name' t' cells present tables sequence accepted =>
          rw [tables, OrderedMap.get?_insert] at ht
          rw [accepted, List.filter_append]
          split at ht
          · next hname =>
            subst hname
            cases ht
            obtain ⟨before, hbefore, hlog⟩ := ih present
            refine ⟨before ++ StoredTable.numbered c.sequence cells, ?_, ?_⟩
            · rw [List.foldl_append, StoredTable.descriptor_foldl_store, ← hbefore]
            · rw [List.map_append, hlog, LoggedWrite.map_ofCell_numbered, List.append_cancel_left_eq,
                eq_comm, List.filter_eq_self]
              intro w hw
              exact decide_eq_true (LoggedWrite.table_of_mem_number hw)
          · next hne =>
            have hother : (LoggedWrite.number name' c.sequence (cells.map Cell.fields)).filter
                (·.table = name) = [] := by
              rw [List.filter_eq_nil_iff]
              intro w hw hat
              exact hne ((of_decide_eq_true hat).symm.trans (LoggedWrite.table_of_mem_number hw))
            rw [hother, List.append_nil]
            exact ih ht

/-- What was written to a table, apart from sequence ids. -/
def writtenTo (name : String) (log : List LoggedWrite) : List CellFields :=
  (log.filter (·.table = name)).map LoggedWrite.fields

theorem writtenTo_append (name : String) (log log' : List LoggedWrite) :
    writtenTo name (log ++ log') = writtenTo name log ++ writtenTo name log' := by
  rw [writtenTo, List.filter_append, List.map_append]
  rfl

theorem writtenTo_number (name table : String) (sequence : UInt64) (fs : List CellFields) :
    writtenTo name (LoggedWrite.number table sequence fs) = if table = name then fs else [] := by
  unfold writtenTo
  split
  · next hname =>
    rw [List.filter_eq_self.mpr, LoggedWrite.map_fields_number]
    intro w hw
    exact decide_eq_true ((LoggedWrite.table_of_mem_number hw).trans hname)
  · next hname =>
    rw [List.filter_eq_nil_iff.mpr, List.map_nil]
    intro w hw hat
    exact hname ((LoggedWrite.table_of_mem_number hw).symm.trans (of_decide_eq_true hat))

/-- Clusters with the same tables hold the same, up to sequence ids, if their histories end with the
same write under every address. -/
theorem Reached.contents_eq (h : Reached c log) (h' : Reached d log')
    (hdescriptor : ∀ name, (c.tables.get? name).map StoredTable.descriptor =
      (d.tables.get? name).map StoredTable.descriptor)
    (hlast : ∀ name, CellFields.SameLast (writtenTo name log) (writtenTo name log')) :
    c.contents = d.contents := by
  apply OrderedMap.ext_get?
  intro name
  have hname := hdescriptor name
  rw [contents, contents, OrderedMap.get?_mapValues, OrderedMap.get?_mapValues]
  cases ht : c.tables.get? name with
  | none =>
      cases hu : d.tables.get? name with
      | none => rfl
      | some u =>
          rw [ht, hu] at hname
          cases hname
  | some t =>
      cases hu : d.tables.get? name with
      | none =>
          rw [ht, hu] at hname
          cases hname
      | some u =>
          rw [ht, hu] at hname
          have hsame : t.descriptor = u.descriptor := Option.some.inj hname
          obtain ⟨cells, hcells, hlog⟩ := h.replayed ht
          obtain ⟨cells', hcells', hlog'⟩ := h'.replayed hu
          have hfields : ∀ {log : List LoggedWrite} {cells : List Cell},
              cells.map (LoggedWrite.ofCell name) = log.filter (·.table = name) →
                cells.map Cell.fields = writtenTo name log := by
            intro log cells hlog
            rw [writtenTo, ← hlog, List.map_map]
            rfl
          have hcontents : t.contents = u.contents := by
            rw [hcells, hcells', hsame]
            apply StoredTable.contents_replay
            rw [hfields hlog, hfields hlog']
            exact hlast name
          rw [Option.map_some, Option.map_some, hsame, hcontents]

end Cluster

/-! ## Batches with times of their own -/

namespace Submission

/-- Every column of a batch has a time of its own, so that the store assigns none. -/
def Timed (s : Submission) : Prop :=
  ∀ p ∈ s.puts, p.needsStamp = false

instance (s : Submission) : Decidable s.Timed :=
  inferInstanceAs (Decidable (∀ p ∈ s.puts, p.needsStamp = false))

/-- The row, the column and the time of every write of a batch. -/
def targets (s : Submission) : List (Bytes × Column × Option Timestamp) :=
  (Put.writes s.puts).map fun write ↦ (write.1, write.2.column, write.2.timestamp)

def fields (s : Submission) : List CellFields :=
  (Put.writes s.puts).map (Put.fieldsOf s.now)

variable {s other again : Submission}

theorem Timed.exists_timestamp (h : s.Timed) {write : Bytes × ColumnWrite}
    (hwrite : write ∈ Put.writes s.puts) : ∃ t, write.2.timestamp = some t := by
  obtain ⟨p, hp, hwrite⟩ := List.mem_flatMap.mp hwrite
  obtain ⟨w, hw, rfl⟩ := List.mem_map.mp hwrite
  have hstamp := h p hp
  rw [Put.needsStamp, List.any_eq_false] at hstamp
  exact Option.ne_none_iff_exists'.mp (by simpa using hstamp w hw)

/-- The same batch, perhaps through another handle on its table and at another time. -/
structure SameBatch (again s : Submission) : Prop where
  table : again.handle.name = s.handle.name
  puts : again.puts = s.puts
  attempted : 0 < again.handle.attempts

theorem Timed.fields_eq (h : s.Timed) (hsame : again.SameBatch s) : again.fields = s.fields := by
  rw [fields, fields, hsame.puts]
  apply List.map_congr_left
  intro write hwrite
  obtain ⟨t, ht⟩ := h.exists_timestamp hwrite
  rw [Put.fieldsOf, Put.fieldsOf, ht]
  rfl

theorem Timed.target_of_mem (h : s.Timed) {a : Bytes × Column × Timestamp}
    (ha : a ∈ s.fields.map CellFields.address) : (a.1, a.2.1, some a.2.2) ∈ s.targets := by
  obtain ⟨f, hf, rfl⟩ := List.mem_map.mp ha
  obtain ⟨write, hwrite, rfl⟩ := List.mem_map.mp hf
  obtain ⟨t, ht⟩ := h.exists_timestamp hwrite
  refine List.mem_map.mpr ⟨write, hwrite, ?_⟩
  simp only [CellFields.address, Put.fieldsOf, ht, Option.getD_some]
  rfl

theorem Timed.disjoint (h : s.Timed) (hother : other.Timed) (hapart : s.targets.Disjoint other.targets) :
    (s.fields.map CellFields.address).Disjoint (other.fields.map CellFields.address) := by
  intro a ha ha'
  exact hapart (h.target_of_mem ha) (hother.target_of_mem ha')

end Submission

namespace Cluster

variable {c d : Cluster} {log log' : List LoggedWrite} {s other : Submission}

theorem Reached.submit (h : Reached c log) (hs : (c.submit s).result = .ok ()) :
    Reached (c.submit s).state (log ++ LoggedWrite.number s.handle.name c.sequence s.fields) := by
  have haccepted : c.accepted (.put s.handle s.now s.puts) =
      LoggedWrite.number s.handle.name c.sequence s.fields := by
    have hput : (c.put s.handle s.now s.puts).result = .ok () := hs
    rw [accepted, hput, Submission.fields]
  have hreached := h.perform (.put s.handle s.now s.puts)
  rwa [haccepted] at hreached

/-- Apart from its tables, its sequence ids and its record of batches a cluster is the same, and no
attempt will fail. -/
def Advanced (c d : Cluster) : Prop :=
  ∃ tables sequence batches, d = { c with tables, sequence, batches, faults.puts := 0 }

theorem Advanced.trans {e : Cluster} (hcd : c.Advanced d) (hde : d.Advanced e) : c.Advanced e := by
  obtain ⟨_, _, _, rfl⟩ := hcd
  obtain ⟨tables, sequence, batches, rfl⟩ := hde
  exact ⟨tables, sequence, batches, rfl⟩

theorem Advanced.agrees {e : Cluster} (hcd : c.Advanced d) (hce : c.Advanced e)
    (hcontents : d.contents = e.contents) : d.Agrees e := by
  obtain ⟨_, _, _, rfl⟩ := hcd
  obtain ⟨_, _, _, rfl⟩ := hce
  exact ⟨hcontents, rfl⟩

theorem advanced_submit (hs : (c.submit s).result = .ok ()) : c.Advanced (c.submit s).state := by
  obtain ⟨hadmissible, hless, hfits⟩ := submit_eq_ok_iff.mp hs
  obtain ⟨d, ⟨t, cells, -, -, rfl⟩, hsubmit⟩ := submit_of_fits hadmissible hless hfits
  rw [hsubmit]
  exact ⟨_, _, _, rfl⟩

/-- A batch that can be written can be written again after any other one. -/
theorem submit_again {again : Submission} (hs : (c.submit s).result = .ok ()) (htimed : s.Timed)
    (hsame : again.SameBatch s) (hother : (c.submit other).result = .ok ()) :
    ((c.submit other).state.submit again).result = .ok () := by
  obtain ⟨⟨t, htable, hdeclared⟩, -, hfits⟩ := submit_eq_ok_iff.mp hs
  have hadmissible : again.Admissible c :=
    ⟨t, by rw [hsame.table, htable], by rw [hsame.puts]; exact hdeclared⟩
  refine submit_eq_ok_iff.mpr ⟨(admissible_submit c other again).mpr hadmissible, ?_, ?_⟩
  · obtain ⟨tables, sequence, batches, hstate⟩ := advanced_submit hother
    rw [hstate]
    exact hsame.attempted
  · have hwithin : ∀ f ∈ s.fields, f.WithinLimits := List.forall_mem_map.mpr hfits
    rw [← htimed.fields_eq hsame] at hwithin
    exact List.forall_mem_map.mp hwithin

theorem descriptor_submit_submit (c : Cluster) (s other : Submission) (name : String) :
    (((c.submit s).state.submit other).state.tables.get? name).map StoredTable.descriptor =
      (c.tables.get? name).map StoredTable.descriptor := by
  rw [descriptor_submit, descriptor_submit]

theorem Reached.contents_again {again : Submission} (h : Reached c log)
    (hs : (c.submit s).result = .ok ()) (htimed : s.Timed) (hsame : again.SameBatch s)
    (hagain : ((c.submit s).state.submit again).result = .ok ()) :
    ((c.submit s).state.submit again).state.contents = (c.submit s).state.contents := by
  apply Reached.contents_eq ((h.submit hs).submit hagain) (h.submit hs)
  · intro name
    rw [descriptor_submit_submit, descriptor_submit]
  · intro name
    rw [writtenTo_append, writtenTo_append, writtenTo_number, writtenTo_number,
      htimed.fields_eq hsame, hsame.table]
    exact CellFields.SameLast.again _ _

theorem Reached.contents_exchanged {again later : Submission} (h : Reached c log)
    (hs : (c.submit s).result = .ok ()) (ho : (c.submit other).result = .ok ())
    (htimed : s.Timed) (hother : other.Timed)
    (hagain : again.SameBatch s) (hlater : later.SameBatch other)
    (hstraight : ((c.submit s).state.submit later).result = .ok ())
    (hcrossed : ((c.submit other).state.submit again).result = .ok ())
    (hapart : s.handle.name = other.handle.name → s.targets.Disjoint other.targets) :
    ((c.submit s).state.submit later).state.contents =
      ((c.submit other).state.submit again).state.contents := by
  apply Reached.contents_eq ((h.submit hs).submit hstraight) ((h.submit ho).submit hcrossed)
  · intro name
    rw [descriptor_submit_submit, descriptor_submit_submit]
  · intro name
    simp only [writtenTo_append, writtenTo_number, htimed.fields_eq hagain,
      hother.fields_eq hlater, hagain.table, hlater.table]
    apply CellFields.SameLast.exchange
    split
    · next hname =>
      split
      · next hname' => exact htimed.disjoint hother (hapart (hname.trans hname'.symm))
      · simp
    · simp

/-- A batch whose columns have times of their own leaves the same when it is put once more. Two such
batches leave the same in either order, unless they go to one table and have a target in common. How
many versions a family retains does not matter, nor what was cut off in between. -/
theorem Reached.submit_again_or_exchanged {again later : Submission} (h : Reached c log)
    (htimed : s.Timed) (hother : other.Timed) (hs : (c.submit s).result = .ok ())
    (ho : (c.submit other).result = .ok ()) (hagain : again.SameBatch s)
    (hlater : later.SameBatch other) :
    (((c.submit s).state.submit again).result = .ok () ∧
      ((c.submit s).state.submit again).state.Agrees (c.submit s).state) ∧
    ((s.handle.name = other.handle.name → s.targets.Disjoint other.targets) →
      ((c.submit s).state.submit later).result = .ok () ∧
      ((c.submit other).state.submit again).result = .ok () ∧
      ((c.submit s).state.submit later).state.Agrees
        ((c.submit other).state.submit again).state) := by
  have hrepeated := submit_again hs htimed hagain hs
  have hstraight := submit_again ho hother hlater hs
  have hcrossed := submit_again hs htimed hagain ho
  refine ⟨⟨hrepeated, ?_⟩, fun hapart ↦ ⟨hstraight, hcrossed, ?_⟩⟩
  · have hcontents := h.contents_again hs htimed hagain hrepeated
    have hadvanced := (advanced_submit hs).trans (advanced_submit hrepeated)
    exact hadvanced.agrees (advanced_submit hs) hcontents
  · have hcontents :=
      h.contents_exchanged hs ho htimed hother hagain hlater hstraight hcrossed hapart
    have hadvanced := (advanced_submit hs).trans (advanced_submit hstraight)
    exact hadvanced.agrees ((advanced_submit ho).trans (advanced_submit hcrossed)) hcontents

/-- A batch that writes one time of a column twice, and another time that is cut off at once. -/
def sampleEarly : Submission :=
  ⟨⟨"t", 1⟩, 8, [⟨[114], [⟨[102], [97], some 6, [60], []⟩, ⟨[102], [97], some 3, [30], []⟩]⟩,
    ⟨[114], [⟨[102], [97], some 6, [61], [7]⟩]⟩]⟩

/-- A batch that writes another time of the same column, which cuts off what was there before. -/
def sampleLate : Submission :=
  ⟨⟨"t", 2⟩, 9, [⟨[114], [⟨[102], [97], some 7, [70], []⟩, ⟨[103], [], some 2, [], []⟩]⟩]⟩

theorem submit_again_or_exchanged_sample :
    sampleEarly.Timed ∧ sampleLate.Timed ∧ sampleEarly.targets.Disjoint sampleLate.targets ∧
      (sample.submit sampleEarly).result = .ok () ∧ (sample.submit sampleLate).result = .ok () ∧
      ((sample.submit sampleEarly).state.submit sampleEarly).state.Agrees
        (sample.submit sampleEarly).state ∧
      ((sample.submit sampleEarly).state.submit sampleLate).state.Agrees
        ((sample.submit sampleLate).state.submit sampleEarly).state ∧
      ((sample.submit sampleEarly).state.versions "t" [114] ⟨[102], [97]⟩).map
          (fun cell ↦ (cell.timestamp, cell.value, cell.tags)) =
        [(6, [61], [7]), (5, [51], [7])] ∧
      (((sample.submit sampleEarly).state.submit sampleLate).state.versions "t" [114]
          ⟨[102], [97]⟩).map (fun cell ↦ (cell.timestamp, cell.value, cell.tags)) =
        [(7, [70], []), (6, [61], [7])] := by
  have hearly : sampleEarly.Timed := by decide
  have hlate : sampleLate.Timed := by decide
  have hapart : sampleEarly.targets.Disjoint sampleLate.targets := by
    rw [List.disjoint_left]
    decide
  have hs : (sample.submit sampleEarly).result = .ok () := rfl
  have ho : (sample.submit sampleLate).result = .ok () := rfl
  have hagain : sampleEarly.SameBatch sampleEarly := ⟨rfl, rfl, by decide⟩
  have hlater : sampleLate.SameBatch sampleLate := ⟨rfl, rfl, by decide⟩
  obtain ⟨⟨-, hrepeated⟩, hexchanged⟩ :=
    reached_sample.submit_again_or_exchanged hearly hlate hs ho hagain hlater
  exact ⟨hearly, hlate, hapart, hs, ho, hrepeated, (hexchanged fun _ ↦ hapart).2.2, rfl, rfl⟩

end Cluster

end ColumnStore
