import ColumnStore.Proofs.Delivery
import ColumnStore.Proofs.Grouping

/-!
# Reading what was written

A write that is not older than the stored versions of its column becomes the newest of them
(`AccountedBy.head?_versions_perform`). So the next scan hands it over, once, whatever else was in its
batch (`Reached.scan_after_put`).
-/

namespace ColumnStore

namespace Cluster

variable {c : Cluster} {log : List LoggedWrite}

theorem AccountedBy.head?_versions_perform (h : AccountedBy c log) {operation : Operation}
    {table : String} {row : Bytes} {column : Column} {w : LoggedWrite}
    (haccepted : (c.accepted operation).filter (·.isAt table row column) = [w])
    (hretained : 0 < c.retained table column.family)
    (hnow : ∀ v ∈ c.versions table row column, v.timestamp ≤ w.timestamp) :
    ∃ cell, ((c.perform operation).versions table row column).head? = some cell ∧
      LoggedWrite.ofCell table cell = w := by
  have hversions := h.versions_perform operation table row column
  rw [List.filter_append, haccepted, Versions.newest_concat, ← h.map_versions] at hversions
  have hplace : (Versions.place LoggedWrite.timestamp w
      ((c.versions table row column).map (LoggedWrite.ofCell table))).head? = some w := by
    apply Versions.head?_place
    intro v hv
    obtain ⟨cell, hcell, rfl⟩ := List.mem_map.mp hv
    exact hnow cell hcell
  have hhead := congrArg List.head? hversions
  rw [List.head?_map, List.head?_take, if_neg (Nat.ne_of_gt hretained), hplace] at hhead
  exact Option.map_eq_some_iff.mp hhead

/-- Before the sequence ids run out a cell that is written has a greater one than all stored cells. -/
theorem AccountedBy.sequenceId_lt (h : AccountedBy c log) {operation : Operation}
    (hids : (log ++ c.accepted operation).length < 2 ^ 64) {w : LoggedWrite}
    (hw : w ∈ c.accepted operation) {table : String} {row : Bytes} {column : Column} {cell : Cell}
    (hcell : cell ∈ c.versions table row column) : cell.sequenceId < w.sequenceId := by
  obtain ⟨-, -, hless⟩ := List.pairwise_append.mp ((h.perform operation).ascending_sequenceIds hids)
  exact hless _ (h.of_mem_versions hcell).1 w hw

/-- Of the requests for a column a batch takes the last one, under one sequence id. -/
theorem accepted_group {handle : TableHandle} {now : Timestamp} {requests : List WriteRequest}
    (hok : (c.put handle now (Put.group requests)).result = .ok ()) {w : WriteRequest}
    (hw : w ∈ requests) :
    ∃ last v, requests.findRev? w.sameColumn = some last ∧
      (c.accepted (.put handle now (Put.group requests))).filter
        (·.isAt handle.name (Bytes.ofString w.row) w.column.column) = [v] ∧
      v.fields = Put.fieldsOf now (Bytes.ofString w.row, last.column) := by
  have hsame : w.sameColumn = fun v ↦ v.isAt (Bytes.ofString w.row) w.column.column := by
    funext v
    exact (WriteRequest.isAt_eq_sameColumn w v).symm
  obtain ⟨last, hlast⟩ : ∃ last, requests.findRev? w.sameColumn = some last := by
    rw [List.findRev?_eq_find?_reverse, ← Option.isSome_iff_exists, List.find?_isSome]
    exact ⟨w, List.mem_reverse.mpr hw, by simp [WriteRequest.sameColumn]⟩
  have hfields := Put.filter_group now requests (Bytes.ofString w.row) w.column.column
  rw [← hsame, hlast] at hfields
  obtain ⟨v, hv, hvfields⟩ := LoggedWrite.filter_number c.sequence hfields
  refine ⟨last, v, hlast, ?_, hvfields⟩
  rw [accepted, hok]
  exact hv

/-- A version that is picked is in just one of the calls for its row, and there just once. -/
theorem AccountedBy.call_of_pick (h : AccountedBy c log) {scan : Scan} (hfilter : scan.filter = none)
    {table : String} {key : Bytes} {column : Column} {cell : Cell}
    (hselects : scan.selects column.family column.qualifier)
    (hpick : scan.newestInRange (c.versions table key column) = some cell) :
    ∃ call : Bytes × List CellRecord,
      ((scan.returned (c.rows table)).map RowResult.call).filter (fun call ↦ call.1 = key) = [call] ∧
      call.2.filter (fun r ↦ r.family.bytes = column.family ∧ r.qualifier.bytes = column.qualifier) =
        [CellRecord.ofCell cell] := by
  obtain ⟨r, hr, hkey, hcell⟩ := exists_mem_returned hfilter hselects hpick
  have hcolumn : cell.column = column :=
    (h.of_mem_versions (Scan.mem_of_newestInRange hpick).1).2.2
  have hrows : (scan.returned (c.rows table)).filter (fun r ↦ r.row = key) = [r] :=
    filter_eq_singleton (scan.nodup_returned _) hr hkey
  have hcells : r.cells.filter (fun x ↦ x.column = column) = [cell] :=
    filter_eq_singleton (h.nodup_cells hr) hcell hcolumn
  refine ⟨r.call, ?_, ?_⟩
  · rw [List.filter_map]
    exact congrArg (List.map RowResult.call) hrows
  · have hrecord : ((fun r : CellRecord ↦
          decide (r.family.bytes = column.family ∧ r.qualifier.bytes = column.qualifier)) ∘
        CellRecord.ofCell) = fun x ↦ decide (x.column = column) := by
      funext x
      refine decide_eq_decide.mpr ⟨?_, ?_⟩
      · rintro ⟨hfamily, hqualifier⟩
        exact congrArg₂ Column.mk hfamily hqualifier
      · intro hx
        exact Column.mk.inj hx
    rw [RowResult.call, RowResult.records, List.filter_map, hrecord, hcells]
    rfl

/-- What a put through a service wrote is read by the next scan without restrictions: each column of
each row that was asked for in one call for the row and in one record, with the value of the last
request for it, the time of the put, and a sequence id above those of all cells that were there
before, unless the sequence ids ran out. -/
theorem Reached.scan_after_put (h : Reached c log) (service : Service Cluster) (table : String)
    (now : Timestamp) (requests : List WriteRequest) (hne : requests ≠ [])
    (hput : (service.put c now table requests).result = .ok ())
    (hretained : ∀ w ∈ requests, 0 < c.retained table (Bytes.ofString w.family))
    (hnow : ∀ w ∈ requests, ∀ v ∈ c.versions table (Bytes.ofString w.row) w.column.column,
      v.timestamp ≤ now)
    (hmax : now < Int64.maxValue) (d : Cluster)
    (hquiet : (service.put c now table requests).state.Quiet d) (hscans : d.faults.scans = none)
    (minTime : Timestamp) (hmin : minTime ≤ now) :
    ∃ calls : List (Bytes × List CellRecord),
      (∀ {η : Type} (handler : RowHandler η), handler.Accepting → ∀ h₀,
        (service.scan d { table, minTime } handler h₀).result = .ok () ∧
          (service.scan d { table, minTime } handler h₀).state.2 = handler.after h₀ calls) ∧
      ∀ w ∈ requests, ∃ last call record, requests.findRev? w.sameColumn = some last ∧
        calls.filter (fun call ↦ call.1 = Bytes.ofString w.row) = [call] ∧
        call.2.filter (fun r ↦ r.family.bytes = Bytes.ofString w.family ∧
          r.qualifier.bytes = Bytes.ofString w.qualifier) = [record] ∧
        record.row.bytes = Bytes.ofString w.row ∧ record.value.bytes = last.value ∧
        record.timestamp = now ∧ record.typeByte = 4 ∧ record.tags.bytes = [] ∧
        (log.length + requests.length < 2 ^ 64 → ∀ name row column,
          ∀ cell ∈ c.versions name row column, cell.sequenceId < record.sequenceId) := by
  obtain ⟨connection, b, handle, hservice, hopen, hb, hname, hok, hperform⟩ := put_of_ok hne hput
  subst hname
  have hbefore : AccountedBy b log := h.accounted.quiet hb
  have hafter := (hbefore.perform (.put handle now (Put.group requests))).quiet
    (hperform.trans hquiet)
  refine ⟨((Scan.build [] none minTime).returned (d.rows handle.name)).map RowResult.call,
    fun {η} handler haccepting h₀ ↦ ?_, fun w hw ↦ ?_⟩
  -- The table is there, since something was written to it, and so the scan can start.
  · have hcan : d.Scannable connection handle.name (Scan.build [] none minTime) := by
      obtain ⟨w, hw⟩ := List.exists_mem_of_ne_nil requests hne
      obtain ⟨-, v, -, hv, -⟩ := accepted_group hok hw
      obtain ⟨hmem, hat⟩ := List.mem_filter.mp (hv ▸ List.mem_singleton_self v)
      have hpresent := hafter.present v (List.mem_append_right log hmem)
      rw [(of_decide_eq_true hat).1] at hpresent
      obtain ⟨t, ht⟩ := Option.ne_none_iff_exists'.mp hpresent
      exact ⟨hopen, hscans, t, ht, fun family hfamily ↦ absurd hfamily List.not_mem_nil⟩
    rcases hafter.scan_cases service { table := handle.name, minTime } handler h₀ haccepting rfl with
      ⟨-, hcannot⟩ | hdone
    · exact (hcannot connection hservice hcan).elim
    · exact hdone
  -- The write of the last request is the newest version of its column, and so it is picked.
  · obtain ⟨last, v, hlast, hv, hfields⟩ := accepted_group hok hw
    have htime : v.timestamp = now := congrArg CellFields.timestamp hfields
    obtain ⟨cell, hhead, hcell⟩ := hbefore.head?_versions_perform hv
      (by rw [hb.retained]; exact hretained w hw)
      (by rw [hb.versions, htime]; exact hnow w hw)
    have hcellFields : cell.fields = Put.fieldsOf now (Bytes.ofString w.row, last.column) :=
      (congrArg LoggedWrite.fields hcell).trans hfields
    have hcellTime : cell.timestamp = now := congrArg CellFields.timestamp hcellFields
    have hpick : (Scan.build [] none minTime).newestInRange
        (d.versions handle.name (Bytes.ofString w.row) w.column.column) = some cell := by
      apply Scan.newestInRange_of_head? (hafter.descending_versions _ _ _)
      · rw [(hperform.trans hquiet).versions]
        exact hhead
      · rw [hcellTime]
        have hrange : (minTime ≤ now && now < Int64.maxValue) = true := by simp [hmin, hmax]
        exact hrange
    obtain ⟨call, hcall, hrecord⟩ := hafter.call_of_pick rfl rfl hpick
    refine ⟨last, call, CellRecord.ofCell cell, hlast, hcall, hrecord,
      congrArg CellFields.row hcellFields, congrArg CellFields.value hcellFields, hcellTime, ?_,
      congrArg CellFields.tags hcellFields, ?_⟩
    · have htype := Cell.typeByte_of_encode cell.fits_fields cell.buffer_eq_encode
      rw [hcellFields] at htype
      exact htype
    · intro hids name row column older holder
      have hlength : (log ++ b.accepted (.put handle now (Put.group requests))).length < 2 ^ 64 := by
        have hwrites := Put.length_writes_group_le requests
        rw [accepted, hok, List.length_append, LoggedWrite.length_number, List.length_map]
        omega
      have hvmem := (List.mem_filter.mp (hv ▸ List.mem_singleton_self v)).1
      have hsequenceId : cell.sequenceId = v.sequenceId := congrArg LoggedWrite.sequenceId hcell
      rw [← hb.versions] at holder
      have hlt := hbefore.sequenceId_lt hlength hvmem holder
      rw [← hsequenceId] at hlt
      exact hlt

/-- Requests for two columns of a row. One of them is asked for twice, and has versions already. -/
def sampleRequests : List WriteRequest :=
  [⟨"r", "f", "a", [1]⟩, ⟨"r", "g", "", [3]⟩, ⟨"r", "f", "a", [2]⟩]

theorem scan_after_sampleRequests :
    ∃ calls call record,
      (sampleService.scan (sampleService.put sample 9 "t" sampleRequests).state
        { table := "t", minTime := 9 } .counting 0).state.2 = RowHandler.counting.after 0 calls ∧
      calls.filter (fun call ↦ call.1 = Bytes.ofString "r") = [call] ∧
      call.2.filter (fun r ↦ r.family.bytes = Bytes.ofString "f" ∧
        r.qualifier.bytes = Bytes.ofString "a") = [record] ∧
      record.value.bytes = [2] ∧ record.timestamp = 9 := by
  obtain ⟨calls, hscan, hcalls⟩ := reached_sample.scan_after_put sampleService "t" 9 sampleRequests
    (by decide) rfl (by decide) (by decide) (by decide) _ (.refl _) rfl 9 (by decide)
  obtain ⟨last, call, record, hlast, hcall, hrecord, -, hvalue, htime, -⟩ :=
    hcalls ⟨"r", "f", "a", [1]⟩ (by decide)
  cases hlast
  have hafter := (hscan RowHandler.counting RowHandler.accepting_counting 0).2
  exact ⟨calls, call, record, hafter, hcall, hrecord, hvalue, htime⟩

end Cluster

end ColumnStore
