import ColumnStore.Proofs.ColumnSelection
import ColumnStore.Proofs.Progress

/-!
# Exactly-once delivery

A follower scans one table again and again, each time from where its last committed scan ended, while
the table is written to. It never gets a cell twice (`Invariant.nodup`), and after a committed scan it
has got all that a scan from the very beginning would return then (`Invariant.delivered_of_picked`).
-/

namespace ColumnStore

/-! ## Scans that differ in where they start -/

namespace Scan

variable (columns : List ColumnSelector) (filter : Option Filter)

theorem contains_build (minTime t : Timestamp) :
    (build columns filter minTime).timeRange.contains t ↔ minTime ≤ t ∧ t < Int64.maxValue := by
  rw [timeRange_build, TimeRange.contains, Bool.and_eq_true, decide_eq_true_iff, decide_eq_true_iff]
  rfl

theorem selects_build (minTime minTime' : Timestamp) (family qualifier : Bytes) :
    (build columns filter minTime).selects family qualifier =
      (build columns filter minTime').selects family qualifier := by
  rw [build_eq columns filter minTime filter minTime']
  rfl

/-- A version that is picked is also picked in a smaller range that it is in. -/
theorem newestInRange_of_subset {s t : Scan} {versions : List Cell}
    (hversions : Versions.Descending Cell.timestamp versions)
    (hsub : ∀ time, t.timeRange.contains time → s.timeRange.contains time) {cell : Cell}
    (hpick : s.newestInRange versions = some cell) (hcell : t.timeRange.contains cell.timestamp) :
    t.newestInRange versions = some cell := by
  rw [← s.pick_eq hversions, pick, List.find?_eq_some_iff_append] at hpick
  obtain ⟨-, before, after, hsplit, hbefore⟩ := hpick
  rw [← t.pick_eq hversions, pick, List.find?_eq_some_iff_append]
  refine ⟨hcell, before, after, hsplit, fun x hx ↦ ?_⟩
  have hnot := hbefore x hx
  simp only [Bool.not_eq_true', Bool.eq_false_iff] at hnot ⊢
  exact fun hin ↦ hnot (hsub _ hin)

end Scan

/-! ## Writes after a cell -/

namespace Cluster

/-- A version that is picked and is older than all that an operation writes was picked before it. -/
theorem AccountedBy.newestInRange_perform {c : Cluster} {log : List LoggedWrite}
    (h : AccountedBy c log) {scan : Scan} {operation : Operation} {table : String} {row : Bytes}
    {column : Column} {cell : Cell}
    (hpick : scan.newestInRange ((c.perform operation).versions table row column) = some cell)
    (hlater : ∀ w ∈ c.accepted operation, w.table = table → cell.timestamp < w.timestamp) :
    scan.newestInRange (c.versions table row column) = some cell := by
  rw [← scan.pick_eq ((h.perform operation).descending_versions table row column), Scan.pick] at hpick
  rw [← scan.pick_eq (h.descending_versions table row column), Scan.pick]
  have hnew : (Versions.newest LoggedWrite.timestamp (c.retained table column.family)
      ((log ++ c.accepted operation).filter (·.isAt table row column))).find?
        (fun w ↦ scan.timeRange.contains w.timestamp) = some (LoggedWrite.ofCell table cell) := by
    rw [← h.versions_perform, List.find?_map]
    exact congrArg (Option.map (LoggedWrite.ofCell table)) hpick
  rw [List.filter_append] at hnew
  have hold := Versions.find?_of_find?_newest
    (fun v w hvw ↦ congrArg scan.timeRange.contains hvw) hnew fun w hw ↦ by
      obtain ⟨hmem, hat⟩ := List.mem_filter.mp hw
      exact hlater w hmem (of_decide_eq_true hat).1
  rw [← h.map_versions, List.find?_map] at hold
  obtain ⟨cell', hfound, hsame⟩ := Option.map_eq_some_iff.mp hold
  rw [LoggedWrite.ofCell_injective hsame] at hfound
  exact hfound

end Cluster

/-! ## Followers -/

/-- A client that scans one table incrementally: the cluster with its history, where the next scan
starts, the state of the handler, and what each committed scan handed over. -/
structure Follower (η : Type) where
  cluster : Cluster
  history : List LoggedWrite
  scan : IncrementalScan
  handler : η
  delivered : List (List (Bytes × List CellRecord)) := []

namespace Follower

variable {η : Type}

def records (f : Follower η) : List CellRecord :=
  f.delivered.flatten.flatMap Prod.snd

def operated (f : Follower η) (operation : Operation) : Follower η :=
  { f with
    cluster := f.cluster.perform operation
    history := f.history ++ f.cluster.accepted operation }

section Scanning

variable (table : String) (columns : List ColumnSelector) (inner : RowHandler η)

/-- Scan through a service from where the last committed scan ended, and note what is handed over. -/
def scanOnce (f : Follower η) (service : Service Cluster) :
    Step (Cluster × (η × List (Bytes × List CellRecord)) × ScanProgress) (Except ClientError Unit) :=
  service.scan f.cluster { table, columns, minTime := f.scan.minTime }
    (f.scan.handler inner.noted) ((f.handler, []), {})

/-- The follower after a scan. Only a scan that succeeds may be committed. -/
def scanned (f : Follower η) (service : Service Cluster) (commit : Bool) : Follower η :=
  let step := f.scanOnce table columns inner service
  match step.result, commit with
  | .ok (), true =>
    { f with
      cluster := step.state.1
      scan := f.scan.commit step.state.2.2
      handler := step.state.2.1.1
      delivered := f.delivered ++ [step.state.2.1.2] }
  | _, _ => { f with cluster := step.state.1, handler := step.state.2.1.1 }

/-- A follower gets from one state to another by operations on the cluster, which write nothing to the
table that is older than its boundary, and by scans. -/
inductive Leads : Follower η → Follower η → Prop
  | refl (f : Follower η) : Leads f f
  | operated {f g : Follower η} (h : Leads f g) (operation : Operation)
    (later : ∀ w ∈ g.cluster.accepted operation, w.table = table → g.scan.minTime ≤ w.timestamp) :
    Leads f (g.operated operation)
  | scanned {f g : Follower η} (h : Leads f g) (service : Service Cluster) (commit : Bool) :
    Leads f (g.scanned table columns inner service commit)

/-- A cell is what a scan from some time on picks of its column. -/
def Picked (f : Follower η) (minTime : Timestamp) (row : Bytes) (cell : Cell) : Prop :=
  (Scan.build columns none minTime).selects cell.family cell.qualifier ∧
    (Scan.build columns none minTime).newestInRange
      (f.cluster.versions table row cell.column) = some cell

/-- What a follower has got so far is what it should have got: nothing twice, all from what was written,
and all that was to be picked before the boundary. -/
structure Invariant (start : Timestamp) (f : Follower η) : Prop where
  accounted : f.cluster.AccountedBy f.history
  start_le : start ≤ f.scan.minTime
  remembers : f.scan.Remembers f.records
  written : ∀ call ∈ f.delivered.flatten, ∀ r ∈ call.2, ∃ cell, r = CellRecord.ofCell cell ∧
    cell.row = call.1 ∧ LoggedWrite.ofCell table cell ∈ f.history
  nodup : f.records.Nodup
  complete : ∀ row cell, f.Picked table columns start row cell → cell.timestamp < f.scan.minTime →
    ∃ r ∈ f.records, CellId.ofRecord r = CellId.ofRecord (.ofCell cell)

def offered (f : Follower η) : List (Bytes × List CellRecord) :=
  ((Scan.build columns none f.scan.minTime).returned (f.cluster.rows table)).map RowResult.call

end Scanning

variable {table : String} {columns : List ColumnSelector} {start : Timestamp} {f : Follower η}

theorem Invariant.initial {c : Cluster} {log : List LoggedWrite} (h : c.AccountedBy log)
    (handler : η) :
    Invariant table columns start
      { cluster := c, history := log, scan := { minTime := start }, handler } where
  accounted := h
  start_le := Int64.le_rfl
  remembers := .nil start
  written := by
    intro call hcall
    cases hcall
  nodup := List.nodup_nil
  complete := by
    rintro row cell ⟨-, hpick⟩ hlt
    -- Nothing is picked that is older than the beginning.
    have hrange := (Scan.mem_of_newestInRange hpick).2
    rw [Scan.contains_build] at hrange
    exact (Int64.lt_irrefl (Int64.lt_of_le_of_lt hrange.1 hlt)).elim

namespace Invariant

theorem quiet (h : Invariant table columns start f) {d : Cluster} (hsame : f.cluster.Quiet d)
    (handler : η) : Invariant table columns start { f with cluster := d, handler } where
  accounted := h.accounted.quiet hsame
  start_le := h.start_le
  remembers := h.remembers
  written := h.written
  nodup := h.nodup
  complete := by
    intro row cell hpicked hlt
    apply h.complete row cell _ hlt
    unfold Picked at hpicked ⊢
    rw [hsame.versions] at hpicked
    exact hpicked

/-- A step on the cluster. Nothing that is written is older than the boundary, so what is picked
before the boundary was picked there already. -/
theorem operated (h : Invariant table columns start f) {operation : Operation}
    (later : ∀ w ∈ f.cluster.accepted operation, w.table = table → f.scan.minTime ≤ w.timestamp) :
    Invariant table columns start (f.operated operation) where
  accounted := h.accounted.perform operation
  start_le := h.start_le
  remembers := h.remembers
  written := by
    intro call hcall r hr
    obtain ⟨cell, hrecord, hrow, hlog⟩ := h.written call hcall r hr
    exact ⟨cell, hrecord, hrow, List.mem_append_left _ hlog⟩
  nodup := h.nodup
  complete := by
    rintro row cell ⟨hselects, hpick⟩ hlt
    apply h.complete row cell _ hlt
    refine ⟨hselects, h.accounted.newestInRange_perform hpick fun w hw htable ↦ ?_⟩
    exact Int64.lt_of_lt_of_le hlt (later w hw htable)

/-! ## What a scan offers -/

theorem of_mem_offered (h : Invariant table columns start f) {call : Bytes × List CellRecord}
    (hcall : call ∈ f.offered table columns) {r : CellRecord} (hr : r ∈ call.2) :
    ∃ cell, r = CellRecord.ofCell cell ∧ cell.row = call.1 ∧
      LoggedWrite.ofCell table cell ∈ f.history ∧ f.scan.minTime ≤ cell.timestamp := by
  obtain ⟨row, hrow, rfl⟩ := List.mem_map.mp hcall
  obtain ⟨cell, hcell, rfl⟩ := List.mem_map.mp hr
  obtain ⟨hkey, -, hpick, hlog⟩ :=
    h.accounted.of_mem_returned (Scan.filter_build columns none _) hrow hcell
  have hrange := (Scan.mem_of_newestInRange hpick).2
  rw [Scan.contains_build] at hrange
  exact ⟨cell, rfl, hkey, hlog, hrange.1⟩

theorem nodup_offered (h : Invariant table columns start f) :
    ((f.offered table columns).flatMap Prod.snd).Nodup := by
  have hcells : (((Scan.build columns none f.scan.minTime).returned
      (f.cluster.rows table)).flatMap RowResult.cells).Nodup := by
    rw [List.nodup_flatMap]
    refine ⟨fun r hr ↦ (h.accounted.nodup_cells hr).of_map _, ?_⟩
    have hrows := List.pairwise_map.mp
      ((Scan.build columns none f.scan.minTime).nodup_returned (f.cluster.rows table))
    refine hrows.imp_of_mem fun {r r'} hr hr' hne ↦ ?_
    intro cell hcell hcell'
    have hkey := (h.accounted.of_mem_returned (Scan.filter_build columns none _) hr hcell).1
    have hkey' := (h.accounted.of_mem_returned (Scan.filter_build columns none _) hr' hcell').1
    exact hne (hkey.symm.trans hkey')
  have hrecords : (f.offered table columns).flatMap Prod.snd =
      (((Scan.build columns none f.scan.minTime).returned (f.cluster.rows table)).flatMap
        RowResult.cells).map CellRecord.ofCell := by
    rw [offered, List.flatMap_map, List.map_flatMap]
    rfl
  rw [hrecords]
  exact hcells.map fun c d hcd ↦ CellRecord.ofCell_injective hcd

theorem mem_offered_of_picked (h : Invariant table columns start f) {row : Bytes} {cell : Cell}
    (hpicked : f.Picked table columns start row cell) (hle : f.scan.minTime ≤ cell.timestamp) :
    CellRecord.ofCell cell ∈ (f.offered table columns).flatMap Prod.snd := by
  obtain ⟨hselects, hpick⟩ := hpicked
  have hversions := h.accounted.descending_versions table row cell.column
  have hrange := (Scan.contains_build columns none start _).mp (Scan.mem_of_newestInRange hpick).2
  have hnarrow : (Scan.build columns none f.scan.minTime).newestInRange
      (f.cluster.versions table row cell.column) = some cell := by
    apply Scan.newestInRange_of_subset hversions _ hpick
    · exact (Scan.contains_build columns none _ _).mpr ⟨hle, hrange.2⟩
    · intro time htime
      rw [Scan.contains_build] at htime ⊢
      exact ⟨Int64.le_trans h.start_le htime.1, htime.2⟩
  rw [Scan.selects_build columns none start f.scan.minTime] at hselects
  obtain ⟨r, hr, -, hcell⟩ :=
    Cluster.exists_mem_returned (Scan.filter_build columns none _) hselects hnarrow
  exact List.mem_flatMap.mpr ⟨r.call, List.mem_map_of_mem hr, List.mem_map_of_mem hcell⟩

/-- All that is picked is there after a committed scan: what is older than the boundary was there
before, and of the rest the scan leaves out only what was there before. -/
theorem delivered_of_picked (h : Invariant table columns start f) {row : Bytes} {cell : Cell}
    (hpicked : f.Picked table columns start row cell) :
    ∃ r ∈ f.records ++ f.scan.fresh ((f.offered table columns).flatMap Prod.snd),
      CellId.ofRecord r = CellId.ofRecord (.ofCell cell) := by
  rcases Int64.lt_or_le cell.timestamp f.scan.minTime with hlt | hle
  · obtain ⟨r, hr, hid⟩ := h.complete row cell hpicked hlt
    exact ⟨r, List.mem_append_left _ hr, hid⟩
  · have hoffered := h.mem_offered_of_picked hpicked hle
    by_cases hseen : (CellRecord.ofCell cell).timestamp = f.scan.minTime ∧
        f.scan.hasSeen (CellId.ofRecord (.ofCell cell))
    · obtain ⟨r, hr, -, hid⟩ := (h.remembers.seen _).mp hseen.2
      exact ⟨r, List.mem_append_left _ hr, hid.symm⟩
    · have hfresh := IncrementalScan.mem_fresh.mpr ⟨hoffered, hseen⟩
      exact ⟨_, List.mem_append_right _ hfresh, rfl⟩

/-- What a scan hands over was not handed over before. -/
theorem disjoint_fresh (h : Invariant table columns start f) {r : CellRecord} (hr : r ∈ f.records) :
    r ∉ f.scan.fresh ((f.offered table columns).flatMap Prod.snd) := by
  intro hfresh
  obtain ⟨hoffered, hunseen⟩ := IncrementalScan.mem_fresh.mp hfresh
  obtain ⟨call, hcall, hrcall⟩ := List.mem_flatMap.mp hoffered
  obtain ⟨cell, rfl, -, -, hlower⟩ := h.of_mem_offered hcall hrcall
  have htime : (CellRecord.ofCell cell).timestamp = f.scan.minTime :=
    Int64.le_antisymm (h.remembers.upper _ hr) hlower
  exact hunseen ⟨htime, (h.remembers.seen _).mpr ⟨_, hr, htime, rfl⟩⟩

theorem records_append (f : Follower η) (calls : List (Bytes × List CellRecord)) :
    { f with delivered := f.delivered ++ [calls] }.records = f.records ++ calls.flatMap Prod.snd := by
  simp [records]

/-- What a committed scan hands over was not delivered before, and with it nothing is missing up to the
new boundary. -/
theorem committed (h : Invariant table columns start f) {progress : ScanProgress}
    (hprogress : progress.Marks
      ((f.scan.freshCalls (f.offered table columns)).flatMap Prod.snd)) :
    Invariant table columns start
      { f with
        scan := f.scan.commit progress
        delivered := f.delivered ++ [f.scan.freshCalls (f.offered table columns)] } := by
  have hlower : ∀ r ∈ (f.scan.freshCalls (f.offered table columns)).flatMap Prod.snd,
      f.scan.minTime ≤ r.timestamp := by
    intro r hr
    rw [IncrementalScan.records_freshCalls] at hr
    obtain ⟨call, hcall, hrcall⟩ := List.mem_flatMap.mp (IncrementalScan.mem_fresh.mp hr).1
    obtain ⟨cell, rfl, -, -, hle⟩ := h.of_mem_offered hcall hrcall
    exact hle
  obtain ⟨hle, hremembers⟩ := h.remembers.commit hprogress hlower
  have hrecords := records_append f (f.scan.freshCalls (f.offered table columns))
  constructor
  · exact h.accounted
  · exact Int64.le_trans h.start_le hle
  · exact hrecords ▸ hremembers
  · intro call hcall r hr
    rw [List.flatten_append, List.flatten_singleton] at hcall
    rcases List.mem_append.mp hcall with hcall | hcall
    · exact h.written call hcall r hr
    · obtain ⟨given, hgiven, rfl⟩ := IncrementalScan.of_mem_freshCalls hcall
      obtain ⟨cell, hrecord, hrow, hlog, -⟩ :=
        h.of_mem_offered hgiven (IncrementalScan.mem_fresh.mp hr).1
      exact ⟨cell, hrecord, hrow, hlog⟩
  -- Nothing is new twice, and nothing that is new was handed over before.
  · have hfresh : (f.scan.fresh ((f.offered table columns).flatMap Prod.snd)).Nodup := by
      rw [IncrementalScan.fresh_eq]
      exact h.nodup_offered.filter _
    have hnodup : (f.records ++ f.scan.fresh ((f.offered table columns).flatMap Prod.snd)).Nodup := by
      refine List.nodup_append.mpr ⟨h.nodup, hfresh, fun r hr r' hr' hrr' ↦ ?_⟩
      exact h.disjoint_fresh hr (hrr' ▸ hr')
    rw [← IncrementalScan.records_freshCalls, ← hrecords] at hnodup
    exact hnodup
  · intro row cell hpicked _
    have hdelivered := h.delivered_of_picked hpicked
    rw [← IncrementalScan.records_freshCalls, ← hrecords] at hdelivered
    exact hdelivered

/-- What a scan with a handler that never gives up does to a follower: either it is not committed, and
at most the state of the handler changes, or what is offered and not remembered is handed over. -/
theorem scanned_cases (h : Invariant table columns start f) {inner : RowHandler η}
    (haccepting : inner.Accepting) (service : Service Cluster) (commit : Bool) :
    (∃ d handler, f.cluster.Quiet d ∧
        ¬((f.scanOnce table columns inner service).result = .ok () ∧ commit = true) ∧
        f.scanned table columns inner service commit = { f with cluster := d, handler }) ∨
      ∃ d handler progress, f.cluster.Quiet d ∧
        (f.scanOnce table columns inner service).result = .ok () ∧
        progress.Marks ((f.scan.freshCalls (f.offered table columns)).flatMap Prod.snd) ∧
        f.scanned table columns inner service commit =
          { f with
            cluster := d
            scan := f.scan.commit progress
            handler
            delivered := f.delivered ++ [f.scan.freshCalls (f.offered table columns)] } := by
  have hquiet : f.cluster.Quiet (f.scanOnce table columns inner service).state.1 :=
    Cluster.quiet_scan service _ _ _ f.cluster
  rcases h.accounted.scan_cases service { table, columns, minTime := f.scan.minTime }
      (f.scan.handler inner.noted) ((f.handler, []), {})
      (f.scan.accepting_handler haccepting.noted) rfl with ⟨⟨e, he⟩, -⟩ | ⟨hok, hafter⟩
  · have hresult : (f.scanOnce table columns inner service).result = .error e := he
    refine .inl ⟨_, (f.scanOnce table columns inner service).state.2.1.1, hquiet, ?_, ?_⟩
    · rw [hresult]
      rintro ⟨hok, -⟩
      cases hok
    · simp only [Follower.scanned, hresult]
  · have hresult : (f.scanOnce table columns inner service).result = .ok () := hok
    obtain ⟨progress, hstate, hmarks⟩ := f.scan.after_handler haccepting.noted (f.handler, []) .nil
      (f.offered table columns)
    rw [RowHandler.after_noted] at hstate
    have hhanded : (f.scanOnce table columns inner service).state.2 = _ := hafter.trans hstate
    cases commit with
    | false =>
        refine .inl ⟨_, (f.scanOnce table columns inner service).state.2.1.1, hquiet, ?_, ?_⟩
        · rintro ⟨-, hcommit⟩
          cases hcommit
        · simp only [Follower.scanned, hresult]
    | true =>
        refine .inr ⟨_, inner.after f.handler (f.scan.freshCalls (f.offered table columns)),
          progress, hquiet, hresult, hmarks, ?_⟩
        simp only [Follower.scanned, hresult, hhanded, List.nil_append]

theorem scanned (h : Invariant table columns start f) {inner : RowHandler η}
    (haccepting : inner.Accepting) (service : Service Cluster) (commit : Bool) :
    Invariant table columns start (f.scanned table columns inner service commit) := by
  rcases h.scanned_cases haccepting service commit with
    ⟨d, handler, hquiet, -, hstep⟩ | ⟨d, handler, progress, hquiet, -, hmarks, hstep⟩
  · rw [hstep]
    exact h.quiet hquiet handler
  · rw [hstep]
    exact (h.committed hmarks).quiet hquiet handler

/-- The invariant holds wherever a follower gets to. -/
theorem leads {inner : RowHandler η} (haccepting : inner.Accepting) {g : Follower η}
    (hleads : Leads table columns inner f g) (h : Invariant table columns start f) :
    Invariant table columns start g := by
  -- The run is followed from its end: every step leads from one good state to the next.
  induction hleads with
  | refl => exact h
  | operated _ operation later ih => exact ih.operated later
  | scanned _ service commit ih => exact ih.scanned haccepting service commit

/-! ## Telling cells apart -/

theorem eq_of_sequenceId_eq (h : Invariant table columns start f) (hids : f.history.length < 2 ^ 64)
    {c d : Cell} (hc : LoggedWrite.ofCell table c ∈ f.history)
    (hd : LoggedWrite.ofCell table d ∈ f.history) (hcd : c.sequenceId = d.sequenceId) : c = d :=
  LoggedWrite.ofCell_injective (h.accounted.eq_of_sequenceId_eq hids hc hd hcd)

theorem nodup_sequenceIds (h : Invariant table columns start f)
    (hids : f.history.length < 2 ^ 64) : (f.records.map CellRecord.sequenceId).Nodup := by
  refine List.Nodup.map_on (fun r hr r' hr' hsame ↦ ?_) h.nodup
  obtain ⟨call, hcall, hrcall⟩ := List.mem_flatMap.mp hr
  obtain ⟨call', hcall', hrcall'⟩ := List.mem_flatMap.mp hr'
  obtain ⟨cell, rfl, -, hlog⟩ := h.written call hcall r hrcall
  obtain ⟨cell', rfl, -, hlog'⟩ := h.written call' hcall' r' hrcall'
  rw [h.eq_of_sequenceId_eq hids hlog hlog' hsame]

/-- A record that was handed over, from the identity of its cell. -/
theorem exists_record (h : Invariant table columns start f) {cell : Cell}
    (hlog : LoggedWrite.ofCell table cell ∈ f.history)
    (hrecord : ∃ r ∈ f.records, CellId.ofRecord r = CellId.ofRecord (.ofCell cell)) :
    ∃ call ∈ f.delivered.flatten, call.1 = cell.row ∧
      ∃ record ∈ call.2, CellId.ofRecord record = CellId.ofRecord (.ofCell cell) ∧
        (f.history.length < 2 ^ 64 → record = .ofCell cell) := by
  obtain ⟨r, hr, hid⟩ := hrecord
  obtain ⟨call, hcall, hrcall⟩ := List.mem_flatMap.mp hr
  obtain ⟨cell', rfl, hrow, hlog'⟩ := h.written call hcall r hrcall
  have hsameRow : cell'.row = cell.row := congrArg CellId.row hid
  refine ⟨call, hcall, hrow.symm.trans hsameRow, _, hrcall, hid, fun hids ↦ ?_⟩
  rw [h.eq_of_sequenceId_eq hids hlog' hlog (congrArg CellId.sequenceId hid)]

end Invariant

/-- Exactly-once delivery. While a follower scans a table incrementally and nothing is written to it
that is older than the boundary at that moment, no cell is handed over twice by committed scans, and
after each of them every cell that a scan from the beginning would return has been handed over. A
scan that fails leaves the boundary and what counts as handed over as they are. Until the sequence
ids run out they tell all cells apart. -/
theorem exactly_once {c : Cluster} {log : List LoggedWrite} (h : c.Reached log) (table : String)
    (columns : List ColumnSelector) {inner : RowHandler η} (haccepting : inner.Accepting)
    (start : Timestamp) (handler : η) {f : Follower η}
    (hleads : Leads table columns inner
      { cluster := c, history := log, scan := { minTime := start }, handler } f) :
    f.records.Nodup ∧
      (f.history.length < 2 ^ 64 → (f.records.map CellRecord.sequenceId).Nodup) ∧
      ∀ (service : Service Cluster) (g : Follower η),
        g = f.scanned table columns inner service true →
          ((f.scanOnce table columns inner service).result = .ok () →
            ∀ r, .ok (some r) ∈ (Session.drain g.cluster
                { table, scan := .build columns none start, failAfter := none }).1 →
              ∀ cell ∈ r.cells, ∃ call ∈ g.delivered.flatten, call.1 = r.row ∧
                ∃ record ∈ call.2, CellId.ofRecord record = CellId.ofRecord (.ofCell cell) ∧
                  (g.history.length < 2 ^ 64 → record = .ofCell cell)) ∧
          ((f.scanOnce table columns inner service).result ≠ .ok () →
            g.scan = f.scan ∧ g.delivered = f.delivered) := by
  have hf : Invariant table columns start f := .leads haccepting hleads (.initial h.accounted handler)
  refine ⟨hf.nodup, hf.nodup_sequenceIds, fun service g hg ↦ ?_⟩
  have hinvariant : Invariant table columns start g := hg ▸ hf.scanned haccepting service true
  rcases hf.scanned_cases haccepting service true with
    ⟨d, handler', -, hnot, hstep⟩ | ⟨d, handler', progress, hquiet, hok, -, hstep⟩
  · rw [hstep] at hg
    subst hg
    exact ⟨fun hok ↦ (hnot ⟨hok, rfl⟩).elim, fun _ ↦ ⟨rfl, rfl⟩⟩
  · rw [hstep] at hg
    refine ⟨fun _ r hr cell hcell ↦ ?_, fun hfail ↦ (hfail hok).elim⟩
    have hrows : g.cluster.rows table = f.cluster.rows table := by
      rw [hg]
      exact hquiet.rows table
    obtain ⟨last, hdrain, -⟩ := hf.accounted.drain_eq (.build columns none start) hrows
    rw [hdrain] at hr
    have hreturned : r ∈ (Scan.build columns none start).returned (f.cluster.rows table) := by
      simpa using hr
    obtain ⟨hrow, hselects, hpick, hlog⟩ :=
      hf.accounted.of_mem_returned (Scan.filter_build columns none _) hreturned hcell
    have hrecord := hf.delivered_of_picked ⟨hselects, hpick⟩
    rw [← IncrementalScan.records_freshCalls, ← Invariant.records_append] at hrecord
    rw [← hrow]
    apply hinvariant.exists_record
    · rw [hg]
      exact hlog
    · rw [hg]
      exact hrecord

def sample : Follower Nat :=
  { cluster := Cluster.sample, history := Cluster.sampleLog, scan := { minTime := 0 }, handler := 0 }

/-- A batch at the boundary after the first scan. It writes a cell that was handed over anew, and one
of a column that had none. -/
def sampleRewrite : Operation :=
  .put ⟨"t", 1⟩ 5 [⟨[114], [⟨[102], [97], none, [52], []⟩, ⟨[102], [98], none, [60], []⟩]⟩]

/-- Scans before and after a batch at the boundary, and one in between that fails. -/
def sampleRun : Follower Nat :=
  (((sample.scanned "t" [] .counting Cluster.sampleService true).operated sampleRewrite).scanned "t" []
    .counting {} true).scanned "t" [] .counting Cluster.sampleService true

theorem exactly_once_sampleRun :
    sampleRun.records.map CellRecord.sequenceId = [5, 6, 7, 8] ∧
      (sampleRun.records.map CellRecord.sequenceId).Nodup := by
  have hleads : Leads "t" [] .counting sample sampleRun :=
    (((Leads.refl sample).scanned Cluster.sampleService true).operated sampleRewrite
      (by decide +kernel)).scanned {} true |>.scanned Cluster.sampleService true
  have hids : sampleRun.history.length < 2 ^ 64 := by decide +kernel
  exact ⟨by decide +kernel, (exactly_once Cluster.reached_sample "t" []
    RowHandler.accepting_counting 0 0 hleads).2.1 hids⟩

end Follower

end ColumnStore
