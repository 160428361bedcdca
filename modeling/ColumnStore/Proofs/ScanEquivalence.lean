import ColumnStore.Proofs.ColumnSelection
import ColumnStore.Proofs.Delivery

/-!
# Scans that return the same

Two scans that leave the same of every row go through a table in step (`next_withScan`). If they name
the same families, the rest of a scan does not tell them apart either (`scanTable_eq`).
-/

namespace ColumnStore

def Scanner.withScan (s : Scanner) (scan : Scan) : Scanner :=
  { s with scan }

theorem Scan.firstRow?_eq {scan scan' : Scan}
    (hcontents : ∀ row, scan'.contents row = scan.contents row) (rows : List (Bytes × Row)) :
    scan'.firstRow? rows = scan.firstRow? rows := by
  induction rows with
  | nil => rfl
  | cons entry rows ih =>
      rw [Scan.firstRow?, Scan.firstRow?, hcontents, ih]

namespace Cluster

variable {η : Type} {scan scan' : Scan}

theorem next_withScan (c : Cluster) (s : Scanner)
    (hcontents : ∀ row, scan.contents row = s.scan.contents row) :
    c.next (s.withScan scan) = ((c.next s).1, (c.next s).2.withScan scan) := by
  have hrow : (s.withScan scan).scan.firstRow? (c.ahead (s.withScan scan)) =
      s.scan.firstRow? (c.ahead s) := Scan.firstRow?_eq hcontents _
  have hclosed : ((s.withScan scan).closed || (s.withScan scan).exhausted) =
      (s.closed || s.exhausted) := rfl
  have hlimit : (s.withScan scan).failAfter.any (· ≤ (s.withScan scan).delivered) =
      s.failAfter.any (· ≤ s.delivered) := rfl
  unfold next
  rw [hrow, hclosed, hlimit]
  split
  · rfl
  · split
    · rfl
    · split <;> rfl

theorem scan_next (c : Cluster) (s : Scanner) : (c.next s).2.scan = s.scan := by
  unfold next
  split
  · rfl
  · split
    · rfl
    · split <;> rfl

/-- Feeding the rows of a scanner does the same with another scan, as long as that leaves the same of
every row. -/
theorem feedRows_withScan (c : Cluster) (handler : RowHandler η) (s : Scanner) (h : η)
    (summary : ScanSummary) (hcontents : ∀ row, scan.contents row = s.scan.contents row) :
    feedRows c handler (s.withScan scan) h summary =
      ((feedRows c handler s h summary).1, (feedRows c handler s h summary).2.1.withScan scan,
        (feedRows c handler s h summary).2.2) := by
  have hstep : Store.next c (s.withScan scan) =
      ((Store.next c s).1, (c.next s).2.withScan scan) := c.next_withScan s hcontents
  have hafter : ∀ row, scan.contents row = (c.next s).2.scan.contents row := by
    rw [c.scan_next s]
    exact hcontents
  cases hnext : (Store.next c s).1 with
  | error e =>
      rw [feedRows_of_error (by rw [hstep, hnext]), feedRows_of_error hnext, hstep]
      rfl
  | ok fetched =>
      cases fetched with
      | none =>
          rw [feedRows_of_none (by rw [hstep, hnext]), feedRows_of_none hnext, hstep]
          rfl
      | some row =>
          have hless : Store.remaining c (Store.next c s).2 < Store.remaining c s :=
            Store.remaining_next_lt hnext
          rw [feedRows_of_row (by rw [hstep, hnext]), feedRows_of_row hnext, hstep]
          split
          · exact feedRows_withScan c handler (c.next s).2 h _ hafter
          · split
            · rfl
            · exact feedRows_withScan c handler (c.next s).2 _ _ hafter
termination_by Store.remaining c s

theorem openScanner_withScan (c : Cluster) (handle : TableHandle)
    (hfamilies : scan'.families = scan.families) :
    (c.openScanner handle scan').result =
        (c.openScanner handle scan).result.map (·.withScan scan') ∧
      (c.openScanner handle scan').state = (c.openScanner handle scan).state ∧
      (c.openScanner handle scan').log = (c.openScanner handle scan).log := by
  unfold openScanner
  rw [hfamilies]
  split
  · exact ⟨rfl, rfl, rfl⟩
  · split <;> exact ⟨rfl, rfl, rfl⟩

theorem scan_openScanner {c : Cluster} {handle : TableHandle} {s : Scanner}
    (h : (c.openScanner handle scan).result = .ok s) : s.scan = scan := by
  unfold openScanner at h
  split at h
  · cases h
  · split at h
    · cases h
    · cases h
      rfl

theorem closeScanner_withScan (c : Cluster) (s : Scanner) (scan : Scan) :
    (c.closeScanner (s.withScan scan)).1 = (c.closeScanner s).1 := by
  unfold closeScanner Scanner.withScan
  split <;> rfl

theorem scanTable_eq (c : Cluster) (connection : Connection) (table : String)
    (handler : RowHandler η) (h : η) (hfamilies : scan'.families = scan.families)
    (hcontents : ∀ row, scan'.contents row = scan.contents row) :
    scanTable c connection table scan' handler h = scanTable c connection table scan handler h := by
  unfold scanTable
  dsimp only [Store.openTable, Store.openScanner, Store.closeScanner, Store.releaseTable]
  cases (c.openTable connection table).result with
  | error e => rfl
  | ok handle =>
      generalize (c.openTable connection table).state = d
      obtain ⟨hresult, hstate, hlog⟩ := openScanner_withScan d handle hfamilies
      simp only [hresult, hstate, hlog]
      cases hstarted : (openScanner d handle scan).result with
      | error e => rfl
      | ok s =>
          have hsame : ∀ row, scan'.contents row = s.scan.contents row := by
            rw [scan_openScanner hstarted]
            exact hcontents
          simp only [Except.map, feedRows_withScan _ handler s h {} hsame, closeScanner_withScan]

end Cluster

/-! ## Requests -/

namespace Scan

theorem build_filter (selectors : List ColumnSelector) (filter filter' : Option Filter)
    (minTime : Timestamp) :
    build selectors filter' minTime = { build selectors filter minTime with filter := filter' } := by
  rw [build_eq selectors filter' minTime filter minTime, ← timeRange_build selectors filter minTime]

end Scan

namespace Service

theorem readFilter_of_parse {σ : Type} [Store σ] {service : Service σ} {r : Request} {e : String}
    {f : Filter} (hparse : service.parse e = .ok f) (hblank : ¬Text.isAllBlank e) :
    service.readFilter { r with expression := some e } = .ok (some f) := by
  simp only [readFilter, if_neg hblank, hparse]

/-- A scan with an expression instead of another one, of which the filter leaves the same of every row. -/
theorem scan_eq {η : Type} {service : Service Cluster} {e e' : String} {f g : Filter}
    (he : service.parse e = .ok f) (hblank : ¬Text.isAllBlank e) (he' : service.parse e' = .ok g)
    (hblank' : ¬Text.isAllBlank e') (happly : ∀ row, f.apply row = g.apply row) (c : Cluster)
    (r : Request) (handler : RowHandler η) (h : η) :
    service.scan c { r with expression := some e } handler h =
      service.scan c { r with expression := some e' } handler h := by
  have hbuild := Scan.build_filter r.columns (some g) (some f) r.minTime
  have hfamilies : (Scan.build r.columns (some f) r.minTime).families =
      (Scan.build r.columns (some g) r.minTime).families := by
    rw [hbuild]
  have hcontents : ∀ row, (Scan.build r.columns (some f) r.minTime).contents row =
      (Scan.build r.columns (some g) r.minTime).contents row := by
    intro row
    have hfilter : (Scan.build r.columns (some g) r.minTime).filter = some g := by
      rw [Scan.build_filter r.columns none (some g)]
    rw [hbuild]
    simp only [Scan.contents, Scan.filtered, hfilter, happly]
    rfl
  unfold scan
  rw [readFilter_of_parse he hblank, readFilter_of_parse he' hblank']
  dsimp only
  cases service.connected? with
  | none => rfl
  | some connection =>
      simp only [Cluster.scanTable_eq c connection r.table handler h hfamilies hcontents,
        Option.isSome_some]

end Service

end ColumnStore
