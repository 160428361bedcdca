import ColumnStore.Proofs.Delivery

/-!
# What the gauges show

Handles are counted where they are opened and where they are released, and nothing else touches the
gauges. A call of a service releases whatever it opened on the way, so it leaves them as they were
(`gauges_service_put`, `gauges_scan`).
-/

namespace ColumnStore

namespace Cluster

variable {c : Cluster}

/-! ## Requests that open no handle -/

theorem gauges_createTable (c : Cluster) (descriptor : TableDescriptor) :
    (c.createTable descriptor).state.gauges = c.gauges := by
  unfold createTable
  split <;> rfl

theorem gauges_requestTable (c : Cluster) (descriptor : TableDescriptor) :
    (c.requestTable descriptor).state.gauges = c.gauges := by
  unfold requestTable
  split
  · rfl
  · exact c.gauges_createTable descriptor

theorem gauges_put (c : Cluster) (handle : TableHandle) (now : Timestamp) (puts : List Put) :
    (c.put handle now puts).state.gauges = c.gauges := by
  rcases c.put_cases handle now puts with ⟨e, left, -, -, hstate⟩ | ⟨t, cells, -, -, -, -, hstate⟩
  · rw [hstate]
  · rw [hstate]

/-! ## Opening -/

theorem connect_cases (c : Cluster) (conf : Configuration) :
    ((∃ e, (c.connect conf).result = .error e) ∧ (c.connect conf).state = c) ∨
      ∃ connection, (c.connect conf).result = .ok connection ∧ connection.closed = false ∧
        (c.connect conf).state = { c with gauges.connections := c.gauges.connections + 1 } := by
  unfold connect
  split
  · exact .inl ⟨⟨_, rfl⟩, rfl⟩
  · split
    · exact .inr ⟨_, rfl, rfl, rfl⟩
    · exact .inl ⟨⟨_, rfl⟩, rfl⟩

theorem openTable_cases (c : Cluster) (connection : Connection) (name : String) :
    ((∃ e, (c.openTable connection name).result = .error e) ∧
        (c.openTable connection name).state = c) ∨
      ∃ handle, (c.openTable connection name).result = .ok handle ∧
        (c.openTable connection name).state = { c with gauges.tables := c.gauges.tables + 1 } := by
  cases hopen : connection.closed with
  | true =>
      rw [openTable_of_closed hopen]
      exact .inl ⟨⟨_, rfl⟩, rfl⟩
  | false =>
      rw [openTable_of_open hopen]
      exact .inr ⟨_, rfl, rfl⟩

theorem openScanner_opens (c : Cluster) (handle : TableHandle) (scan : Scan) :
    ((∃ e, (c.openScanner handle scan).result = .error e) ∧
        (c.openScanner handle scan).state = c) ∨
      ∃ s, (c.openScanner handle scan).result = .ok s ∧ s.closed = false ∧
        (c.openScanner handle scan).state =
          { c with gauges.scanners := c.gauges.scanners + 1 } := by
  unfold openScanner
  split
  · exact .inl ⟨⟨_, rfl⟩, rfl⟩
  · split
    · exact .inl ⟨⟨_, rfl⟩, rfl⟩
    · exact .inr ⟨_, rfl, rfl, rfl⟩

/-! ## Releasing -/

theorem closed_closeConnection (c : Cluster) (connection : Connection) :
    (c.closeConnection connection).state.2.closed = true := by
  unfold closeConnection
  split
  · next hclosed => exact hclosed
  · rfl

theorem gauges_closeConnection (c : Cluster) (connection : Connection) :
    (c.closeConnection connection).state.1.gauges = (c.releaseConnection connection).gauges := by
  unfold closeConnection releaseConnection
  split <;> rfl

theorem gauges_closeConnection_of_open {connection : Connection} (h : connection.closed = false) :
    (c.closeConnection connection).state.1.gauges =
      { c.gauges with connections := c.gauges.connections - 1 } := by
  rw [gauges_closeConnection, releaseConnection, h, if_neg Bool.false_ne_true, connectionGone]

theorem gauges_releaseTable (c : Cluster) :
    c.releaseTable.gauges = { c.gauges with tables := c.gauges.tables - 1 } := rfl

theorem closed_closeScanner (c : Cluster) (s : Scanner) : (c.closeScanner s).2.closed = true := by
  unfold closeScanner
  split
  · next hclosed => exact hclosed
  · rfl

theorem closeScanner_of_open {s : Scanner} (h : s.closed = false) (c : Cluster) :
    c.closeScanner s =
      ({ c with gauges.scanners := c.gauges.scanners - 1 }, { s with closed := true }) := by
  rw [closeScanner, h, if_neg Bool.false_ne_true]

/-- A scanner that is closed and then dropped is counted out once. -/
theorem closeScanner_closeScanner (c : Cluster) (s : Scanner) :
    (c.closeScanner s).1.closeScanner (c.closeScanner s).2 = c.closeScanner s := by
  rw [closeScanner, if_pos (c.closed_closeScanner s)]

theorem closed_next (c : Cluster) (s : Scanner) : (c.next s).2.closed = s.closed := by
  unfold next
  split
  · rfl
  · split
    · rfl
    · split <;> rfl

/-! ## Calls of a service -/

variable {η : Type}

/-- A scanner is still open when all its rows have been handed over, or those up to a fault. -/
theorem closed_feedRows (c : Cluster) (handler : RowHandler η) (s : Scanner) (h : η)
    (summary : ScanSummary) : (feedRows c handler s h summary).2.1.closed = s.closed := by
  fun_induction feedRows c handler s h summary with
  | case1 | case2 | case4 => exact c.closed_next _
  | case3 _ _ _ _ _ _ _ ih | case5 _ _ _ _ _ _ _ _ _ ih => exact ih.trans (c.closed_next _)

theorem gauges_closeScanner_feedRows (c : Cluster) {s : Scanner} (hopen : s.closed = false)
    (handler : RowHandler η) (h : η) (summary : ScanSummary) :
    (c.closeScanner (feedRows c handler s h summary).2.1).1.gauges =
      { c.gauges with scanners := c.gauges.scanners - 1 } := by
  rw [closeScanner_of_open ((c.closed_feedRows handler s h summary).trans hopen)]

/-- Whether or not the table and the scanner can be opened, and whatever becomes of the rows, what was
opened is released. -/
theorem gauges_scanTable (c : Cluster) (connection : Connection) (table : String) (scan : Scan)
    (handler : RowHandler η) (h : η) :
    (scanTable c connection table scan handler h).state.1.gauges = c.gauges := by
  rcases c.openTable_cases connection table with ⟨⟨e, hrefused⟩, hsame⟩ | ⟨handle, hopened, hcount⟩
  · change (Store.openTable c connection table).result = _ at hrefused
    unfold scanTable
    simp only [hrefused]
    exact congrArg gauges hsame
  · change (Store.openTable c connection table).result = _ at hopened
    rcases (c.openTable connection table).state.openScanner_opens handle scan with
      ⟨⟨e, hrefused⟩, hsame⟩ | ⟨s, hstarted, hopen, hscanner⟩
    · change (Store.openScanner (Store.openTable c connection table).state handle scan).result = _
        at hrefused
      unfold scanTable
      simp only [hopened, hrefused]
      change ((c.openTable connection table).state.openScanner handle
        scan).state.releaseTable.gauges = _
      rw [gauges_releaseTable, hsame, hcount]
      simp
    · have hstart : Store.openScanner (Store.openTable c connection table).state handle scan =
          (c.openTable connection table).state.openScanner handle scan := rfl
      obtain ⟨-, hstate⟩ := scanTable_of_started hopened hstart hstarted handler h rfl
      rw [hstate]
      change (closeScanner _ _).1.releaseTable.gauges = _
      rw [gauges_releaseTable, gauges_closeScanner_feedRows _ hopen, hscanner, hcount]
      simp

theorem gauges_service_put (service : Service Cluster) (c : Cluster) (now : Timestamp)
    (table : String) (requests : List WriteRequest) :
    (service.put c now table requests).state.gauges = c.gauges := by
  unfold Service.put
  split
  · rfl
  · next connection _ =>
    split
    · rfl
    · rcases c.openTable_cases connection table with ⟨⟨e, hrefused⟩, hsame⟩ |
        ⟨handle, hopened, hcount⟩
      · have hrefused : (Store.openTable c connection table).result = .error e := hrefused
        simp only [hrefused]
        exact congrArg gauges hsame
      · have hopened : (Store.openTable c connection table).result = .ok handle := hopened
        have hput := gauges_put (c.openTable connection table).state handle now (Put.group requests)
        have hreleased : (releaseTable ((c.openTable connection table).state.put handle now
            (Put.group requests)).state).gauges = c.gauges := by
          rw [gauges_releaseTable, hput, hcount]
          simp
        simp only [hopened]
        split <;> exact hreleased

theorem gauges_scan (service : Service Cluster) (c : Cluster) (r : Service.Request)
    (handler : RowHandler η) (h : η) :
    (service.scan c r handler h).state.1.gauges = c.gauges := by
  unfold Service.scan
  split
  · rfl
  · split
    · rfl
    · next connection _ =>
      dsimp only
      split <;> exact gauges_scanTable c connection _ _ handler h

end Cluster

end ColumnStore
