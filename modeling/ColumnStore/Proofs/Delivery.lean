import ColumnStore.Client.Service
import ColumnStore.Proofs.Scanning

/-!
# What a scan hands over

A scan offers the rows that it fetches to its handler one after the other (`feedRows_eq_offer`). With
a handler that never gives up a scan of a cluster either fails or hands over all that one pass over
the table finds (`scan_cases`), and it changes none of the tables (`quiet_scan`).
-/

namespace ColumnStore

def RowResult.call (r : RowResult) : Bytes × List CellRecord :=
  (r.row, r.records)

namespace RowHandler

variable {η : Type}

/-- A handler that never gives up. -/
def Accepting (handler : RowHandler η) : Prop :=
  ∀ h row records, (handler h row records).1 = .ok ()

def after (handler : RowHandler η) (h : η) (calls : List (Bytes × List CellRecord)) : η :=
  calls.foldl (fun h call ↦ (handler h call.1 call.2).2) h

@[simp] theorem after_nil (handler : RowHandler η) (h : η) : handler.after h [] = h := rfl

theorem after_cons (handler : RowHandler η) (h : η) (call : Bytes × List CellRecord)
    (calls : List (Bytes × List CellRecord)) :
    handler.after h (call :: calls) = handler.after (handler h call.1 call.2).2 calls := rfl

def counting : RowHandler Nat := fun n _ _ ↦ (.ok (), n + 1)

theorem accepting_counting : counting.Accepting := by
  intro n row records
  rfl

end RowHandler

/-! ## Offering rows -/

section Offering

variable {σ η : Type} [Store σ]

/-- Offer rows to a handler until it gives up, and come to the ending if it does not. -/
def offer (handler : RowHandler η) (ending : Except StoreError Unit) (h : η)
    (summary : ScanSummary) : List RowResult → Except ScanFault ScanSummary × η
  | [] => ((ending.mapError .fetch).map fun _ ↦ summary, h)
  | r :: rows =>
    if r.cells.isEmpty then
      offer handler ending h { summary with skipped := summary.skipped + 1 } rows
    else
      match handler h r.row r.records with
      | (.error reason, h) => (.error (.handler reason), h)
      | (.ok (), h) =>
        offer handler ending h
          { summary with rows := summary.rows + 1, cells := summary.cells + r.cells.length } rows

section Step

variable {store : σ} {s : Store.Scanner σ}

theorem feedRows_of_none (hend : (Store.next store s).1 = .ok none) (handler : RowHandler η) (h : η)
    (summary : ScanSummary) :
    feedRows store handler s h summary = (.ok summary, (Store.next store s).2, h) := by
  rw [feedRows]
  split <;> simp_all

theorem feedRows_of_error {e : StoreError} (herror : (Store.next store s).1 = .error e)
    (handler : RowHandler η) (h : η) (summary : ScanSummary) :
    feedRows store handler s h summary = (.error (.fetch e), (Store.next store s).2, h) := by
  rw [feedRows]
  split <;> simp_all

theorem feedRows_of_row {r : RowResult} (hrow : (Store.next store s).1 = .ok (some r))
    (handler : RowHandler η) (h : η) (summary : ScanSummary) :
    feedRows store handler s h summary =
      if r.cells.isEmpty then
        feedRows store handler (Store.next store s).2 h
          { summary with skipped := summary.skipped + 1 }
      else
        match handler h r.row r.records with
        | (.error reason, h) => (.error (.handler reason), (Store.next store s).2, h)
        | (.ok (), h) =>
          feedRows store handler (Store.next store s).2 h
            { summary with rows := summary.rows + 1, cells := summary.cells + r.cells.length } := by
  rw [feedRows]
  split
  · next he => simp [he] at hrow
  · next he => simp [he] at hrow
  · next r' hr' =>
    rw [hr'] at hrow
    cases hrow
    rfl

end Step

theorem feedRows_eq_offer {store : σ} {s last : Store.Scanner σ}
    {rows : List RowResult} {ending : Except StoreError Unit}
    (hfetches : Fetches (Store.next store) s rows ending last) (handler : RowHandler η) (h : η)
    (summary : ScanSummary) :
    ((feedRows store handler s h summary).1, (feedRows store handler s h summary).2.2) =
      offer handler ending h summary rows := by
  -- The induction follows how the rows were fetched, one row at a time, whatever the handler does.
  induction hfetches generalizing h summary with
  | done hend => rw [feedRows_of_none hend, offer]; rfl
  | failed herror => rw [feedRows_of_error herror, offer]; rfl
  | @row s last r rows ending hrow _ ih =>
      rw [feedRows_of_row hrow, offer]
      by_cases hempty : r.cells.isEmpty
      · rw [if_pos hempty, if_pos hempty]
        exact ih h _
      · rw [if_neg hempty, if_neg hempty]
        rcases hanswer : handler h r.row r.records with ⟨_ | _, h'⟩
        · rfl
        · exact ih h' _

theorem offer_of_accepting {handler : RowHandler η} (haccepting : handler.Accepting)
    (ending : Except StoreError Unit) (h : η) (summary : ScanSummary) (rows : List RowResult) :
    ∃ total, offer handler ending h summary rows =
      ((ending.mapError .fetch).map fun _ ↦ total,
        handler.after h ((rows.filter (!·.cells.isEmpty)).map RowResult.call)) := by
  induction rows generalizing h summary with
  | nil => exact ⟨summary, rfl⟩
  | cons r rows ih =>
      rw [offer]
      by_cases hempty : r.cells.isEmpty
      · rw [if_pos hempty, List.filter_cons_of_neg (by simpa using hempty)]
        exact ih h _
      · rw [if_neg hempty, List.filter_cons_of_pos (by simpa using hempty), List.map_cons,
          RowHandler.after_cons]
        have hok := haccepting h r.row r.records
        rcases hanswer : handler h r.row r.records with ⟨_ | _, h'⟩
        · rw [hanswer] at hok
          cases hok
        · obtain ⟨total, htotal⟩ := ih h' _
          exact ⟨total, htotal.trans (by rw [RowResult.call, hanswer])⟩

section ScanTable

variable {store : σ} {connection : Store.Connection σ} {table : String} {handle : Store.Table σ}
  (hopened : (Store.openTable store connection table).result = .ok handle)
include hopened

theorem scanTable_of_refused {scan : Scan} {e : StoreError}
    (hrefused : (Store.openScanner (Store.openTable store connection table).state handle scan).result =
      .error e) (handler : RowHandler η) (h : η) :
    (scanTable store connection table scan handler h).result = .error (.fetch e) := by
  unfold scanTable
  simp only [hopened, hrefused]

theorem scanTable_of_started {scan : Scan} {started : Step σ (Except StoreError (Store.Scanner σ))}
    (hstart : Store.openScanner (Store.openTable store connection table).state handle scan = started)
    {s : Store.Scanner σ} (hstarted : started.result = .ok s) (handler : RowHandler η) (h : η)
    {fed : Except ScanFault ScanSummary × Store.Scanner σ × η}
    (hfed : feedRows started.state handler s h {} = fed) :
    (scanTable store connection table scan handler h).result = fed.1 ∧
      (scanTable store connection table scan handler h).state =
        (Store.releaseTable (Store.closeScanner started.state fed.2.1) handle, fed.2.2) := by
  subst hfed hstart
  unfold scanTable
  simp only [hopened, hstarted]
  exact ⟨trivial, trivial⟩

end ScanTable

end Offering

/-! ## Scanning a cluster -/

namespace Cluster

variable {η : Type} {c : Cluster} {log : List LoggedWrite}

/-- A scan of a table can start and comes to its end. -/
def Scannable (c : Cluster) (connection : Connection) (table : String) (scan : Scan) : Prop :=
  connection.closed = false ∧ c.faults.scans = none ∧
    ∃ t, c.tables.get? table = some t ∧
      ∀ family ∈ scan.families.keys, (t.descriptor.family? family).isSome

theorem openTable_of_closed {connection : Connection} (h : connection.closed = true)
    (c : Cluster) (name : String) :
    c.openTable connection name = { result := .error .connectionClosed, state := c } := by
  rw [openTable, ensureOpen, if_pos h]

theorem openTable_of_open {connection : Connection} (h : connection.closed = false)
    (c : Cluster) (name : String) :
    c.openTable connection name =
      { result := .ok { name, attempts := min (connection.retries.toNat + 1) attemptLimit }
        state := { c with gauges.tables := c.gauges.tables + 1 } } := by
  rw [openTable, ensureOpen, h, if_neg Bool.false_ne_true]

theorem openScanner_cases (c : Cluster) (handle : TableHandle) (scan : Scan) :
    ((∃ e, (c.openScanner handle scan).result = .error e) ∧
      ¬∃ t, c.tables.get? handle.name = some t ∧
        ∀ family ∈ scan.families.keys, (t.descriptor.family? family).isSome) ∨
      (c.openScanner handle scan).result =
        .ok { table := handle.name, scan, failAfter := c.faults.scans } := by
  by_cases hcan : ∃ t, c.tables.get? handle.name = some t ∧
      ∀ family ∈ scan.families.keys, (t.descriptor.family? family).isSome
  · obtain ⟨t, ht, hfamilies⟩ := hcan
    exact .inr (openScanner_eq ht hfamilies)
  · refine .inl ⟨?_, hcan⟩
    unfold openScanner table?
    cases ht : c.tables.get? handle.name with
    | none => exact ⟨_, rfl⟩
    | some t =>
        cases hcheck : checkFamilies t.descriptor scan.families.keys with
        | error e => exact ⟨e, by simp [hcheck]⟩
        | ok _ => exact (hcan ⟨t, ht, checkFamilies_eq_ok_iff.mp hcheck⟩).elim

/-- Feeding all rows to a handler that never gives up. -/
theorem AccountedBy.feedRows_cases (h : AccountedBy c log) {handler : RowHandler η}
    (haccepting : handler.Accepting) (table : String) (scan : Scan) (failAfter : Option Nat)
    (h₀ : η) (fed : Except ScanFault ScanSummary × Scanner × η)
    (hfed : feedRows c handler { table, scan, failAfter : Scanner } h₀ {} = fed) :
    ((∃ fault, fed.1 = .error fault) ∧ failAfter ≠ none) ∨
      (∃ total, fed.1 = .ok total) ∧
        fed.2.2 = handler.after h₀ ((scan.returned (c.rows table)).map RowResult.call) := by
  obtain ⟨rows, ending, last, hfetches⟩ := exists_fetches c { table, scan, failAfter : Scanner }
  have hoffer := feedRows_eq_offer hfetches handler h₀ {}
  obtain ⟨total, htotal⟩ := offer_of_accepting haccepting ending h₀ {} rows
  rw [htotal, hfed] at hoffer
  obtain ⟨hresult, hafter⟩ := Prod.mk.inj hoffer
  cases ending with
  | error e =>
      refine .inl ⟨⟨_, hresult⟩, fun hlimit ↦ ?_⟩
      cases Fetches.ending_eq hfetches hlimit
  | ok _ =>
      obtain ⟨hrows, -⟩ := Fetches.rows_eq hfetches rfl rfl
      have hahead : c.ahead { table, scan, failAfter } = (c.rows table).entries := rfl
      rw [hahead, h.walk_eq] at hrows
      have hcells : rows.filter (!·.cells.isEmpty) = rows := by
        rw [List.filter_eq_self]
        intro r hr
        rw [hrows] at hr
        simpa using (Scan.mem_returned hr).1
      rw [hcells, hrows] at hafter
      exact .inr ⟨⟨total, hresult⟩, hafter⟩

section ScanTable

variable (connection : Connection) (table : String) (scan : Scan) (handler : RowHandler η) (h₀ : η)

theorem quiet_scanTable (c : Cluster) :
    c.Quiet (scanTable c connection table scan handler h₀).state.1 := by
  have hopened := c.quiet_openTable connection table
  unfold scanTable
  dsimp only
  split
  · exact hopened
  · next handle _ =>
    have hstarted := hopened.trans (quiet_openScanner _ handle scan)
    split
    · exact hstarted.trans ⟨_, _, rfl⟩
    · exact (hstarted.trans (quiet_closeScanner _ _)).trans ⟨_, _, rfl⟩

theorem AccountedBy.scanTable_cases (h : AccountedBy c log) (haccepting : handler.Accepting) :
    ((∃ fault, (scanTable c connection table scan handler h₀).result = .error fault) ∧
      ¬c.Scannable connection table scan) ∨
      (∃ total, (scanTable c connection table scan handler h₀).result = .ok total) ∧
        (scanTable c connection table scan handler h₀).state.2 =
          handler.after h₀ ((scan.returned (c.rows table)).map RowResult.call) := by
  cases hopen : connection.closed with
  | true =>
      have hopened : Store.openTable c connection table = _ := openTable_of_closed hopen c table
      refine .inl ⟨⟨.fetch .connectionClosed, ?_⟩, fun hcan ↦ ?_⟩
      · unfold scanTable
        rw [hopened]
      · rw [hcan.1] at hopen
        cases hopen
  | false =>
      have hopened := openTable_of_open hopen c table
      have hresult := congrArg Step.result hopened
      rcases openScanner_cases (c.openTable connection table).state
        ⟨table, min (connection.retries.toNat + 1) attemptLimit⟩ scan with ⟨⟨e, he⟩, hcannot⟩ | hok
      · refine .inl ⟨⟨.fetch e, scanTable_of_refused hresult he handler h₀⟩, fun hcan ↦ ?_⟩
        rw [hopened] at hcannot
        exact hcannot hcan.2.2
      · obtain ⟨hfed, hstate⟩ := scanTable_of_started hresult rfl hok handler h₀ rfl
        have hquiet := (c.quiet_openTable connection table).trans (quiet_openScanner _
          ⟨table, min (connection.retries.toNat + 1) attemptLimit⟩ scan)
        have hlimit : (c.openTable connection table).state.faults.scans = c.faults.scans := by
          rw [hopened]
        rw [hfed, hstate, ← hquiet.rows table]
        rcases (h.quiet hquiet).feedRows_cases haccepting table scan _ h₀ _ rfl with
          ⟨hfault, hne⟩ | hdone
        · refine .inl ⟨hfault, fun hcan ↦ hne ?_⟩
          rw [hlimit]
          exact hcan.2.1
        · exact .inr hdone

end ScanTable

/-! ## Writing and scanning through a service -/

/-- A put that succeeds is a put of the cluster between changes that do not concern the tables. -/
theorem put_of_ok {service : Service Cluster} {now : Timestamp} {table : String}
    {requests : List WriteRequest} (hne : requests ≠ [])
    (hput : (service.put c now table requests).result = .ok ()) :
    ∃ (connection : Connection) (d : Cluster) (handle : TableHandle),
      service.connected? = some connection ∧ connection.closed = false ∧ c.Quiet d ∧
        handle.name = table ∧ (d.put handle now (Put.group requests)).result = .ok () ∧
        (d.perform (.put handle now (Put.group requests))).Quiet
          (service.put c now table requests).state := by
  have hrequests : ¬requests.isEmpty := by
    rw [List.isEmpty_iff]
    exact hne
  unfold Service.put at hput ⊢
  cases hservice : service.connected? with
  | none =>
      rw [hservice] at hput
      cases hput
  | some connection =>
      rw [hservice] at hput
      dsimp only at hput ⊢
      rw [if_neg hrequests] at hput ⊢
      split at hput
      · cases hput
      · next handle hopened =>
        split at hput
        · cases hput
        · next hwritten =>
          have hhandle : (c.openTable connection table).result = .ok handle := hopened
          cases hopen : Connection.closed connection with
          | true =>
              rw [openTable_of_closed hopen] at hhandle
              cases hhandle
          | false =>
              refine ⟨connection, (c.openTable connection table).state, handle, rfl, hopen,
                c.quiet_openTable connection table, ?_, hwritten, ⟨_, _, rfl⟩⟩
              rw [openTable_of_open hopen] at hhandle
              cases hhandle
              rfl

variable (service : Service Cluster) (r : Service.Request) (handler : RowHandler η) (h₀ : η)

theorem quiet_scan (c : Cluster) : c.Quiet (service.scan c r handler h₀).state.1 := by
  unfold Service.scan
  split
  · exact .refl c
  · split
    · exact .refl c
    · next connection _ =>
      dsimp only
      split
      · exact quiet_scanTable connection _ _ handler h₀ c
      · exact quiet_scanTable connection _ _ handler h₀ c

/-- A scan without a filter, with a handler that never gives up, either fails, which it does not do
if it can start and come to its end, or hands over all that one pass over the table finds. -/
theorem AccountedBy.scan_cases (h : AccountedBy c log) (haccepting : handler.Accepting)
    (hr : r.expression = none) :
    ((∃ e, (service.scan c r handler h₀).result = .error e) ∧
      ∀ connection : Connection, service.connected? = some connection →
        ¬c.Scannable connection r.table (Scan.build r.columns none r.minTime)) ∨
      (service.scan c r handler h₀).result = .ok () ∧
        (service.scan c r handler h₀).state.2 = handler.after h₀
          (((Scan.build r.columns none r.minTime).returned (c.rows r.table)).map
            RowResult.call) := by
  have hfilter : service.readFilter r = .ok none := by rw [Service.readFilter, hr]
  unfold Service.scan
  rw [hfilter]
  dsimp only
  cases hservice : service.connected? with
  | none =>
      refine .inl ⟨⟨.notEnabled, rfl⟩, fun connection hconnection ↦ ?_⟩
      cases hconnection
  | some connection =>
      rcases h.scanTable_cases connection r.table (Scan.build r.columns none r.minTime) handler h₀
        haccepting with ⟨⟨fault, hfault⟩, hcannot⟩ | ⟨⟨total, htotal⟩, hafter⟩
      · refine .inl ⟨⟨fault.toError r.table, by simp only [hfault]⟩, fun connection' hsame ↦ ?_⟩
        cases hsame
        exact hcannot
      · exact .inr ⟨by simp only [htotal], by simp only [htotal, hafter]⟩

def sampleService : Service Cluster where
  state := .enabled
  connection := some { retries := 0 : Connection }

end Cluster

end ColumnStore
