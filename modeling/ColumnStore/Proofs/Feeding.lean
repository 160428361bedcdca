import ColumnStore.Proofs.Delivery
import ColumnStore.Store.Replay

/-!
# Feeding a handler

A scan asks its scanner for one row after the other and calls the handler for those that have cells,
up to the first call that is refused or the first row that cannot be fetched (`feedRows_cases`). Then
it asks for nothing more, and closes its scanner whatever happened (`scanTable_feeds`).
-/

namespace ColumnStore

/-! ## The calls for some rows -/

namespace RowResult

def calls (rows : List RowResult) : List (Bytes × List CellRecord) :=
  (rows.filter (!·.cells.isEmpty)).map call

theorem calls_cons_of_isEmpty {r : RowResult} (h : r.cells.isEmpty) (rows : List RowResult) :
    calls (r :: rows) = calls rows := by
  rw [calls, List.filter_cons_of_neg (by simpa using h), calls]

theorem calls_cons {r : RowResult} (h : ¬r.cells.isEmpty) (rows : List RowResult) :
    calls (r :: rows) = r.call :: calls rows := by
  rw [calls, List.filter_cons_of_pos (by simpa using h), List.map_cons, calls]

end RowResult

/-- The summary when some more rows have been fetched and all calls for them were accepted. -/
def ScanSummary.add (summary : ScanSummary) (rows : List RowResult) : ScanSummary where
  rows := summary.rows + (RowResult.calls rows).length
  cells := summary.cells + ((RowResult.calls rows).map (·.2.length)).sum
  skipped := summary.skipped + rows.countP (·.cells.isEmpty)

theorem ScanSummary.add_cons_of_isEmpty (summary : ScanSummary) {r : RowResult}
    (h : r.cells.isEmpty) (rows : List RowResult) :
    summary.add (r :: rows) = { summary with skipped := summary.skipped + 1 }.add rows := by
  simp only [add, RowResult.calls_cons_of_isEmpty h, List.countP_cons, if_pos h, Nat.add_assoc,
    Nat.add_comm 1]

theorem ScanSummary.add_cons (summary : ScanSummary) {r : RowResult} (h : ¬r.cells.isEmpty)
    (rows : List RowResult) :
    summary.add (r :: rows) =
      { summary with rows := summary.rows + 1, cells := summary.cells + r.cells.length }.add
        rows := by
  have hlength : r.call.2.length = r.cells.length := List.length_map _
  simp only [add, RowResult.calls_cons h, List.countP_cons, if_neg h, List.length_cons,
    List.map_cons, List.sum_cons, hlength, Nat.add_assoc, Nat.add_comm 1, Nat.add_zero]

/-! ## Accepting and giving up -/

namespace RowHandler

variable {η : Type} {handler : RowHandler η} {h : η}

/-- All of some calls are accepted, one after the other. -/
def AcceptsAll (handler : RowHandler η) (h : η) (calls : List (Bytes × List CellRecord)) : Prop :=
  ∀ answer ∈ handler.feed h calls, answer.1 = .ok ()

/-- Of some rows all are accepted, and the next one has cells and is refused. -/
structure GivesUp (handler : RowHandler η) (h : η) (seen : List RowResult) (r : RowResult)
    (reason : String) : Prop where
  accepted : handler.AcceptsAll h (RowResult.calls seen)
  cells : r.cells ≠ []
  refused : (handler (handler.after h (RowResult.calls seen)) r.row r.records).1 = .error reason

theorem acceptsAll_nil (handler : RowHandler η) (h : η) : handler.AcceptsAll h [] := by
  intro answer hanswer
  cases hanswer

theorem AcceptsAll.cons {call : Bytes × List CellRecord} {calls : List (Bytes × List CellRecord)}
    {h' : η} (hcall : handler h call.1 call.2 = (.ok (), h')) (hcalls : handler.AcceptsAll h' calls) :
    handler.AcceptsAll h (call :: calls) := by
  refine List.forall_mem_cons.mpr ⟨?_, ?_⟩
  · rw [hcall]
  · rw [hcall]
    exact hcalls

namespace GivesUp

variable {seen : List RowResult} {r r' : RowResult} {reason : String}

theorem cons_of_isEmpty (hup : handler.GivesUp h seen r' reason) (hempty : r.cells.isEmpty) :
    handler.GivesUp h (r :: seen) r' reason := by
  obtain ⟨haccepted, hcells, hrefused⟩ := hup
  rw [← RowResult.calls_cons_of_isEmpty hempty seen] at haccepted hrefused
  exact ⟨haccepted, hcells, hrefused⟩

theorem cons {h' : η} (hup : handler.GivesUp h' seen r' reason) (hcells : ¬r.cells.isEmpty)
    (hcall : handler h r.row r.records = (.ok (), h')) :
    handler.GivesUp h (r :: seen) r' reason where
  accepted := by
    rw [RowResult.calls_cons hcells]
    exact .cons hcall hup.accepted
  cells := hup.cells
  refused := by
    have hafter : (handler h r.call.1 r.call.2).2 = h' := congrArg Prod.snd hcall
    rw [RowResult.calls_cons hcells, after_cons, hafter]
    exact hup.refused

end GivesUp

end RowHandler

/-! ## Feeding -/

section Feeding

variable {σ η : Type} [Store σ] {store : σ}

def scannerAfter (store : σ) : (requests : Nat) → Store.Scanner σ → Store.Scanner σ
  | 0, s => s
  | requests + 1, s => scannerAfter store requests (Store.next store s).2

theorem Fetches.last_eq {s last : Store.Scanner σ} {rows : List RowResult}
    {ending : Except StoreError Unit} (h : Fetches (Store.next store) s rows ending last) :
    last = scannerAfter store (rows.length + 1) s := by
  induction h with
  | done _ => rfl
  | failed _ => rfl
  | row _ _ ih => exact ih

/-- Either the handler gives up at one of the rows, which is the last one to be fetched, or it accepts
all of them and the ending is that of the scanner. -/
theorem feedRows_cases {s last : Store.Scanner σ} {rows : List RowResult}
    {ending : Except StoreError Unit} (hfetches : Fetches (Store.next store) s rows ending last)
    (handler : RowHandler η) (h : η) (summary : ScanSummary) :
    (∃ seen r rest reason, rows = seen ++ r :: rest ∧ handler.GivesUp h seen r reason ∧
        feedRows store handler s h summary =
          (.error (.handler reason), scannerAfter store (seen.length + 1) s,
            handler.after h (RowResult.calls (seen ++ [r])))) ∨
      handler.AcceptsAll h (RowResult.calls rows) ∧
        feedRows store handler s h summary =
          ((ending.mapError .fetch).map fun _ ↦ summary.add rows, last,
            handler.after h (RowResult.calls rows)) := by
  -- The induction follows how the rows were fetched. A row that is seen before the others puts off
  -- by one the row at which the handler gives up.
  induction hfetches generalizing h summary with
  | done hend => exact .inr ⟨handler.acceptsAll_nil h, feedRows_of_none hend handler h summary⟩
  | failed herror =>
      exact .inr ⟨handler.acceptsAll_nil h, feedRows_of_error herror handler h summary⟩
  | @row s last r rows ending hrow _ ih =>
      rw [feedRows_of_row hrow]
      by_cases hempty : r.cells.isEmpty
      · rw [if_pos hempty, RowResult.calls_cons_of_isEmpty hempty,
          summary.add_cons_of_isEmpty hempty]
        rcases ih h { summary with skipped := summary.skipped + 1 } with
          ⟨seen, r', rest, reason, rfl, hup, hfed⟩ | hall
        · refine .inl ⟨r :: seen, r', rest, reason, rfl, hup.cons_of_isEmpty hempty, ?_⟩
          rw [List.cons_append, RowResult.calls_cons_of_isEmpty hempty]
          exact hfed
        · exact .inr hall
      · rw [if_neg hempty, RowResult.calls_cons hempty, summary.add_cons hempty]
        rcases hanswer : handler h r.row r.records with ⟨reason | _, h'⟩
        · have hrefused := congrArg Prod.fst hanswer
          have hafter : handler.after h (RowResult.calls [r]) = h' := by
            rw [RowResult.calls_cons hempty]
            exact congrArg Prod.snd hanswer
          refine .inl ⟨[], r, rows, reason, rfl, ⟨handler.acceptsAll_nil h, ?_, hrefused⟩, ?_⟩
          · simpa using hempty
          · rw [List.nil_append, hafter]
            rfl
        · have hafter : (handler h r.call.1 r.call.2).2 = h' := congrArg Prod.snd hanswer
          rcases ih h' { summary with
              rows := summary.rows + 1, cells := summary.cells + r.cells.length } with
            ⟨seen, r', rest, reason, rfl, hup, hfed⟩ | ⟨hall, hfed⟩
          · refine .inl ⟨r :: seen, r', rest, reason, rfl, hup.cons hempty hanswer, ?_⟩
            rw [List.cons_append, RowResult.calls_cons hempty, RowHandler.after_cons, hafter]
            exact hfed
          · rw [RowHandler.after_cons, hafter]
            exact .inr ⟨.cons hanswer hall, hfed⟩

/-- A scan of a table whose scanner gives some rows and then ends or fails. The handler is called just
once for every row that has cells, in order, up to the first one that it refuses, and after that no
row is fetched. Refusing a row is reported as such, and so is the error of a row that cannot be
fetched; otherwise the summary counts what was done. In any case the scanner is closed as it was left
by the last request, and the table is released. -/
theorem scanTable_feeds {connection : Store.Connection σ} {table : String} {handle : Store.Table σ}
    (hopened : (Store.openTable store connection table).result = .ok handle) {scan : Scan}
    {started : Step σ (Except StoreError (Store.Scanner σ))}
    (hstart : Store.openScanner (Store.openTable store connection table).state handle scan = started)
    {s last : Store.Scanner σ} (hstarted : started.result = .ok s) {rows : List RowResult}
    {ending : Except StoreError Unit}
    (hfetches : Fetches (Store.next started.state) s rows ending last) (handler : RowHandler η)
    (h : η) (scanned : Step (σ × η) (Except ScanFault ScanSummary))
    (hscanned : scanTable store connection table scan handler h = scanned) :
    ∃ requests made,
      scanned.state =
        (Store.releaseTable
            (Store.closeScanner started.state (scannerAfter started.state requests s)) handle,
          handler.after h made) ∧
      ((∃ seen r rest reason, rows = seen ++ r :: rest ∧ handler.GivesUp h seen r reason ∧
          requests = seen.length + 1 ∧ made = RowResult.calls (seen ++ [r]) ∧
          scanned.result.mapError (·.toError table) = .error (.handler table reason)) ∨
        handler.AcceptsAll h (RowResult.calls rows) ∧
          requests = rows.length + 1 ∧ made = RowResult.calls rows ∧
          ((∃ e, ending = .error e ∧
              scanned.result.mapError (·.toError table) = .error (.scanIteration table e)) ∨
            ending = .ok () ∧
              scanned.result = .ok {
                rows := made.length
                cells := (made.map (·.2.length)).sum
                skipped := rows.countP (·.cells.isEmpty) })) := by
  subst hscanned
  obtain ⟨hresult, hstate⟩ := scanTable_of_started hopened hstart hstarted handler h rfl
  rw [hresult, hstate]
  rcases feedRows_cases hfetches handler h {} with
    ⟨seen, r, rest, reason, hrows, hup, hfed⟩ | ⟨hall, hfed⟩
  · rw [hfed]
    exact ⟨seen.length + 1, _, rfl, .inl ⟨seen, r, rest, reason, hrows, hup, rfl, rfl, rfl⟩⟩
  · rw [hfed, hfetches.last_eq]
    refine ⟨rows.length + 1, _, rfl, .inr ⟨hall, rfl, rfl, ?_⟩⟩
    cases ending with
    | error e => exact .inl ⟨e, rfl, rfl⟩
    | ok _ =>
        refine .inr ⟨rfl, ?_⟩
        simp [Except.map, Except.mapError, ScanSummary.add]

end Feeding

/-- A row whose cells are alike, and empty but for the key. -/
def sampleRow (key : UInt8) (cells : Nat) : RowResult :=
  let fields : CellFields := ⟨[key], [], [], 1, .put, [], []⟩
  ⟨[key], List.replicate cells ⟨fields.encode, 0, fields, fields.oversized?_eq_none_iff.mp rfl, rfl⟩⟩

/-- The fourth request fails, before the last row. -/
def sampleReplay : Replay where
  rows := [sampleRow 97 0, sampleRow 98 1, sampleRow 99 2, sampleRow 100 1]
  failAt := some 3

theorem feeds_sampleReplay :
    (scanTable sampleReplay () "t" {} RowHandler.counting 0).result.mapError (·.toError "t") =
        .error (.scanIteration "t" .connectionClosed) ∧
      (scanTable sampleReplay () "t" {} RowHandler.counting 0).state.2 = 2 ∧
      (scanTable sampleReplay () "t" {} RowHandler.counting 0).state.1.scannerCloses = 1 := by
  have hopened : (Store.openTable sampleReplay () "t").result = .ok () := rfl
  have hstart : Store.openScanner (Store.openTable sampleReplay () "t").state () {} =
      { result := .ok { rows := sampleReplay.rows }, state := sampleReplay } := rfl
  obtain ⟨requests, made, hstate, hcases⟩ := scanTable_feeds hopened hstart rfl
    (.row rfl (.row rfl (.row rfl (.failed rfl)))) RowHandler.counting 0 _ rfl
  rcases hcases with ⟨_, _, _, _, -, hup, -⟩ | ⟨-, -, hmade, ⟨e, hending, hresult⟩ | ⟨hending, -⟩⟩
  · cases hup.refused
  · cases hending
    subst hmade
    exact ⟨hresult, congrArg Prod.snd hstate, congrArg (Replay.scannerCloses ∘ Prod.fst) hstate⟩
  · cases hending

end ColumnStore
