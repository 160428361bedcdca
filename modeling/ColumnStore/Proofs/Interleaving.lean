import ColumnStore.Proofs.Grouping
import ColumnStore.Proofs.Scanning

/-!
# Scanning while a table is written to

A scanner can be asked for rows while its table changes. Whatever is done to the cluster between the
calls, the keys that it returns ascend, a row is what its key holds at the moment of the call, and a
key that holds something at every call up to the end is returned once (`Sound`). A scanner with a
limit returns the first rows of one without, and then an error (`Limited`).
-/

namespace ColumnStore

/-! ## A scanner in use -/

/-- What happens while a scanner is in use: it is asked for a row, or something is done to the
cluster. -/
inductive Turn where
  | fetch
  | operation (operation : Operation)

/-- An answer of a scanner, and the cluster at the moment of the call. -/
structure Fetch where
  cluster : Cluster
  answer : Session.Fetched

namespace Fetch

def row? (f : Fetch) : Option RowResult :=
  f.answer.toOption.join

theorem row?_eq_some_iff {f : Fetch} {r : RowResult} :
    f.row? = some r ↔ f.answer = .ok (some r) := by
  unfold row?
  rcases f.answer with e | _ | r' <;> simp [Except.toOption]

end Fetch

/-- A scanner in use: its cluster, and what it has answered so far. -/
structure Reading where
  cluster : Cluster
  scanner : Scanner
  fetches : List Fetch := []

namespace Reading

def answer (w : Reading) : Session.Fetched :=
  (w.cluster.next w.scanner).1

def turn (w : Reading) : Turn → Reading
  | .fetch =>
    { w with
      scanner := (w.cluster.next w.scanner).2
      fetches := w.fetches ++ [⟨w.cluster, w.answer⟩] }
  | .operation operation => { w with cluster := w.cluster.perform operation }

def run (w : Reading) (turns : List Turn) : Reading :=
  turns.foldl turn w

def rows (w : Reading) : List RowResult :=
  w.fetches.filterMap Fetch.row?

/-- Some call had the answer that there are no more rows. -/
def Ended (w : Reading) : Prop :=
  ∃ f ∈ w.fetches, f.answer = .ok none

theorem rows_fetch (w : Reading) :
    (w.turn .fetch).rows = w.rows ++ (Fetch.row? ⟨w.cluster, w.answer⟩).toList := by
  cases hrow : Fetch.row? ⟨w.cluster, w.answer⟩ <;>
    simp [rows, turn, List.filterMap_append, hrow]

theorem rows_fetch_of_row {w : Reading} {r : RowResult} (h : w.answer = .ok (some r)) :
    (w.turn .fetch).rows = w.rows ++ [r] := by
  rw [rows_fetch, Fetch.row?_eq_some_iff.mpr h, Option.toList_some]

theorem rows_fetch_of_none {w : Reading} (h : ∀ r, w.answer ≠ .ok (some r)) :
    (w.turn .fetch).rows = w.rows := by
  have hnone : Fetch.row? ⟨w.cluster, w.answer⟩ = none := by
    rw [Option.eq_none_iff_forall_ne_some]
    intro r hr
    exact h r (Fetch.row?_eq_some_iff.mp hr)
  rw [rows_fetch, hnone, Option.toList_none, List.append_nil]

theorem ended_fetch (w : Reading) : (w.turn .fetch).Ended ↔ w.Ended ∨ w.answer = .ok none := by
  simp only [Ended, turn, List.mem_append, List.mem_singleton]
  constructor
  · rintro ⟨f, hf | rfl, hnone⟩
    · exact .inl ⟨f, hf, hnone⟩
    · exact .inr hnone
  · rintro (⟨f, hf, hnone⟩ | hnone)
    · exact ⟨f, .inl hf, hnone⟩
    · exact ⟨_, .inr rfl, hnone⟩

end Reading

/-! ## One call -/

/-- A key is after the last row that was returned. -/
def Scanner.Awaits (s : Scanner) (key : Bytes) : Prop :=
  ∀ last, s.position = some last → compare key last = .gt

namespace Cluster

variable {c : Cluster} {log : List LoggedWrite} {s : Scanner}

/-- What a scan is to return of a row: of every selected column the newest version in the range, and
of these what the filter leaves. -/
def contentAt (c : Cluster) (scan : Scan) (table : String) (key : Bytes) : List Cell :=
  match (c.rows table).get? key with
  | none => []
  | some row => scan.filtered (scan.selected row)

/-- The error of a scanner that has reached its limit. -/
def leaseExpired : StoreError :=
  .io .timedOut "scanner lease expired"

theorem mem_ahead_iff {key : Bytes} {row : Row} :
    (key, row) ∈ c.ahead s ↔ (c.rows s.table).get? key = some row ∧ s.Awaits key := by
  rw [← OrderedMap.mem_entries_iff, ahead, Scanner.Awaits]
  cases s.position with
  | none => simp [OrderedMap.after]
  | some last => simp [OrderedMap.after]

theorem AccountedBy.contents_eq (h : AccountedBy c log) (scan : Scan) {table : String} {key : Bytes}
    {row : Row} (hrow : (c.rows table).get? key = some row) :
    scan.contents row = c.contentAt scan table key := by
  have hmem := OrderedMap.mem_entries_iff.mpr hrow
  have hcandidates : scan.candidates row = scan.selected row := by
    apply scan.candidates_eq
    rintro ⟨column, versions⟩ hversions
    rw [← versions_of_mem hmem hversions]
    exact h.descending_versions table key column
  rw [contentAt, hrow, Scan.contents, hcandidates]

/-- The rows that a scanner has still to return are those of the keys that it awaits. -/
theorem AccountedBy.mem_walk_ahead_iff (h : AccountedBy c log) {r : RowResult} :
    r ∈ s.scan.walk (c.ahead s) ↔
      s.Awaits r.row ∧ r.cells = c.contentAt s.scan s.table r.row ∧ r.cells ≠ [] := by
  rw [Scan.walk, List.mem_filterMap]
  constructor
  · rintro ⟨⟨key, row⟩, hrow, hkeep⟩
    obtain ⟨hget, hawaits⟩ := mem_ahead_iff.mp hrow
    obtain ⟨rfl, hcells⟩ := Scan.mem_keep hkeep
    exact ⟨hawaits, h.contents_eq s.scan hget, hcells⟩
  · rintro ⟨hawaits, hcells, hne⟩
    cases hget : (c.rows s.table).get? r.row with
    | none =>
        rw [contentAt, hget] at hcells
        exact (hne hcells).elim
    | some row =>
        refine ⟨(r.row, row), mem_ahead_iff.mpr ⟨hget, hawaits⟩, ?_⟩
        have hsome : ¬r.cells.isEmpty := by simpa using hne
        change Scan.keep r.row (s.scan.contents row) = some r
        rw [h.contents_eq s.scan hget, ← hcells, Scan.keep, if_neg hsome]

theorem next_of_limit (hopen : s.closed = false) (hmore : s.exhausted = false)
    (hlimit : s.failAfter.any (· ≤ s.delivered)) : c.next s = (.error leaseExpired, s) := by
  simp [next, hopen, hmore, hlimit, leaseExpired]

/-- What the answer to a call can be before the end. -/
theorem next_cases (c : Cluster) (hopen : s.closed = false) (hmore : s.exhausted = false) :
    (s.failAfter.any (· ≤ s.delivered) ∧ c.next s = (.error leaseExpired, s)) ∨
      ¬s.failAfter.any (· ≤ s.delivered) ∧
        ((∃ r, c.next s =
            (.ok (some r), { s with position := some r.row, delivered := s.delivered + 1 })) ∨
          s.scan.walk (c.ahead s) = [] ∧ c.next s = (.ok none, { s with exhausted := true })) := by
  by_cases hlimit : s.failAfter.any (· ≤ s.delivered)
  · exact .inl ⟨hlimit, next_of_limit hopen hmore hlimit⟩
  · refine .inr ⟨hlimit, ?_⟩
    have hdone : ¬(s.closed || s.exhausted) = true := by simp [hopen, hmore]
    rw [next, if_neg hdone, if_neg hlimit]
    cases hfirst : s.scan.firstRow? (c.ahead s) with
    | some r => exact .inl ⟨r, rfl⟩
    | none => exact .inr ⟨Scan.firstRow?_eq_none hfirst, rfl⟩

/-- What a call can do to a scanner. -/
theorem scanner_next_cases (c : Cluster) (s : Scanner) :
    (c.next s).2 = s ∨ (c.next s).2 = { s with exhausted := true } ∨
      ∃ key, (c.next s).2 = { s with position := some key, delivered := s.delivered + 1 } := by
  unfold next
  split
  · exact .inl rfl
  · split
    · exact .inl rfl
    · split
      · exact .inr (.inr ⟨_, rfl⟩)
      · exact .inr (.inl rfl)

theorem failAfter_next (c : Cluster) (s : Scanner) : (c.next s).2.failAfter = s.failAfter := by
  rcases c.scanner_next_cases s with h | h | ⟨key, h⟩ <;> rw [h]

theorem delivered_next_le (c : Cluster) (s : Scanner) : (c.next s).2.delivered ≤ s.delivered + 1 := by
  rcases c.scanner_next_cases s with h | h | ⟨key, h⟩ <;> simp [h]

/-- A limit plays no part before it is reached, or after the end. -/
theorem next_of_room {n : Nat} (hunlimited : s.failAfter = none)
    (hroom : s.exhausted = true ∨ s.delivered < n) :
    c.next { s with failAfter := some n } =
      ((c.next s).1, { (c.next s).2 with failAfter := some n }) := by
  have hahead : c.ahead { s with failAfter := some n } = c.ahead s := rfl
  unfold next
  by_cases hdone : (s.closed || s.exhausted) = true
  · simp only [hdone, if_true]
  · have hnot : ¬n ≤ s.delivered := by
      rcases hroom with hexhausted | hless
      · rw [hexhausted, Bool.or_true] at hdone
        exact (hdone rfl).elim
      · exact Nat.not_le.mpr hless
    simp only [hdone, hunlimited, hahead, Option.any_some, Option.any_none, hnot, decide_false]
    cases s.scan.firstRow? (c.ahead s) <;> rfl

end Cluster

/-! ## Any number of calls -/

namespace Reading

variable {start : Scanner} {w : Reading}

/-- A scanner that was opened has returned what it should so far. -/
structure Sound (start : Scanner) (w : Reading) : Prop where
  accounted : ∃ log, w.cluster.AccountedBy log
  scan : w.scanner.scan = start.scan
  table : w.scanner.table = start.table
  failAfter : w.scanner.failAfter = start.failAfter
  isOpen : w.scanner.closed = false
  delivered : w.scanner.delivered = w.rows.length
  ended : w.scanner.exhausted = true ↔ w.Ended
  /-- A key that the scanner awaits is after all that it has returned. -/
  behind : ∀ r ∈ w.rows, ∀ key, w.scanner.Awaits key → compare r.row key = .lt
  ascending : w.rows.Pairwise fun r r' ↦ compare r.row r'.row = .lt
  faithful : ∀ f ∈ w.fetches, ∀ r, f.answer = .ok (some r) →
    r.cells = f.cluster.contentAt start.scan start.table r.row ∧ r.cells ≠ []
  /-- A key that held something at every call was returned, unless it is still to come. -/
  complete : ∀ key, (∀ f ∈ w.fetches, f.cluster.contentAt start.scan start.table key ≠ []) →
    (∃ r ∈ w.rows, r.row = key) ∨ (w.scanner.exhausted = false ∧ w.scanner.Awaits key)

namespace Sound

/-- Between two calls only the cluster changes. The contents that count are those at each call. -/
theorem operation (h : Sound start w) (operation : Operation) :
    Sound start (w.turn (.operation operation)) where
  accounted := by
    obtain ⟨log, hlog⟩ := h.accounted
    exact ⟨_, hlog.perform operation⟩
  scan := h.scan
  table := h.table
  failAfter := h.failAfter
  isOpen := h.isOpen
  delivered := h.delivered
  ended := h.ended
  behind := h.behind
  ascending := h.ascending
  faithful := h.faithful
  complete := h.complete

/-- A key that is awaited and holds something is still to come. -/
theorem mem_walk (h : Sound start w) {key : Bytes} (hawaits : w.scanner.Awaits key)
    (hnow : w.cluster.contentAt start.scan start.table key ≠ []) :
    ⟨key, w.cluster.contentAt start.scan start.table key⟩ ∈
      w.scanner.scan.walk (w.cluster.ahead w.scanner) := by
  obtain ⟨log, hlog⟩ := h.accounted
  rw [← h.scan, ← h.table] at hnow ⊢
  exact hlog.mem_walk_ahead_iff.mpr ⟨hawaits, rfl, hnow⟩

/-- A call that returns no row: the end or an error. -/
theorem fetch_none (h : Sound start w) {answer : Session.Fetched} {exhausted : Bool}
    (hnext : w.cluster.next w.scanner = (answer, { w.scanner with exhausted }))
    (hnone : ∀ r, answer ≠ .ok (some r))
    (hended : exhausted = true ↔ w.scanner.exhausted = true ∨ answer = .ok none)
    (hlast : exhausted = true → w.scanner.exhausted = false →
      w.scanner.scan.walk (w.cluster.ahead w.scanner) = []) :
    Sound start (w.turn .fetch) := by
  have hanswer : w.answer = answer := congrArg Prod.fst hnext
  have hscanner : (w.turn .fetch).scanner = { w.scanner with exhausted } := congrArg Prod.snd hnext
  have hrows : (w.turn .fetch).rows = w.rows := rows_fetch_of_none (hanswer ▸ hnone)
  have hfetches : (w.turn .fetch).fetches = w.fetches ++ [⟨w.cluster, answer⟩] := by
    rw [← hanswer]
    rfl
  constructor
  case accounted => exact h.accounted
  case scan => rw [hscanner, h.scan]
  case table => rw [hscanner, h.table]
  case failAfter => rw [hscanner, h.failAfter]
  case isOpen => rw [hscanner, h.isOpen]
  case delivered => rw [hscanner, hrows, h.delivered]
  case ended => rw [hscanner, ended_fetch, ← h.ended, hanswer, hended]
  case ascending => rw [hrows]; exact h.ascending
  case behind =>
    rw [hrows, hscanner]
    exact h.behind
  case faithful =>
    intro f hf r hr
    rw [hfetches, List.mem_append, List.mem_singleton] at hf
    rcases hf with hf | rfl
    · exact h.faithful f hf r hr
    · exact (hnone r hr).elim
  case complete =>
    intro key hall
    rw [hfetches] at hall
    have hnow : w.cluster.contentAt start.scan start.table key ≠ [] :=
      hall ⟨w.cluster, answer⟩ (by simp)
    rw [hrows, hscanner]
    rcases h.complete key fun f hf ↦ hall f (List.mem_append_left _ hf) with hfound | ⟨hmore, hawaits⟩
    · exact .inl hfound
    · cases hexhausted : exhausted with
      | false => exact .inr ⟨rfl, hawaits⟩
      | true =>
          -- Nothing was left to return, but the key holds something and is awaited.
          have hmem := h.mem_walk hawaits hnow
          rw [hlast hexhausted hmore] at hmem
          cases hmem

/-- A row that is returned comes after all before it, and every awaited key that it goes past holds
nothing at this call. -/
theorem fetch_row (h : Sound start w) {r : RowResult} (hmore : w.scanner.exhausted = false)
    (hnext : w.cluster.next w.scanner = (.ok (some r),
      { w.scanner with position := some r.row, delivered := w.scanner.delivered + 1 })) :
    Sound start (w.turn .fetch) := by
  obtain ⟨log, hlog⟩ := h.accounted
  have hanswer : w.answer = .ok (some r) := congrArg Prod.fst hnext
  have hscanner : (w.turn .fetch).scanner =
      { w.scanner with position := some r.row, delivered := w.scanner.delivered + 1 } :=
    congrArg Prod.snd hnext
  have hrows : (w.turn .fetch).rows = w.rows ++ [r] := rows_fetch_of_row hanswer
  have hfetches : (w.turn .fetch).fetches = w.fetches ++ [⟨w.cluster, .ok (some r)⟩] := by
    rw [← hanswer]
    rfl
  have hkept : (w.turn .fetch).scanner.scan = w.scanner.scan := by rw [hscanner]
  have hwalk : w.scanner.scan.walk (w.cluster.ahead w.scanner) =
      r :: w.scanner.scan.walk (w.cluster.ahead (w.turn .fetch).scanner) :=
    Cluster.walk_ahead_of_row hanswer
  obtain ⟨hawaits, hcells, hne⟩ :=
    hlog.mem_walk_ahead_iff.mp (hwalk ▸ List.mem_cons_self : r ∈ _)
  have hafter : ∀ key, (w.turn .fetch).scanner.Awaits key → compare r.row key = .lt := by
    intro key hkey
    rw [hscanner] at hkey
    exact Std.OrientedCmp.lt_of_gt (hkey r.row rfl)
  constructor
  case accounted => exact ⟨log, hlog⟩
  case scan => rw [hscanner, h.scan]
  case table => rw [hscanner, h.table]
  case failAfter => rw [hscanner, h.failAfter]
  case isOpen => rw [hscanner, h.isOpen]
  case delivered => rw [hscanner, hrows, List.length_append, h.delivered, List.length_singleton]
  case ended => rw [hscanner, ended_fetch, ← h.ended, hanswer]; simp
  case behind =>
    intro r' hr' key hkey
    rw [hrows, List.mem_append, List.mem_singleton] at hr'
    rcases hr' with hr' | rfl
    · exact Std.TransCmp.lt_trans (h.behind r' hr' r.row hawaits) (hafter key hkey)
    · exact hafter key hkey
  case ascending =>
    rw [hrows, List.pairwise_append]
    refine ⟨h.ascending, List.pairwise_singleton _ r, ?_⟩
    intro r' hr' r'' hr''
    rw [List.mem_singleton.mp hr'']
    exact h.behind r' hr' r.row hawaits
  case faithful =>
    intro f hf r' hr'
    rw [hfetches, List.mem_append, List.mem_singleton] at hf
    rcases hf with hf | rfl
    · exact h.faithful f hf r' hr'
    · cases hr'
      rw [← h.scan, ← h.table]
      exact ⟨hcells, hne⟩
  case complete =>
    intro key hall
    rw [hfetches] at hall
    have hnow : w.cluster.contentAt start.scan start.table key ≠ [] :=
      hall ⟨w.cluster, .ok (some r)⟩ (by simp)
    rw [hrows]
    rcases h.complete key fun f hf ↦ hall f (List.mem_append_left _ hf) with
      ⟨r', hr', hkey⟩ | ⟨-, hkey⟩
    · exact .inl ⟨r', List.mem_append_left _ hr', hkey⟩
    · -- The key is the one that is returned, or it comes after it.
      have hmem := h.mem_walk hkey hnow
      rw [hwalk] at hmem
      rcases List.mem_cons.mp hmem with hsame | hlater
      · exact .inl ⟨r, by simp, congrArg RowResult.row hsame.symm⟩
      · rw [← hkept] at hlater
        refine .inr ⟨?_, (hlog.mem_walk_ahead_iff.mp hlater).1⟩
        rw [hscanner]
        exact hmore

theorem turn (h : Sound start w) (t : Turn) : Sound start (w.turn t) := by
  cases t with
  | operation operation => exact h.operation operation
  | fetch =>
      cases hmore : w.scanner.exhausted with
      | true =>
          have hnext : w.cluster.next w.scanner = (.ok none, w.scanner) :=
            Cluster.next_of_exhausted hmore
          have hsame : w.scanner = { w.scanner with exhausted := true } := by rw [← hmore]
          refine h.fetch_none (hnext.trans (by rw [← hsame])) (by simp) (by simp [hmore]) ?_
          intro _ hnot
          rw [hmore] at hnot
          cases hnot
      | false =>
          have hsame : w.scanner = { w.scanner with exhausted := false } := by rw [← hmore]
          rcases w.cluster.next_cases h.isOpen hmore with
            ⟨-, hnext⟩ | ⟨-, ⟨r, hnext⟩ | ⟨hwalk, hnext⟩⟩
          · refine h.fetch_none (hnext.trans (by rw [← hsame])) (by simp) (by simp [hmore]) ?_
            intro hexhausted
            cases hexhausted
          · exact h.fetch_row hmore hnext
          · exact h.fetch_none hnext (by simp) (by simp) fun _ _ ↦ hwalk

theorem run (h : Sound start w) (turns : List Turn) : Sound start (w.run turns) := by
  induction turns generalizing w with
  | nil => exact h
  | cons t turns ih => exact ih (h.turn t)

theorem answer_of_ended (h : Sound start w) (hended : w.Ended) : w.answer = .ok none :=
  congrArg Prod.fst (Cluster.next_of_exhausted (h.ended.mpr hended))

theorem answer_eq_error_iff (h : Sound start w) {n : Nat} (hlimit : start.failAfter = some n)
    (hle : w.rows.length ≤ n) (e : StoreError) :
    w.answer = .error e ↔ e = Cluster.leaseExpired ∧ w.rows.length = n ∧ ¬w.Ended := by
  have hreached : w.scanner.failAfter.any (· ≤ w.scanner.delivered) ↔ w.rows.length = n := by
    rw [h.failAfter, hlimit, h.delivered, Option.any_some, decide_eq_true_iff]
    omega
  by_cases hended : w.Ended
  · rw [h.answer_of_ended hended]
    simp [hended]
  · have hmore : w.scanner.exhausted = false := by
      rw [← Bool.not_eq_true, h.ended]
      exact hended
    unfold answer
    rcases w.cluster.next_cases h.isOpen hmore with
      ⟨hlimited, hnext⟩ | ⟨hnot, ⟨r, hnext⟩ | ⟨-, hnext⟩⟩
    · rw [hreached] at hlimited
      rw [hnext]
      simp [hlimited, hended, eq_comm]
    · rw [hreached] at hnot
      rw [hnext]
      simp [hnot]
    · rw [hreached] at hnot
      rw [hnext]
      simp [hnot]

end Sound

/-! ## A limit -/

/-- A scanner with a limit and one without, after the same turns. Either they have done the same, or
the one with the limit has returned as many rows as it may and now fails. -/
structure Limited (n : Nat) (w v : Reading) : Prop where
  cluster : w.cluster = v.cluster
  unlimited : v.scanner.failAfter = none
  delivered_le : w.scanner.delivered ≤ n
  alike : w.scanner = { v.scanner with failAfter := some n } ∧ w.fetches = v.fetches ∨
    w.scanner.failAfter = some n ∧ w.scanner.exhausted = false ∧ w.scanner.delivered = n ∧
      w.rows <+: v.rows

namespace Limited

variable {n : Nat} {v : Reading}

theorem rows_eq (h : Limited n w v) (hw : Sound start w) : w.rows = v.rows.take n := by
  have hle : w.rows.length ≤ n := hw.delivered ▸ h.delivered_le
  rcases h.alike with ⟨-, hsame⟩ | ⟨-, -, hfull, hinitial⟩
  · have hrows : w.rows = v.rows := congrArg (List.filterMap Fetch.row?) hsame
    rw [← hrows, List.take_of_length_le hle]
  · have hlength : w.rows.length = n := hw.delivered ▸ hfull
    rw [← hlength]
    exact List.prefix_iff_eq_take.mp hinitial

/-- A call after the limit is reached: the scanner fails, whatever the other one does. -/
theorem fetch_of_full (h : Limited n w v) (hw : Sound start w)
    (hlimit : w.scanner.failAfter = some n) (hmore : w.scanner.exhausted = false)
    (hfull : w.scanner.delivered = n) (hinitial : w.rows <+: v.rows) :
    Limited n (w.turn .fetch) (v.turn .fetch) := by
  have hreached : w.scanner.failAfter.any (· ≤ w.scanner.delivered) := by
    rw [hlimit, hfull, Option.any_some, decide_eq_true_iff]
  have hnext := Cluster.next_of_limit (c := w.cluster) hw.isOpen hmore hreached
  have hscanner : (w.turn .fetch).scanner = w.scanner := congrArg Prod.snd hnext
  have hanswer : w.answer = .error Cluster.leaseExpired := congrArg Prod.fst hnext
  have hrows : (w.turn .fetch).rows = w.rows := rows_fetch_of_none (by simp [hanswer])
  constructor
  case cluster => exact h.cluster
  case unlimited => exact (Cluster.failAfter_next _ _).trans h.unlimited
  case delivered_le => rw [hscanner]; exact h.delivered_le
  case alike =>
    right
    rw [hscanner, hrows, rows_fetch]
    exact ⟨hlimit, hmore, hfull, hinitial.trans (List.prefix_append _ _)⟩

/-- Up to its limit a scanner answers as one without a limit. From there on it returns nothing more. -/
theorem fetch (h : Limited n w v) (hw : Sound start w) :
    Limited n (w.turn .fetch) (v.turn .fetch) := by
  rcases h.alike with ⟨hscanner, hfetches⟩ | ⟨hlimit, hmore, hfull, hinitial⟩
  · have hlimit : w.scanner.failAfter = some n := by rw [hscanner]
    by_cases hfull : w.scanner.exhausted = false ∧ w.scanner.delivered = n
    · have hrows : w.rows = v.rows := congrArg (List.filterMap Fetch.row?) hfetches
      exact h.fetch_of_full hw hlimit hfull.1 hfull.2 (hrows ▸ List.prefix_rfl)
    · have hroom : v.scanner.exhausted = true ∨ v.scanner.delivered < n := by
        have hle := h.delivered_le
        rw [hscanner] at hfull hle
        cases hexhausted : v.scanner.exhausted with
        | true => exact .inl rfl
        | false =>
            rw [hexhausted] at hfull
            exact .inr (Nat.lt_of_le_of_ne hle fun heq ↦ hfull ⟨rfl, heq⟩)
      have hnext : w.cluster.next w.scanner =
          ((v.cluster.next v.scanner).1,
            { (v.cluster.next v.scanner).2 with failAfter := some n }) := by
        rw [h.cluster, hscanner]
        exact Cluster.next_of_room h.unlimited hroom
      have hafter : (w.turn .fetch).scanner =
          { (v.turn .fetch).scanner with failAfter := some n } := congrArg Prod.snd hnext
      have hanswer : w.answer = v.answer := by rw [answer, hnext, answer]
      constructor
      case cluster => exact h.cluster
      case unlimited => exact (Cluster.failAfter_next _ _).trans h.unlimited
      case delivered_le =>
        rw [hafter]
        rcases hroom with hexhausted | hless
        · have hstays : (v.turn .fetch).scanner = v.scanner :=
            congrArg Prod.snd (Cluster.next_of_exhausted hexhausted)
          have hle := h.delivered_le
          rw [hscanner] at hle
          rw [hstays]
          exact hle
        · exact Nat.le_trans (v.cluster.delivered_next_le v.scanner) hless
      case alike =>
        left
        refine ⟨hafter, ?_⟩
        simp only [turn, hfetches, h.cluster, hanswer]
  · exact h.fetch_of_full hw hlimit hmore hfull hinitial

theorem turn (h : Limited n w v) (hw : Sound start w) (t : Turn) :
    Limited n (w.turn t) (v.turn t) := by
  cases t with
  | fetch => exact h.fetch hw
  | operation operation =>
      refine ⟨?_, h.unlimited, h.delivered_le, h.alike⟩
      exact congrArg (Cluster.perform · operation) h.cluster

theorem run (h : Limited n w v) (hw : Sound start w) (turns : List Turn) :
    Limited n (w.run turns) (v.run turns) := by
  induction turns generalizing w v with
  | nil => exact h
  | cons t turns ih => exact ih (h.turn hw t) (hw.turn t)

end Limited

end Reading

/-! ## A scanner from its opening on -/

namespace Cluster

variable {c : Cluster} {log : List LoggedWrite} {handle : TableHandle} {scan : Scan} {s : Scanner}

theorem openScanner_of_ok (hopened : (c.openScanner handle scan).result = .ok s) :
    s = { table := handle.name, scan, failAfter := c.faults.scans } := by
  unfold openScanner at hopened
  split at hopened
  · cases hopened
  · split at hopened
    · cases hopened
    · cases hopened
      rfl

theorem sound_of_opened (h : Reached c log) (handle : TableHandle) (scan : Scan)
    (failAfter : Option Nat) :
    Reading.Sound { table := handle.name, scan, failAfter }
      ⟨(c.openScanner handle scan).state, { table := handle.name, scan, failAfter }, []⟩ where
  accounted := ⟨log, h.accounted.quiet (c.quiet_openScanner handle scan)⟩
  scan := rfl
  table := rfl
  failAfter := rfl
  isOpen := rfl
  delivered := rfl
  ended := by simp [Reading.Ended]
  behind := by simp [Reading.rows]
  ascending := .nil
  faithful := by simp
  complete := fun key _ ↦ .inr ⟨rfl, fun last hlast ↦ by cases hlast⟩

/-- A scanner is asked for rows while anything is done to its cluster. The keys of the rows that it
returns ascend. Each row is what the scan is to return of its key at the moment of the call, and that
is not nothing. Once it has said that there are no more rows it only says so, and a key of which there
was something to return at every call has been returned once. Without a limit it does not fail. With
one it returns the first rows of those that it would return without, as many as the limit says, and
from then on it fails with the same error, unless it had come to the end. -/
theorem Reached.scan_interleaved (h : Reached c log) (handle : TableHandle) (scan : Scan)
    (hopened : (c.openScanner handle scan).result = .ok s) (turns : List Turn) {w v : Reading}
    (hw : Reading.run ⟨(c.openScanner handle scan).state, s, []⟩ turns = w)
    (hv : Reading.run ⟨(c.openScanner handle scan).state, { s with failAfter := none }, []⟩ turns = v) :
    w.rows.Pairwise (fun r r' ↦ compare r.row r'.row = .lt) ∧
      (∀ f ∈ w.fetches, ∀ r, f.answer = .ok (some r) →
        r.cells = f.cluster.contentAt scan handle.name r.row ∧ r.cells ≠ []) ∧
      (w.Ended → w.answer = .ok none ∧
        ∀ key, (∀ f ∈ w.fetches, f.cluster.contentAt scan handle.name key ≠ []) →
          ∃ r, w.rows.filter (fun r ↦ r.row = key) = [r]) ∧
      (c.faults.scans = none → ∀ e, w.answer ≠ .error e) ∧
      ∀ n, c.faults.scans = some n →
        w.rows = v.rows.take n ∧
          ∀ e, w.answer = .error e ↔ e = leaseExpired ∧ w.rows.length = n ∧ ¬w.Ended := by
  have hs := openScanner_of_ok hopened
  subst hs
  have hsound := (sound_of_opened h handle scan c.faults.scans).run turns
  rw [hw] at hsound
  refine ⟨hsound.ascending, hsound.faithful, ?_, ?_, ?_⟩
  · intro hended
    refine ⟨hsound.answer_of_ended hended, ?_⟩
    intro key hall
    rcases hsound.complete key hall with ⟨r, hr, hkey⟩ | ⟨hmore, -⟩
    · have hnodup : (w.rows.map RowResult.row).Nodup := by
        apply OrderedMap.nodup_of_ascending
        exact List.pairwise_map.mpr hsound.ascending
      exact ⟨r, filter_eq_singleton hnodup hr hkey⟩
    · rw [hsound.ended.mpr hended] at hmore
      cases hmore
  · intro hscans
    have hlimit : w.scanner.failAfter = none := hsound.failAfter.trans hscans
    exact next_ne_error hlimit
  · intro n hscans
    have hstart : Reading.Limited n
        ⟨(c.openScanner handle scan).state, { table := handle.name, scan, failAfter := some n }, []⟩
        ⟨(c.openScanner handle scan).state, { table := handle.name, scan, failAfter := none }, []⟩ :=
      ⟨rfl, rfl, Nat.zero_le n, .inl ⟨rfl, rfl⟩⟩
    have hlimited := hstart.run (sound_of_opened h handle scan (some n)) turns
    rw [← hscans, hw, hv] at hlimited
    have hrows := hlimited.rows_eq hsound
    have hle : w.rows.length ≤ n := by
      rw [hrows]
      exact List.length_take_le n v.rows
    exact ⟨hrows, hsound.answer_eq_error_iff hscans hle⟩

/-- Rows before the one that was returned first and after it, and that one anew. -/
def sampleRows : List Put :=
  [[97], [116], [114], [115]].map fun key ↦ ⟨key, [⟨[102], [], none, [1], []⟩]⟩

/-- A scanner on the sample table that is asked for four rows, with writes after the first one. -/
def sampleReading (failAfter : Option Nat) : Reading :=
  Reading.run ⟨((sample.change (.scans (some 2))).openScanner ⟨"t", 1⟩ {}).state,
    { table := "t", scan := {}, failAfter }, []⟩
    [.fetch, .operation (.put ⟨"t", 1⟩ 9 sampleRows), .fetch, .fetch, .fetch]

theorem rows_sampleReading :
    (sampleReading none).rows.map RowResult.row = [[114], [115], [116]] ∧
      (sampleReading (some 2)).rows = (sampleReading none).rows.take 2 ∧
      (sampleReading (some 2)).answer = .error leaseExpired ∧ ¬(sampleReading (some 2)).Ended := by
  have hreached : Reached (sample.change (.scans (some 2))) (sampleLog ++ []) :=
    reached_sample.perform (.change (.scans (some 2)))
  obtain ⟨-, -, -, -, hlimit⟩ :=
    hreached.scan_interleaved ⟨"t", 1⟩ {} rfl _ (w := sampleReading (some 2)) rfl rfl
  obtain ⟨hrows, hanswer⟩ := hlimit 2 rfl
  have herror : (sampleReading (some 2)).answer = .error leaseExpired := rfl
  exact ⟨by decide +kernel, hrows, herror, ((hanswer _).mp herror).2.2⟩

end Cluster

end ColumnStore
