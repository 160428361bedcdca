import ColumnStore.Proofs.Interleaving

/-!
# Raising the lower bound of a scan

The versions of a column descend in time, so the version that a scan picks does not depend on how far
back it may go, as long as it may go back to that version (`newestInRange_since`). A scan that goes back
less far returns what the other one returns, without the older cells (`Reached.drain_since`).
-/

namespace ColumnStore

/-- A row without its cells from before a time, unless nothing is left of it. -/
def RowResult.since (r : RowResult) (time : Timestamp) : Option RowResult :=
  Scan.keep r.row (r.cells.filter fun cell ↦ time ≤ cell.timestamp)

namespace Scan

/-- The same scan with the timestamps from a given one on. -/
def since (s : Scan) (time : Timestamp) : Scan :=
  { s with timeRange := .startingAt time }

variable {s : Scan} {a b : Timestamp}

theorem contains_since {t : Timestamp} :
    (s.since a).timeRange.contains t = true ↔ a ≤ t ∧ t < Int64.maxValue := by
  rw [TimeRange.contains, Bool.and_eq_true, decide_eq_true_eq, decide_eq_true_eq]
  rfl

theorem pick_since (hab : a ≤ b) {versions : List Cell}
    (h : Versions.Descending Cell.timestamp versions) :
    (s.since b).pick versions =
      ((s.since a).pick versions).filter fun cell ↦ b ≤ cell.timestamp := by
  induction versions with
  | nil => rfl
  | cons v vs ih =>
      obtain ⟨hv, hvs⟩ := List.pairwise_cons.mp h
      have hrest := ih hvs
      unfold pick at hrest ⊢
      by_cases hin : (s.since b).timeRange.contains v.timestamp = true
      · obtain ⟨hb, hmax⟩ := contains_since.mp hin
        have hin' : (s.since a).timeRange.contains v.timestamp = true :=
          contains_since.mpr ⟨Int64.le_trans hab hb, hmax⟩
        simp only [List.find?_cons, hin, hin', Option.filter_some, hb, decide_true, if_true]
      · rw [List.find?_cons_of_neg (by simpa using hin)]
        by_cases hin' : (s.since a).timeRange.contains v.timestamp = true
        · -- The newest version from `a` on is older than `b`, and so are all after it.
          obtain ⟨ha, hmax⟩ := contains_since.mp hin'
          have hb : ¬b ≤ v.timestamp := fun hb ↦ hin (contains_since.mpr ⟨hb, hmax⟩)
          simp only [List.find?_cons, hin', Option.filter_some, hb, decide_false]
          apply List.find?_eq_none.mpr
          intro w hw hwin
          apply hb
          exact Int64.le_trans (contains_since.mp hwin).1 (Int64.le_of_lt (hv w hw))
        · rw [List.find?_cons_of_neg (by simpa using hin'), hrest]

theorem newestInRange_since (hab : a ≤ b) {versions : List Cell}
    (h : Versions.Descending Cell.timestamp versions) :
    (s.since b).newestInRange versions =
      ((s.since a).newestInRange versions).filter fun cell ↦ b ≤ cell.timestamp := by
  rw [← pick_eq _ h, ← pick_eq _ h]
  exact pick_since hab h

theorem selected_since (hab : a ≤ b) {row : Row}
    (h : ∀ e ∈ row.entries, Versions.Descending Cell.timestamp e.2) :
    (s.since b).selected row =
      ((s.since a).selected row).filter fun cell ↦ b ≤ cell.timestamp := by
  unfold selected
  rw [List.filter_filterMap]
  apply List.filterMap_congr
  rintro ⟨column, versions⟩ he
  have hselects : ∀ time, (s.since time).selects column.family column.qualifier =
      s.selects column.family column.qualifier := fun _ ↦ rfl
  simp only [hselects]
  split
  · exact newestInRange_since hab (h _ he)
  · rfl

theorem returned_since (hfilter : s.filter = none) (hab : a ≤ b) {rows : OrderedMap Bytes Row}
    (h : ∀ e ∈ rows.entries, ∀ v ∈ e.2.entries, Versions.Descending Cell.timestamp v.2) :
    (s.since b).returned rows = ((s.since a).returned rows).filterMap (·.since b) := by
  have hfiltered : ∀ time cells, (s.since time).filtered cells = cells := by
    intro time cells
    simp [filtered, since, hfilter]
  unfold returned
  rw [List.filterMap_filterMap]
  apply List.filterMap_congr
  rintro ⟨key, row⟩ he
  simp only [hfiltered, selected_since hab (h _ he)]
  cases hcells : (s.since a).selected row with
  | nil => rfl
  | cons cell cells => rfl

end Scan

/-! ## Scanning to the end, or up to a limit -/

namespace Session

/-- The answers of a scanner that has some rows before it, up to the first that is no row. A limit says
after how many rows it fails. -/
def answers (limit : Option Nat) (rows : List RowResult) : List Fetched :=
  match limit with
  | none => rows.map (fun r ↦ .ok (some r)) ++ [.ok none]
  | some n =>
    if n ≤ rows.length then
      (rows.take n).map (fun r ↦ .ok (some r)) ++ [.error Cluster.leaseExpired]
    else rows.map (fun r ↦ .ok (some r)) ++ [.ok none]

theorem answers_zero (rows : List RowResult) :
    answers (some 0) rows = [.error Cluster.leaseExpired] := by
  simp [answers]

theorem answers_nil {limit : Option Nat} (h : limit ≠ some 0) : answers limit [] = [.ok none] := by
  cases limit with
  | none => rfl
  | some n =>
      have hn : ¬n ≤ 0 := fun hn ↦ h (congrArg some (Nat.le_zero.mp hn))
      simp [answers, hn]

theorem answers_cons {limit : Option Nat} (h : limit ≠ some 0) (r : RowResult)
    (rows : List RowResult) :
    answers limit (r :: rows) = .ok (some r) :: answers (limit.map (· - 1)) rows := by
  cases limit with
  | none => rfl
  | some n =>
      cases n with
      | zero => exact (h rfl).elim
      | succ n =>
          simp only [answers, List.length_cons, Nat.add_le_add_iff_right, Option.map_some,
            Nat.add_sub_cancel, List.take_succ_cons, List.map_cons]
          split <;> rfl

end Session

def Scanner.room (s : Scanner) : Option Nat :=
  s.failAfter.map (· - s.delivered)

theorem Scanner.room_eq_zero_iff {s : Scanner} :
    s.room = some 0 ↔ s.failAfter.any (· ≤ s.delivered) = true := by
  unfold room
  cases s.failAfter with
  | none => simp
  | some n => simp [Nat.sub_eq_zero_iff_le]

namespace Fetches

variable {c : Cluster} {s last : Scanner} {rows : List RowResult} {ending : Except StoreError Unit}

theorem answers_eq (h : Fetches c.next s rows ending last) (hopen : s.closed = false)
    (hmore : s.exhausted = false) :
    rows.map (fun r ↦ .ok (some r)) ++ [ending.map fun _ ↦ none] =
      Session.answers s.room (s.scan.walk (c.ahead s)) := by
  induction h with
  | done h =>
      rcases c.next_cases hopen hmore with ⟨-, hnext⟩ | ⟨hroom, ⟨r, hnext⟩ | ⟨hwalk, -⟩⟩
      · rw [hnext] at h
        cases h
      · rw [hnext] at h
        cases h
      · rw [← Scanner.room_eq_zero_iff] at hroom
        rw [hwalk, Session.answers_nil hroom]
        rfl
  | failed h =>
      rcases c.next_cases hopen hmore with ⟨hroom, hnext⟩ | ⟨-, ⟨r, hnext⟩ | ⟨-, hnext⟩⟩
      · rw [← Scanner.room_eq_zero_iff] at hroom
        rw [hroom, Session.answers_zero]
        rw [hnext] at h
        cases h
        rfl
      · rw [hnext] at h
        cases h
      · rw [hnext] at h
        cases h
  | @row s last r rows ending h rest ih =>
      have hroom : s.room ≠ some 0 := by
        intro hzero
        rw [Cluster.next_of_limit hopen hmore (Scanner.room_eq_zero_iff.mp hzero)] at h
        cases h
      have hnext := (Cluster.next_of_row h).2
      have hless : (c.next s).2.room = s.room.map (· - 1) := by
        rw [hnext, Scanner.room, Scanner.room, Option.map_map]
        rfl
      have hscan : (c.next s).2.scan = s.scan := by rw [hnext]
      have hrest := ih (by rw [hnext]; exact hopen) (by rw [hnext]; exact hmore)
      rw [Cluster.walk_ahead_of_row h, Session.answers_cons hroom, ← hless, ← hscan, ← hrest]
      rfl

end Fetches

namespace Cluster

variable {c : Cluster} {log : List LoggedWrite}

/-- A new scanner asked for rows to the end, while the rows of its table stay as they are. -/
theorem AccountedBy.drain_eq_answers (h : AccountedBy c log) (table : String) (scan : Scan)
    (failAfter : Option Nat) {d : Cluster} (hd : d.rows table = c.rows table) :
    (Session.drain d { table, scan, failAfter }).1 =
      Session.answers failAfter (scan.returned (c.rows table)) := by
  obtain ⟨rows, ending, last, hfetches⟩ := exists_fetches d { table, scan, failAfter : Scanner }
  have hroom : Scanner.room { table, scan, failAfter } = failAfter := by
    cases failAfter <;> rfl
  have hahead : d.ahead { table, scan, failAfter } = (c.rows table).entries := by
    rw [← hd]
    rfl
  have hanswers := Fetches.answers_eq hfetches rfl rfl
  rw [hroom, hahead, h.walk_eq] at hanswers
  rw [Fetches.drain_eq hfetches, hanswers]

theorem openScanner_since (c : Cluster) (handle : TableHandle) (scan : Scan) (time : Timestamp) :
    (c.openScanner handle (scan.since time)).result =
      (c.openScanner handle scan).result.map fun s ↦ { s with scan := scan.since time } := by
  have hfamilies : (scan.since time).families = scan.families := rfl
  unfold openScanner
  rw [hfamilies]
  cases c.table? handle.name with
  | error e => rfl
  | ok t =>
      dsimp only
      cases checkFamilies t.descriptor scan.families.keys with
      | error e => rfl
      | ok _ => rfl

/-- Of two scans that differ in their lower bound either none can be opened, for the same reason, or both
can. Without a filter the one with the greater bound returns to the end what the other one does, row by
row without the cells from before the bound and without the rows of which then nothing is left. Where
scanners are told to fail after some rows, each of them fails after so many of its own. -/
theorem Reached.drain_since (h : Reached c log) (handle : TableHandle) (scan : Scan)
    (hfilter : scan.filter = none) {a b : Timestamp} (hab : a ≤ b) :
    (∃ e, (c.openScanner handle (scan.since a)).result = .error e ∧
      (c.openScanner handle (scan.since b)).result = .error e) ∨
    ∃ s t, (c.openScanner handle (scan.since a)).result = .ok s ∧
      (c.openScanner handle (scan.since b)).result = .ok t ∧
      ∀ d : Cluster, d.rows handle.name = c.rows handle.name → ∃ rows,
        (Session.drain d s).1 = Session.answers c.faults.scans rows ∧
        (Session.drain d t).1 = Session.answers c.faults.scans (rows.filterMap (·.since b)) := by
  rw [openScanner_since, openScanner_since]
  cases hopened : (c.openScanner handle scan).result with
  | error e => exact .inl ⟨e, rfl, rfl⟩
  | ok s =>
      obtain rfl := openScanner_of_ok hopened
      refine .inr ⟨_, _, rfl, rfl, fun d hd ↦ ?_⟩
      have hdescending : ∀ e ∈ (c.rows handle.name).entries, ∀ v ∈ e.2.entries,
          Versions.Descending Cell.timestamp v.2 := by
        rintro ⟨key, row⟩ hrow ⟨column, versions⟩ hversions
        rw [← versions_of_mem hrow hversions]
        exact h.accounted.descending_versions handle.name key column
      refine ⟨(scan.since a).returned (c.rows handle.name), ?_, ?_⟩
      · exact h.accounted.drain_eq_answers handle.name (scan.since a) c.faults.scans hd
      · rw [← Scan.returned_since hfilter hab hdescending]
        exact h.accounted.drain_eq_answers handle.name (scan.since b) c.faults.scans hd

theorem drain_since_sample :
    ({} : Scan).filter = none ∧ (1 : Timestamp) ≤ 5 ∧
      (∃ s t, (sample.openScanner ⟨"t", 1⟩ (({} : Scan).since 1)).result = .ok s ∧
        (sample.openScanner ⟨"t", 1⟩ (({} : Scan).since 5)).result = .ok t ∧
        ∃ rows, (Session.drain sample s).1 = Session.answers none rows ∧
          (Session.drain sample t).1 = Session.answers none (rows.filterMap (·.since 5))) ∧
      ((({} : Scan).since 1).returned (sample.rows "t")).map
          (fun r ↦ (r.row, r.cells.map Cell.timestamp)) = [([114], [5, 1])] ∧
      ((({} : Scan).since 5).returned (sample.rows "t")).map
          (fun r ↦ (r.row, r.cells.map Cell.timestamp)) = [([114], [5])] := by
  have hab : (1 : Timestamp) ≤ 5 := by decide
  refine ⟨rfl, hab, ?_, rfl, rfl⟩
  rcases reached_sample.drain_since ⟨"t", 1⟩ {} rfl hab with ⟨e, he, -⟩ |
    ⟨s, t, hs, ht, hdrain⟩
  · cases he
  · exact ⟨s, t, hs, ht, hdrain sample rfl⟩

end Cluster

end ColumnStore
