import ColumnStore.Proofs.Commits

/-!
# What a progress counts

The progress of a feed counts the rows that were accepted and the records that were left out, whatever
the inner handler does with what it is given (`Feed.Tallied`). What it marks is decided by which
identities were accepted (`ScanProgress.Marks.congr`), so neither their order nor the rows that they came
in matter.
-/

namespace ColumnStore

namespace RowHandler

variable {η : Type}

theorem accepted_append (handler : RowHandler η) (h : η) (calls calls' : List (Bytes × List CellRecord)) :
    handler.accepted h (calls ++ calls') =
      handler.accepted h calls ++ handler.accepted (handler.after h calls) calls' := by
  induction calls generalizing h with
  | nil => rfl
  | cons call calls ih =>
      rw [List.cons_append, accepted, accepted, after_cons]
      rcases handler h call.1 call.2 with ⟨_ | _, h₁⟩
      · exact ih h₁
      · exact congrArg (call :: ·) (ih h₁)

end RowHandler

namespace IncrementalScan

/-! ## Records that are left out -/

/-- A record was delivered before, at the time where the state stands. -/
def repeats (s : IncrementalScan) (r : CellRecord) : Bool :=
  r.timestamp = s.minTime && s.hasSeen (.ofRecord r)

theorem fresh_eq_filter_repeats (s : IncrementalScan) (records : List CellRecord) :
    s.fresh records = records.filter (!s.repeats ·) := by
  rw [fresh_eq]
  apply List.filter_congr
  intro r _
  simp [repeats]

theorem length_sub_length_fresh (s : IncrementalScan) (records : List CellRecord) :
    records.length - (s.fresh records).length = records.countP s.repeats := by
  have hsplit := List.length_eq_countP_add_countP s.repeats (l := records)
  have hfresh : (s.fresh records).length = records.countP (!s.repeats ·) := by
    rw [fresh_eq_filter_repeats, List.countP_eq_length_filter]
  have hnot : records.countP (!s.repeats ·) = records.countP (fun r ↦ ¬s.repeats r) := by
    apply List.countP_congr
    intro r _
    simp
  omega

theorem freshCalls_cons (s : IncrementalScan) (call : Bytes × List CellRecord)
    (calls : List (Bytes × List CellRecord)) :
    s.freshCalls (call :: calls) = s.freshCalls [call] ++ s.freshCalls calls := by
  simp only [freshCalls, List.map_cons, List.map_nil, ← List.filter_append, List.singleton_append]

end IncrementalScan

/-! ## One call and a whole feed -/

namespace ScanProgress

@[simp] theorem rows_record (p : ScanProgress) (r : CellRecord) : (p.record r).rows = p.rows := by
  unfold record
  repeat' split
  all_goals rfl

@[simp] theorem suppressed_record (p : ScanProgress) (r : CellRecord) :
    (p.record r).suppressed = p.suppressed := by
  unfold record
  repeat' split
  all_goals rfl

theorem counts_recordRow (p : ScanProgress) (records : List CellRecord) :
    (p.recordRow records).rows = p.rows + 1 ∧ (p.recordRow records).suppressed = p.suppressed := by
  have hfold : (records.foldl record p).rows = p.rows ∧
      (records.foldl record p).suppressed = p.suppressed := by
    induction records generalizing p with
    | nil => exact ⟨rfl, rfl⟩
    | cons r records ih => simpa using ih (p.record r)
  exact ⟨congrArg (· + 1) hfold.1, hfold.2⟩

end ScanProgress

namespace IncrementalScan

variable {η : Type}

/-- What one call does: the inner handler is given what is left of the row, unless nothing is, and the
progress counts what was left out, and one row more if it was accepted. -/
theorem handler_call (s : IncrementalScan) (inner : RowHandler η) (h₀ : η) (p : ScanProgress)
    (call : Bytes × List CellRecord) :
    ∃ q : ScanProgress,
      (s.handler inner (h₀, p) call.1 call.2).2 = (inner.after h₀ (s.freshCalls [call]), q) ∧
      q.rows = p.rows + (inner.accepted h₀ (s.freshCalls [call])).length ∧
      q.suppressed = p.suppressed + call.2.countP s.repeats := by
  obtain ⟨row, records⟩ := call
  simp only [handler, length_sub_length_fresh]
  by_cases hempty : (s.fresh records).isEmpty
  · have hcalls : s.freshCalls [(row, records)] = [] := by simp [freshCalls, hempty]
    rw [hcalls, if_pos hempty]
    exact ⟨_, rfl, rfl, rfl⟩
  · have hcalls : s.freshCalls [(row, records)] = [(row, s.fresh records)] := by
      simp [freshCalls, hempty]
    rw [hcalls, if_neg hempty, RowHandler.after_cons, RowHandler.after_nil, RowHandler.accepted]
    rcases inner h₀ row (s.fresh records) with ⟨reason | _, h₁⟩
    · exact ⟨_, rfl, rfl, rfl⟩
    · obtain ⟨hrows, hsuppressed⟩ := ScanProgress.counts_recordRow
        { p with suppressed := p.suppressed + records.countP s.repeats } (s.fresh records)
      exact ⟨_, rfl, hrows, hsuppressed⟩

theorem after_handler_counts (s : IncrementalScan) (inner : RowHandler η) (h₀ : η) (p : ScanProgress)
    (calls : List (Bytes × List CellRecord)) :
    ((s.handler inner).after (h₀, p) calls).2.rows =
        p.rows + (inner.accepted h₀ (s.freshCalls calls)).length ∧
      ((s.handler inner).after (h₀, p) calls).2.suppressed =
        p.suppressed + (calls.flatMap Prod.snd).countP s.repeats := by
  -- The inner handler and the progress go from one call to the next, so both are generalized.
  induction calls generalizing h₀ p with
  | nil => exact ⟨rfl, rfl⟩
  | cons call calls ih =>
      obtain ⟨q, hstep, hrows, hsuppressed⟩ := s.handler_call inner h₀ p call
      obtain ⟨hrows', hsuppressed'⟩ := ih (inner.after h₀ (s.freshCalls [call])) q
      rw [RowHandler.after_cons, hstep]
      constructor
      · rw [hrows', hrows, s.freshCalls_cons call calls, inner.accepted_append, List.length_append, Nat.add_assoc]
      · rw [hsuppressed', hsuppressed, List.flatMap_cons, List.countP_append, Nat.add_assoc]

end IncrementalScan

/-! ## What is marked -/

namespace ScanProgress.Marks

variable {p q : ScanProgress} {records records' : List CellRecord}

theorem maxTimestamp_eq_none_iff (h : p.Marks records) : p.maxTimestamp = none ↔ records = [] := by
  constructor
  · exact h.empty
  · intro hnil
    cases hmax : p.maxTimestamp with
    | none => rfl
    | some t =>
        obtain ⟨-, r, hr, -⟩ := h.greatest t hmax
        rw [hnil] at hr
        cases hr

theorem maxTimestamp_eq_some_iff (h : p.Marks records) (t : Timestamp) :
    p.maxTimestamp = some t ↔
      (∃ r ∈ records, r.timestamp = t) ∧ ∀ r ∈ records, r.timestamp ≤ t := by
  constructor
  · intro hmax
    obtain ⟨hupper, hattained⟩ := h.greatest t hmax
    exact ⟨hattained, hupper⟩
  · rintro ⟨⟨r, hr, hrt⟩, hupper⟩
    cases hmax : p.maxTimestamp with
    | none =>
        rw [h.empty hmax] at hr
        cases hr
    | some u =>
        obtain ⟨hupper', x, hx, hxu⟩ := h.greatest u hmax
        exact congrArg some (Int64.le_antisymm (hxu ▸ hupper x hx) (hrt ▸ hupper' r hr))

theorem contains_atMax_iff (h : p.Marks records) (id : CellId) :
    p.atMax.contains id ↔
      id ∈ records.map CellId.ofRecord ∧ p.maxTimestamp = some id.timestamp := by
  rw [h.atMax, List.mem_map]
  constructor
  · rintro ⟨r, hr, hmax, rfl⟩
    exact ⟨⟨r, hr, rfl⟩, hmax⟩
  · rintro ⟨⟨r, hr, rfl⟩, hmax⟩
    exact ⟨r, hr, hmax, rfl⟩

/-- What is marked is decided by which identities there are. -/
theorem congr (h : p.Marks records) (h' : q.Marks records')
    (hsame : ∀ id, id ∈ records.map CellId.ofRecord ↔ id ∈ records'.map CellId.ofRecord) :
    p.maxTimestamp = q.maxTimestamp ∧ p.atMax = q.atMax := by
  have hmax : p.maxTimestamp = q.maxTimestamp := by
    apply Option.ext
    intro t
    -- An identity has its time in it, so the greatest time is a matter of the identities as well.
    have hids : ∀ rs : List CellRecord, ((∃ r ∈ rs, r.timestamp = t) ∧ ∀ r ∈ rs, r.timestamp ≤ t) ↔
        (∃ id ∈ rs.map CellId.ofRecord, id.timestamp = t) ∧
          ∀ id ∈ rs.map CellId.ofRecord, id.timestamp ≤ t := by
      intro rs
      simp [CellId.ofRecord]
    rw [h.maxTimestamp_eq_some_iff, h'.maxTimestamp_eq_some_iff, hids, hids]
    simp only [hsame]
  refine ⟨hmax, OrderedSet.ext_contains fun id ↦ ?_⟩
  rw [h.contains_atMax_iff, h'.contains_atMax_iff, hsame, hmax]

end ScanProgress.Marks

/-! ## Every state and every feed -/

namespace IncrementalScan

/-- A state is new, or a progress was committed in it: one of a feed through a handler of this or of any
other state. -/
inductive Reachable : IncrementalScan → Prop
  | new (minTime : Timestamp) : Reachable { minTime }
  | commit {s : IncrementalScan} (h : Reachable s) (round : Round) :
    Reachable (s.commit round.progress)

/-- All that a state has seen has the time where it stands. -/
theorem Reachable.timestamp_eq {s : IncrementalScan} (h : s.Reachable) {id : CellId}
    (hid : s.hasSeen id) : id.timestamp = s.minTime := by
  induction h generalizing id with
  | new minTime =>
      rw [hasSeen, OrderedMap.contains, OrderedMap.get?_empty] at hid
      cases hid
  | @commit s _ round ih =>
      obtain ⟨u, hu, htime, hseen⟩ := (((Joins.singleton s).commit round.progress).seen id).mp hid
      rw [← htime]
      rcases List.mem_append.mp hu with hu | hu
      · rw [List.mem_singleton.mp hu] at hseen ⊢
        exact ih hseen
      · obtain ⟨hremembers, -⟩ := round.marks.of_standing? (Option.mem_toList.mp hu)
        exact hremembers.timestamp_eq hseen

end IncrementalScan

namespace Feed

def upTo (f : Feed) (k : Nat) : Feed :=
  { f with rows := f.rows.take k }

def acceptedCalls (f : Feed) (s : IncrementalScan) : List (Bytes × List CellRecord) :=
  f.inner.accepted f.start (f.passed s)

theorem counts (f : Feed) (s : IncrementalScan) :
    (f.progress s).rows = (f.acceptedCalls s).length ∧
      (f.progress s).suppressed = (f.rows.flatMap Prod.snd).countP s.repeats := by
  have hcounts := s.after_handler_counts f.inner.noted (f.start, []) {} f.rows
  rw [RowHandler.accepted_noted, ← (f.outcome_eq s).1, Nat.zero_add, Nat.zero_add] at hcounts
  exact hcounts

/-- The progress of a feed counts what was accepted and what was left out, and marks the greatest time of
what was accepted with what has this time. -/
structure Tallied (f : Feed) (s : IncrementalScan) : Prop where
  rows : (f.progress s).rows = (f.acceptedCalls s).length
  suppressed : (f.progress s).suppressed =
    (f.rows.flatMap Prod.snd).countP fun r ↦ s.hasSeen (.ofRecord r)
  absent : (f.progress s).maxTimestamp = none ↔ f.accepted s = []
  greatest : ∀ t, (f.progress s).maxTimestamp = some t ↔
    (∃ r ∈ f.accepted s, r.timestamp = t) ∧
      ∀ r ∈ f.accepted s, r.timestamp ≤ t
  atMax : ∀ id, (f.progress s).atMax.contains id ↔
    ∃ r ∈ f.accepted s,
      (f.progress s).maxTimestamp = some r.timestamp ∧ id = CellId.ofRecord r

theorem tallied {s : IncrementalScan} (f : Feed) (h : s.Reachable) : f.Tallied s where
  rows := (f.counts s).1
  suppressed := by
    rw [(f.counts s).2]
    apply List.countP_congr
    intro r _
    rw [IncrementalScan.repeats, Bool.and_eq_true, decide_eq_true_iff]
    exact ⟨And.right, fun hseen ↦ ⟨h.timestamp_eq hseen, hseen⟩⟩
  absent := (f.outcome_eq s).2.maxTimestamp_eq_none_iff
  greatest := (f.outcome_eq s).2.maxTimestamp_eq_some_iff
  atMax := (f.outcome_eq s).2.atMax

end Feed

/-- At every point of a feed the progress tells what has become of the rows up to there. The greatest time
and what is marked with it are the same for all feeds in which the same was accepted, in whatever order and
in whatever rows. What a state has seen is at the time where it stands. -/
theorem IncrementalScan.Reachable.progress_tallied {s : IncrementalScan} (h : s.Reachable) (f : Feed) :
    (∀ k, (f.upTo k).Tallied s) ∧
    (∀ id, s.hasSeen id → id.timestamp = s.minTime) ∧
    ∀ (t : IncrementalScan) (g : Feed) (k l : Nat),
      (∀ id, id ∈ ((f.upTo k).accepted s).map CellId.ofRecord ↔
        id ∈ ((g.upTo l).accepted t).map CellId.ofRecord) →
      ((f.upTo k).progress s).maxTimestamp = ((g.upTo l).progress t).maxTimestamp ∧
        ((f.upTo k).progress s).atMax = ((g.upTo l).progress t).atMax := by
  refine ⟨fun k ↦ (f.upTo k).tallied h, fun id ↦ h.timestamp_eq, fun t g k l hsame ↦ ?_⟩
  exact ((f.upTo k).outcome_eq s).2.congr ((g.upTo l).outcome_eq t).2 hsame

namespace IncrementalScan

/-- A state that has seen two records at its time. -/
def sampleState : IncrementalScan :=
  commit { minTime := 2 } (Round.progress ⟨Ledger.sampleFeed, { minTime := 2 }⟩)

/-- What `Ledger.sampleRepeat` delivers, in other rows and once more. -/
def sampleRegrouped : Feed :=
  ⟨Nat, Ledger.sampleInner, 0, [([97], [Ledger.sampleRecord 97 6 4]),
    ([97], [Ledger.sampleRecord 97 5 2, Ledger.sampleRecord 97 6 4])], true⟩

theorem reachable_sampleState : sampleState.Reachable :=
  .commit (.new 2) _

theorem tallied_sampleRepeat :
    (((Ledger.sampleRepeat true).upTo 4).progress sampleState).rows = 1 ∧
      (((Ledger.sampleRepeat true).upTo 4).progress sampleState).suppressed = 3 ∧
      (∀ id, id ∈ (((Ledger.sampleRepeat true).upTo 4).accepted sampleState).map CellId.ofRecord ↔
        id ∈ ((sampleRegrouped.upTo 2).accepted sampleState).map CellId.ofRecord) ∧
      (((Ledger.sampleRepeat true).upTo 4).progress sampleState).atMax =
        ((sampleRegrouped.upTo 2).progress sampleState).atMax := by
  obtain ⟨htallied, -, hsame⟩ := reachable_sampleState.progress_tallied (Ledger.sampleRepeat true)
  have hids : ∀ id,
      id ∈ (((Ledger.sampleRepeat true).upTo 4).accepted sampleState).map CellId.ofRecord ↔
        id ∈ ((sampleRegrouped.upTo 2).accepted sampleState).map CellId.ofRecord := by
    have hrepeat : ((Ledger.sampleRepeat true).upTo 4).accepted sampleState =
        [Ledger.sampleRecord 97 6 4] := rfl
    have hregrouped : (sampleRegrouped.upTo 2).accepted sampleState =
        [Ledger.sampleRecord 97 6 4, Ledger.sampleRecord 97 6 4] := rfl
    rw [hrepeat, hregrouped]
    simp
  exact ⟨(htallied 4).rows.trans rfl, (htallied 4).suppressed.trans rfl, hids,
    (hsame sampleState sampleRegrouped 4 2 hids).2⟩

end IncrementalScan

end ColumnStore
