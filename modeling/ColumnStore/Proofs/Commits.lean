import ColumnStore.Proofs.Deduplication

/-!
# Commits in any order

The state that a commit leads to is the join of the one before and the one that the progress stands for:
it is at the later of both times, and has seen what was seen of just that time. What states join to is
decided by which states they are (`Joins.congr`), so commits can be exchanged and repeated.
-/

namespace ColumnStore

/-- Where a state that has only this progress would stand, if anything was delivered. -/
def ScanProgress.standing? (p : ScanProgress) : Option IncrementalScan :=
  p.maxTimestamp.map fun greatest ↦ { minTime := greatest, boundary := p.atMax }

namespace IncrementalScan

def join (s t : IncrementalScan) : IncrementalScan :=
  if s.minTime < t.minTime then t
  else if t.minTime = s.minTime then { s with boundary := s.boundary.union t.boundary }
  else s

def commitAll (s : IncrementalScan) (ps : List ScanProgress) : IncrementalScan :=
  ps.foldl commit s

/-- A state is at the latest time of some states, and has seen what those of that time have seen. -/
structure Joins (states : List IncrementalScan) (t : IncrementalScan) : Prop where
  attained : ∃ s ∈ states, s.minTime = t.minTime
  upper : ∀ s ∈ states, s.minTime ≤ t.minTime
  seen : ∀ id, t.hasSeen id ↔ ∃ s ∈ states, s.minTime = t.minTime ∧ s.hasSeen id

variable {s t u : IncrementalScan} {states states' : List IncrementalScan} {ps qs : List ScanProgress}

theorem commit_eq (s : IncrementalScan) (p : ScanProgress) :
    s.commit p = p.standing?.elim s s.join := by
  unfold commit ScanProgress.standing?
  cases p.maxTimestamp with
  | none => rfl
  | some greatest => rfl

theorem commit_of_standing? {p : ScanProgress} (h : p.standing? = some t) :
    s.commit p = s.join t := by
  rw [commit_eq, h, Option.elim_some]

theorem commit_of_standing?_none {p : ScanProgress} (h : p.standing? = none) : s.commit p = s := by
  rw [commit_eq, h, Option.elim_none]

/-! ## Joins -/

namespace Joins

theorem singleton (s : IncrementalScan) : Joins [s] s where
  attained := ⟨s, List.mem_singleton_self s, rfl⟩
  upper := by
    intro u hu
    rw [List.mem_singleton.mp hu]
    exact Int64.le_rfl
  seen := by simp

/-- A later state has nothing to do with those before. -/
theorem concat_of_lt (h : Joins states t) (hlt : t.minTime < u.minTime) : Joins (states ++ [u]) u where
  attained := ⟨u, by simp, rfl⟩
  upper := by
    intro s hs
    rcases List.mem_append.mp hs with hs | hs
    · exact Int64.le_trans (h.upper s hs) (Int64.le_of_lt hlt)
    · rw [List.mem_singleton.mp hs]
      exact Int64.le_rfl
  seen := by
    intro id
    constructor
    · intro hid
      exact ⟨u, by simp, rfl, hid⟩
    · rintro ⟨s, hs, htime, hid⟩
      rcases List.mem_append.mp hs with hs | hs
      · have hlt' : s.minTime < u.minTime := Int64.lt_of_le_of_lt (h.upper s hs) hlt
        exact absurd htime (Int64.ne_of_lt hlt')
      · rwa [List.mem_singleton.mp hs] at hid

theorem concat_of_eq (h : Joins states t) (heq : u.minTime = t.minTime) :
    Joins (states ++ [u]) { t with boundary := t.boundary.union u.boundary } where
  attained := by
    obtain ⟨s, hs, htime⟩ := h.attained
    exact ⟨s, List.mem_append_left [u] hs, htime⟩
  upper := by
    intro s hs
    rcases List.mem_append.mp hs with hs | hs
    · exact h.upper s hs
    · rw [List.mem_singleton.mp hs, heq]
      exact Int64.le_rfl
  seen := by
    intro id
    have hbefore : t.boundary.contains id ↔ ∃ s ∈ states, s.minTime = t.minTime ∧ s.hasSeen id :=
      h.seen id
    rw [hasSeen, OrderedSet.contains_union, hbefore]
    constructor
    · rintro (hid | ⟨s, hs, hseen⟩)
      · exact ⟨u, by simp, heq, hid⟩
      · exact ⟨s, List.mem_append_left [u] hs, hseen⟩
    · rintro ⟨s, hs, htime, hid⟩
      rcases List.mem_append.mp hs with hs | hs
      · exact .inr ⟨s, hs, htime, hid⟩
      · rw [List.mem_singleton.mp hs] at hid
        exact .inl hid

/-- An earlier state adds nothing. -/
theorem concat_of_gt (h : Joins states t) (hlt : u.minTime < t.minTime) : Joins (states ++ [u]) t where
  attained := by
    obtain ⟨s, hs, htime⟩ := h.attained
    exact ⟨s, List.mem_append_left [u] hs, htime⟩
  upper := by
    intro s hs
    rcases List.mem_append.mp hs with hs | hs
    · exact h.upper s hs
    · rw [List.mem_singleton.mp hs]
      exact Int64.le_of_lt hlt
  seen := by
    intro id
    rw [h.seen id]
    constructor
    · rintro ⟨s, hs, hseen⟩
      exact ⟨s, List.mem_append_left [u] hs, hseen⟩
    · rintro ⟨s, hs, htime, hid⟩
      rcases List.mem_append.mp hs with hs | hs
      · exact ⟨s, hs, htime, hid⟩
      · rw [List.mem_singleton.mp hs] at htime
        exact absurd htime (Int64.ne_of_lt hlt)

/-- One more state is joined with what the others join to. -/
theorem concat (h : Joins states t) (u : IncrementalScan) : Joins (states ++ [u]) (t.join u) := by
  unfold join
  split
  · next hlt => exact h.concat_of_lt hlt
  · next hnot =>
    split
    · next heq => exact h.concat_of_eq heq
    · next hne => exact h.concat_of_gt (Int64.lt_of_le_of_ne (Int64.not_lt.mp hnot) hne)

theorem commit (h : Joins states t) (p : ScanProgress) :
    Joins (states ++ p.standing?.toList) (t.commit p) := by
  cases hstanding : p.standing? with
  | none =>
      rw [commit_of_standing?_none hstanding, Option.toList_none, List.append_nil]
      exact h
  | some u =>
      rw [commit_of_standing? hstanding]
      exact h.concat u

theorem commitAll (h : Joins states t) (ps : List ScanProgress) :
    Joins (states ++ ps.filterMap ScanProgress.standing?) (t.commitAll ps) := by
  induction ps generalizing states t with
  | nil =>
      rw [List.filterMap_nil, List.append_nil]
      exact h
  | cons p ps ih =>
      have hps := ih (h.commit p)
      have hcons : (p :: ps).filterMap ScanProgress.standing? =
          p.standing?.toList ++ ps.filterMap ScanProgress.standing? := by
        cases hstanding : p.standing? <;> simp [hstanding]
      rw [hcons, ← List.append_assoc]
      exact hps

/-- What states join to does not depend on how often and in which order they are listed. -/
theorem congr (h : Joins states t) (h' : Joins states' u) (hsame : ∀ s, s ∈ states ↔ s ∈ states') :
    t = u := by
  have htime : t.minTime = u.minTime := by
    obtain ⟨s, hs, hst⟩ := h.attained
    obtain ⟨s', hs', hsu⟩ := h'.attained
    apply Int64.le_antisymm
    · rw [← hst]
      exact h'.upper s ((hsame s).mp hs)
    · rw [← hsu]
      exact h.upper s' ((hsame s').mpr hs')
  have hseen : ∀ id, t.hasSeen id ↔ u.hasSeen id := by
    intro id
    rw [h.seen, h'.seen, htime]
    simp only [hsame]
  have hboundary : t.boundary = u.boundary := OrderedSet.ext_contains hseen
  cases t
  cases u
  cases htime
  cases hboundary
  rfl

end Joins

/-- Commits lead from a state to what it joins to with the states that the progresses stand for. -/
theorem joins_commitAll (s : IncrementalScan) (ps : List ScanProgress) :
    Joins (s :: ps.filterMap ScanProgress.standing?) (s.commitAll ps) :=
  (Joins.singleton s).commitAll ps

/-- It does not matter in which order and how often progresses are committed. -/
theorem commitAll_congr (s : IncrementalScan) (h : ∀ p, p ∈ ps ↔ p ∈ qs) :
    s.commitAll ps = s.commitAll qs := by
  refine (s.joins_commitAll ps).congr (s.joins_commitAll qs) fun t ↦ ?_
  simp only [List.mem_cons, List.mem_filterMap, h]

theorem minTime_le_commitAll (s : IncrementalScan) (ps : List ScanProgress) :
    s.minTime ≤ (s.commitAll ps).minTime :=
  (s.joins_commitAll ps).upper s List.mem_cons_self

end IncrementalScan

/-! ## What was delivered -/

theorem ScanProgress.Marks.of_standing? {p : ScanProgress} {records : List CellRecord}
    (h : p.Marks records) {t : IncrementalScan} (ht : p.standing? = some t) :
    t.Remembers records ∧ ∃ r ∈ records, r.timestamp = t.minTime := by
  obtain ⟨greatest, hmax, rfl⟩ := Option.map_eq_some_iff.mp ht
  obtain ⟨hupper, hattained⟩ := h.greatest greatest hmax
  exact ⟨⟨hupper, h.contains_atMax hmax⟩, hattained⟩

theorem ScanProgress.Marks.exists_standing? {p : ScanProgress} {records : List CellRecord}
    (h : p.Marks records) {r : CellRecord} (hr : r ∈ records) : ∃ t, p.standing? = some t := by
  cases hmax : p.maxTimestamp with
  | none =>
      rw [h.empty hmax] at hr
      cases hr
  | some greatest => exact ⟨_, by rw [ScanProgress.standing?, hmax, Option.map_some]⟩

/-- A feed through a handler of some state. -/
structure Round : Type 1 where
  feed : Feed
  state : IncrementalScan

namespace Round

def progress (r : Round) : ScanProgress :=
  r.feed.progress r.state

def accepted (r : Round) : List CellRecord :=
  r.feed.accepted r.state

theorem marks (r : Round) : r.progress.Marks r.accepted :=
  (r.feed.outcome_eq r.state).2

/-- Where the rounds would stand that delivered anything. -/
def standings (rounds : List Round) : List IncrementalScan :=
  (rounds.map progress).filterMap ScanProgress.standing?

variable {rounds : List Round} {u : IncrementalScan}

theorem of_mem_standings (h : u ∈ standings rounds) :
    ∃ round ∈ rounds, u.Remembers round.accepted ∧ ∃ r ∈ round.accepted, r.timestamp = u.minTime := by
  obtain ⟨_, hp, hstanding⟩ := List.mem_filterMap.mp h
  obtain ⟨round, hround, rfl⟩ := List.mem_map.mp hp
  exact ⟨round, hround, round.marks.of_standing? hstanding⟩

theorem exists_standing {r : CellRecord} (h : r ∈ rounds.flatMap accepted) :
    ∃ u ∈ standings rounds, r.timestamp ≤ u.minTime ∧
      (r.timestamp = u.minTime → u.hasSeen (.ofRecord r)) := by
  obtain ⟨round, hround, hr⟩ := List.mem_flatMap.mp h
  obtain ⟨u, hu⟩ := round.marks.exists_standing? hr
  obtain ⟨hremembers, -⟩ := round.marks.of_standing? hu
  refine ⟨u, List.mem_filterMap.mpr ⟨_, List.mem_map_of_mem hround, hu⟩, hremembers.upper r hr, ?_⟩
  intro htime
  exact (hremembers.seen _).mpr ⟨r, hr, htime, rfl⟩

end Round

namespace IncrementalScan

/-- A state is at the latest of the time where another one was and the times of some records, and has seen
just those of the records, and of what the other one has seen, that have this time. -/
structure GoesOn (s : IncrementalScan) (records : List CellRecord) (t : IncrementalScan) : Prop where
  attained : t.minTime = s.minTime ∨ ∃ r ∈ records, r.timestamp = t.minTime
  start_le : s.minTime ≤ t.minTime
  upper : ∀ r ∈ records, r.timestamp ≤ t.minTime
  seen : ∀ id, t.hasSeen id ↔ t.minTime = s.minTime ∧ s.hasSeen id ∨
    ∃ r ∈ records, r.timestamp = t.minTime ∧ id = CellId.ofRecord r

theorem goesOn_commitAll (s : IncrementalScan) (rounds : List Round) :
    s.GoesOn (rounds.flatMap Round.accepted) (s.commitAll (rounds.map Round.progress)) := by
  have hjoins : Joins (s :: Round.standings rounds) (s.commitAll (rounds.map Round.progress)) :=
    s.joins_commitAll (rounds.map Round.progress)
  generalize s.commitAll (rounds.map Round.progress) = t at hjoins
  constructor
  case attained =>
    obtain ⟨u, hu, htime⟩ := hjoins.attained
    rcases List.mem_cons.mp hu with rfl | hu
    · exact .inl htime.symm
    · obtain ⟨round, hround, -, r, hr, hrt⟩ := Round.of_mem_standings hu
      exact .inr ⟨r, List.mem_flatMap.mpr ⟨round, hround, hr⟩, hrt.trans htime⟩
  case start_le => exact hjoins.upper s List.mem_cons_self
  case upper =>
    intro r hr
    obtain ⟨u, hu, hle, -⟩ := Round.exists_standing hr
    exact Int64.le_trans hle (hjoins.upper u (List.mem_cons_of_mem s hu))
  case seen =>
    intro id
    rw [hjoins.seen id]
    constructor
    · rintro ⟨u, hu, htime, hid⟩
      rcases List.mem_cons.mp hu with rfl | hu
      · exact .inl ⟨htime.symm, hid⟩
      · obtain ⟨round, hround, hremembers, -⟩ := Round.of_mem_standings hu
        obtain ⟨r, hr, hrt, hrid⟩ := (hremembers.seen id).mp hid
        exact .inr ⟨r, List.mem_flatMap.mpr ⟨round, hround, hr⟩, hrt.trans htime, hrid⟩
    · rintro (⟨htime, hid⟩ | ⟨r, hr, hrt, rfl⟩)
      · exact ⟨s, List.mem_cons_self, htime.symm, hid⟩
      · obtain ⟨u, hu, hle, hseen⟩ := Round.exists_standing hr
        have hupper : u.minTime ≤ t.minTime := hjoins.upper u (List.mem_cons_of_mem s hu)
        have htime : u.minTime = t.minTime := Int64.le_antisymm hupper (hrt ▸ hle)
        exact ⟨u, List.mem_cons_of_mem s hu, htime, hseen (hrt.trans htime.symm)⟩

/-- Commits can be exchanged and repeated, and never move a state back. Many commits lead to a state that
is decided by which progresses they are of, and nothing is lost of what was delivered at its time. -/
theorem commit_joins (s : IncrementalScan) :
    (∀ p q, (s.commit p).commit q = (s.commit q).commit p) ∧
    (∀ p, (s.commit p).commit p = s.commit p) ∧
    (∀ p, s.minTime ≤ (s.commit p).minTime) ∧
    (∀ ps qs, (∀ p, p ∈ ps ↔ p ∈ qs) → s.commitAll ps = s.commitAll qs) ∧
    ∀ rounds : List Round,
      s.GoesOn (rounds.flatMap Round.accepted) (s.commitAll (rounds.map Round.progress)) := by
  refine ⟨fun p q ↦ ?_, fun p ↦ ?_, fun p ↦ s.minTime_le_commitAll [p], fun ps qs ↦ s.commitAll_congr,
    s.goesOn_commitAll⟩
  · have hsame : ∀ x, x ∈ [p, q] ↔ x ∈ [q, p] := by simp [or_comm]
    exact s.commitAll_congr hsame
  · have hsame : ∀ x, x ∈ [p, p] ↔ x ∈ [p] := by simp
    exact s.commitAll_congr hsame

/-- Two feeds from one start that overlap: both deliver something at the last time, and one record is
delivered by both. -/
def sampleRounds : List Round :=
  [⟨Ledger.sampleFeed, { minTime := 2 }⟩,
    ⟨⟨Nat, Ledger.sampleInner, 0, [([97], [Ledger.sampleRecord 97 4 9, Ledger.sampleRecord 97 5 2]),
      ([99], [Ledger.sampleRecord 99 5 7])], true⟩, { minTime := 2 }⟩]

def sampleProgress : List ScanProgress :=
  sampleRounds.map Round.progress

theorem commit_joins_sampleRounds :
    (∀ p, p ∈ sampleProgress ++ sampleProgress ↔ p ∈ sampleProgress.reverse) ∧
      commitAll { minTime := 2 } (sampleProgress ++ sampleProgress) =
        commitAll { minTime := 2 } sampleProgress.reverse ∧
      (commitAll { minTime := 2 } sampleProgress).minTime = 5 ∧
      ∀ id, (commitAll { minTime := 2 } sampleProgress).hasSeen id ↔
        id ∈ [⟨[97], 5, 1⟩, ⟨[97], 5, 2⟩, ⟨[99], 5, 7⟩] := by
  obtain ⟨-, -, -, hset, hgoesOn⟩ := commit_joins { minTime := 2 }
  have hsame : ∀ p, p ∈ sampleProgress ++ sampleProgress ↔ p ∈ sampleProgress.reverse := by simp
  have htime : (commitAll { minTime := 2 } sampleProgress).minTime = 5 := by decide +kernel
  have hrecords : sampleRounds.flatMap Round.accepted =
      [Ledger.sampleRecord 97 5 1, Ledger.sampleRecord 97 5 2, Ledger.sampleRecord 97 4 9,
        Ledger.sampleRecord 97 5 2, Ledger.sampleRecord 99 5 7] := rfl
  refine ⟨hsame, hset _ _ hsame, htime, fun id ↦ ?_⟩
  have hseen := (hgoesOn sampleRounds).seen id
  rw [hrecords] at hseen
  rw [sampleProgress] at htime ⊢
  rw [hseen, htime]
  simp [Ledger.sampleRecord, CellId.ofRecord, ByteView.bytes, Bytes.window]

end IncrementalScan

end ColumnStore
