import ColumnStore.Proofs.Progress

/-!
# Deduplication is exact

An incremental state is fed rows again and again. Each time it leaves out what it remembers, the inner
handler accepts or rejects each of the rows that are left, and the progress is committed or discarded.
As long as nothing is fed that is older than where the state stands, it leaves out what was accepted in
a committed feed before, and nothing else (`Ledger.Reached.deduplicates`).
-/

namespace ColumnStore

namespace IncrementalScan

variable {s : IncrementalScan} {records : List CellRecord}

/-- Where a state stands after a commit: where it stood, or at a record that was accepted. -/
theorem minTime_commit (s : IncrementalScan) {p : ScanProgress} (hp : p.Marks records) :
    (s.commit p).minTime = s.minTime ∨ ∃ r ∈ records, r.timestamp = (s.commit p).minTime := by
  unfold commit
  split
  · exact .inl rfl
  · next greatest hmax =>
    split
    · exact .inr (hp.greatest greatest hmax).2
    · split <;> exact .inl rfl

namespace Remembers

variable {accepted : List CellRecord}

theorem timestamp_eq (h : s.Remembers accepted) {id : CellId} (hseen : s.hasSeen id) :
    id.timestamp = s.minTime := by
  obtain ⟨r, -, ht, rfl⟩ := (h.seen id).mp hseen
  exact ht

/-- Asking what the state has seen would be enough. -/
theorem fresh_eq_filter (h : s.Remembers accepted) (records : List CellRecord) :
    s.fresh records = records.filter fun r ↦ !s.hasSeen (CellId.ofRecord r) := by
  rw [fresh_eq]
  apply List.filter_congr
  intro r _
  cases hseen : s.hasSeen (CellId.ofRecord r) with
  | false => simp
  | true =>
      have ht : r.timestamp = s.minTime := h.timestamp_eq hseen
      simp [ht]

/-- Of a record that is not older than where the state stands, the state has seen the identity if and
only if it was accepted. -/
theorem hasSeen_iff (h : s.Remembers accepted) {r : CellRecord} (hr : s.minTime ≤ r.timestamp) :
    s.hasSeen (CellId.ofRecord r) ↔ CellId.ofRecord r ∈ accepted.map CellId.ofRecord := by
  rw [h.seen, List.mem_map]
  constructor
  · rintro ⟨x, hx, -, hid⟩
    exact ⟨x, hx, hid.symm⟩
  · rintro ⟨x, hx, hid⟩
    have hsame : x.timestamp = r.timestamp := congrArg CellId.timestamp hid
    exact ⟨x, hx, Int64.le_antisymm (h.upper x hx) (hsame ▸ hr), hid.symm⟩

theorem freshCalls_eq (h : s.Remembers accepted) {rows : List (Bytes × List CellRecord)}
    (hrows : ∀ row ∈ rows, ∀ r ∈ row.2, s.minTime ≤ r.timestamp) :
    s.freshCalls rows =
      (rows.map fun row ↦
        (row.1, row.2.filter fun r ↦ CellId.ofRecord r ∉ accepted.map CellId.ofRecord)).filter
          (!·.2.isEmpty) := by
  rw [freshCalls]
  congr 1
  apply List.map_congr_left
  intro row hrow
  rw [h.fresh_eq_filter]
  congr 1
  apply List.filter_congr
  intro r hr
  have hiff := h.hasSeen_iff (hrows row hrow r hr)
  cases hseen : s.hasSeen (CellId.ofRecord r) with
  | false =>
      rw [hseen] at hiff
      simpa using hiff
  | true =>
      rw [hseen] at hiff
      simpa using hiff

end Remembers

end IncrementalScan

/-! ## Feeds -/

/-- Rows that are fed through a handler of an incremental state, and whether the progress is committed
afterwards. The inner handler may reject any of them. -/
structure Feed : Type 1 where
  η : Type
  inner : RowHandler η
  start : η
  rows : List (Bytes × List CellRecord)
  committed : Bool

namespace Feed

variable {s : IncrementalScan}

/-- The state of the inner handler after a feed, what has reached it, and the progress. -/
def outcome (f : Feed) (s : IncrementalScan) :
    (f.η × List (Bytes × List CellRecord)) × ScanProgress :=
  (s.handler f.inner.noted).after ((f.start, []), {}) f.rows

def passed (f : Feed) (s : IncrementalScan) : List (Bytes × List CellRecord) :=
  (f.outcome s).1.2

def progress (f : Feed) (s : IncrementalScan) : ScanProgress :=
  (f.outcome s).2

def accepted (f : Feed) (s : IncrementalScan) : List CellRecord :=
  (f.inner.accepted f.start (f.passed s)).flatMap Prod.snd

/-- Nothing is fed that is older than where the state stands. -/
def Later (f : Feed) (s : IncrementalScan) : Prop :=
  ∀ row ∈ f.rows, ∀ r ∈ row.2, s.minTime ≤ r.timestamp

theorem outcome_eq (f : Feed) (s : IncrementalScan) :
    f.passed s = s.freshCalls f.rows ∧ (f.progress s).Marks (f.accepted s) := by
  obtain ⟨q, hq, hmarks⟩ := s.after_handler_accepted f.inner.noted (f.start, []) .nil f.rows
  rw [RowHandler.after_noted, List.nil_append] at hq
  rw [RowHandler.accepted_noted, List.nil_append] at hmarks
  have hpassed : f.passed s = s.freshCalls f.rows := by rw [passed, outcome, hq]
  have hprogress : f.progress s = q := by rw [progress, outcome, hq]
  rw [accepted, hpassed, hprogress]
  exact ⟨rfl, hmarks⟩

theorem Later.accepted {f : Feed} (h : f.Later s) {r : CellRecord} (hr : r ∈ f.accepted s) :
    s.minTime ≤ r.timestamp := by
  obtain ⟨call, hcall, hrecord⟩ := List.mem_flatMap.mp hr
  have hpassed := (f.inner.accepted_sublist f.start (f.passed s)).subset hcall
  rw [(f.outcome_eq s).1] at hpassed
  obtain ⟨row, hrow, rfl⟩ := IncrementalScan.of_mem_freshCalls hpassed
  exact h row hrow r (IncrementalScan.mem_fresh.mp hrecord).1

end Feed

/-! ## Feeds one after the other -/

/-- A state with the records of all rows that were accepted in committed feeds. -/
structure Ledger where
  scan : IncrementalScan
  accepted : List CellRecord := []

namespace Ledger

variable {m₀ : Timestamp} {l : Ledger}

def fed (l : Ledger) (f : Feed) : Ledger :=
  if f.committed then
    { scan := l.scan.commit (f.progress l.scan), accepted := l.accepted ++ f.accepted l.scan }
  else l

/-- A state is new, or it was fed nothing that was older than where it stood. -/
inductive Reached (m₀ : Timestamp) : Ledger → Prop
  | new : Reached m₀ { scan := { minTime := m₀ } }
  | fed {l : Ledger} (h : Reached m₀ l) (f : Feed) (later : f.Later l.scan) : Reached m₀ (l.fed f)

/-- A state remembers what it should, and stands at the greatest of the time where it began and the
times of what was accepted. -/
structure Sound (m₀ : Timestamp) (l : Ledger) : Prop where
  remembers : l.scan.Remembers l.accepted
  start_le : m₀ ≤ l.scan.minTime
  attained : l.scan.minTime = m₀ ∨ ∃ r ∈ l.accepted, r.timestamp = l.scan.minTime

namespace Sound

theorem new (m₀ : Timestamp) : Sound m₀ { scan := { minTime := m₀ } } where
  remembers := .nil m₀
  start_le := Int64.le_rfl
  attained := .inl rfl

/-- A committed feed leaves the boundary or moves it to a time of what it accepted, and what was accepted
at that time is remembered. -/
theorem fed (h : l.Sound m₀) {f : Feed} (hlater : f.Later l.scan) : (l.fed f).Sound m₀ := by
  unfold Ledger.fed
  split
  · have hmarks := (f.outcome_eq l.scan).2
    obtain ⟨hle, hremembers⟩ := h.remembers.commit hmarks fun r hr ↦ hlater.accepted hr
    constructor
    case remembers => exact hremembers
    case start_le => exact Int64.le_trans h.start_le hle
    case attained =>
      rcases l.scan.minTime_commit hmarks with hsame | ⟨r, hr, ht⟩
      · simp only [hsame]
        rcases h.attained with hstart | ⟨r, hr, ht⟩
        · exact .inl hstart
        · exact .inr ⟨r, List.mem_append_left _ hr, ht⟩
      · exact .inr ⟨r, List.mem_append_right _ hr, ht⟩
  · exact h

end Sound

theorem Reached.sound (h : l.Reached m₀) : l.Sound m₀ := by
  induction h with
  | new => exact .new m₀
  | fed _ f later ih => exact ih.fed later

/-- Of what is fed, just that reaches the inner handler whose identity was not accepted in a committed
feed before: row by row in order, and no row without records. The state stands at the greatest of the
time where it began and the times of all that was accepted, and has seen what was accepted of just
that time. So it would be enough to ask what it has seen. -/
theorem Reached.deduplicates (h : l.Reached m₀) (f : Feed) (hlater : f.Later l.scan) :
    f.passed l.scan =
        (f.rows.map fun row ↦
          (row.1, row.2.filter fun r ↦
            CellId.ofRecord r ∉ l.accepted.map CellId.ofRecord)).filter (!·.2.isEmpty) ∧
      l.scan.minTime ∈ m₀ :: l.accepted.map CellRecord.timestamp ∧
      (∀ t ∈ m₀ :: l.accepted.map CellRecord.timestamp, t ≤ l.scan.minTime) ∧
      (∀ id, l.scan.hasSeen id ↔
        ∃ r ∈ l.accepted, r.timestamp = l.scan.minTime ∧ id = CellId.ofRecord r) ∧
      (∀ id, l.scan.hasSeen id → id.timestamp = l.scan.minTime) ∧
      ∀ records, l.scan.fresh records =
        records.filter fun r ↦ !l.scan.hasSeen (CellId.ofRecord r) := by
  have hsound := h.sound
  have hremembers := hsound.remembers
  refine ⟨?_, ?_, ?_, hremembers.seen, fun id ↦ hremembers.timestamp_eq,
    hremembers.fresh_eq_filter⟩
  · rw [(f.outcome_eq l.scan).1]
    exact hremembers.freshCalls_eq hlater
  · rw [List.mem_cons, List.mem_map]
    exact hsound.attained
  · intro t ht
    rcases List.mem_cons.mp ht with rfl | ht
    · exact hsound.start_le
    · obtain ⟨r, hr, rfl⟩ := List.mem_map.mp ht
      exact hremembers.upper r hr

/-- A record of a row whose key is one octet. -/
def sampleRecord (key : UInt8) (timestamp : Timestamp) (sequenceId : UInt64) : CellRecord where
  row := ⟨[key], 0, 1, Nat.le_refl 1⟩
  family := ⟨[], 0, 0, Nat.le_refl 0⟩
  qualifier := ⟨[], 0, 0, Nat.le_refl 0⟩
  value := ⟨[], 0, 0, Nat.le_refl 0⟩
  tags := ⟨[], 0, 0, Nat.le_refl 0⟩
  timestamp := timestamp
  typeByte := 4
  sequenceId := sequenceId

/-- Counts rows, and rejects those of one key. -/
def sampleInner : RowHandler Nat := fun n row _ ↦
  if row = [98] then (.error "not this one", n) else (.ok (), n + 1)

/-- Two records at the same time are accepted, and a third one is rejected. -/
def sampleFeed : Feed :=
  ⟨Nat, sampleInner, 0, [([97], [sampleRecord 97 5 1, sampleRecord 97 5 2]),
    ([98], [sampleRecord 98 5 3])], true⟩

/-- What has been there before comes again, with something new between. -/
def sampleRepeat (committed : Bool) : Feed :=
  ⟨Nat, sampleInner, 0, [([97], [sampleRecord 97 5 1, sampleRecord 97 6 4, sampleRecord 97 5 2]),
    ([98], [sampleRecord 98 5 3]), ([99], []), ([97], [sampleRecord 97 5 2])], committed⟩

/-- A feed that is committed, and one that is not. -/
def sample : Ledger :=
  (Ledger.fed { scan := { minTime := 2 } } sampleFeed).fed (sampleRepeat false)

theorem reached_sample : sample.Reached 2 :=
  (Reached.new.fed sampleFeed (by unfold Feed.Later; decide +kernel)).fed (sampleRepeat false)
    (by unfold Feed.Later; decide +kernel)

theorem deduplicates_sampleRepeat :
    (sampleRepeat true).passed sample.scan =
        [([97], [sampleRecord 97 6 4]), ([98], [sampleRecord 98 5 3])] ∧
      sample.scan.minTime = 5 ∧
      ∀ id, sample.scan.hasSeen id → id.timestamp = 5 := by
  obtain ⟨hpassed, -, -, -, hboundary, -⟩ :=
    reached_sample.deduplicates (sampleRepeat true) (by unfold Feed.Later; decide +kernel)
  have htime : sample.scan.minTime = 5 := by decide +kernel
  rw [htime] at hboundary
  exact ⟨hpassed.trans rfl, htime, hboundary⟩

end Ledger

end ColumnStore
