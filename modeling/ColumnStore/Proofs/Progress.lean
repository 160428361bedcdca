import ColumnStore.Client.Incremental
import ColumnStore.Proofs.Delivery

/-!
# The progress of incremental scans

An incremental scan hands over what its state does not remember, and nothing else
(`after_handler_accepted`). Its progress marks the greatest time of what was accepted and the cells at
that time (`Marks`), so that a state in which it is committed remembers them too (`Remembers.commit`).
-/

namespace ColumnStore

/-! ## Noting calls -/

namespace RowHandler

variable {η : Type}

def noted (handler : RowHandler η) : RowHandler (η × List (Bytes × List CellRecord)) :=
  fun (h, calls) row records ↦
    ((handler h row records).1, ((handler h row records).2, calls ++ [(row, records)]))

theorem Accepting.noted {handler : RowHandler η} (h : handler.Accepting) :
    handler.noted.Accepting := by
  intro state row records
  exact h state.1 row records

theorem after_noted (handler : RowHandler η) (h : η)
    (calls calls' : List (Bytes × List CellRecord)) :
    handler.noted.after (h, calls) calls' = (handler.after h calls', calls ++ calls') := by
  induction calls' generalizing h calls with
  | nil => rw [after_nil, after_nil, List.append_nil]
  | cons call calls' ih =>
      rw [after_cons, after_cons]
      exact (ih _ _).trans (by rw [List.append_assoc, List.singleton_append])

/-- Those of some calls that the handler accepts, one after the other. -/
def accepted (handler : RowHandler η) (h : η) :
    List (Bytes × List CellRecord) → List (Bytes × List CellRecord)
  | [] => []
  | call :: calls =>
    match handler h call.1 call.2 with
    | (.ok (), h) => call :: handler.accepted h calls
    | (.error _, h) => handler.accepted h calls

theorem accepted_sublist (handler : RowHandler η) (h : η) (calls : List (Bytes × List CellRecord)) :
    (handler.accepted h calls).Sublist calls := by
  induction calls generalizing h with
  | nil => exact .slnil
  | cons call calls ih =>
      rw [accepted]
      split
      · exact (ih _).cons_cons call
      · exact (ih _).cons call

theorem Accepting.accepted_eq {handler : RowHandler η} (h : handler.Accepting) (h₀ : η)
    (calls : List (Bytes × List CellRecord)) : handler.accepted h₀ calls = calls := by
  induction calls generalizing h₀ with
  | nil => rfl
  | cons call calls ih =>
      have hcall := h h₀ call.1 call.2
      rw [accepted]
      rcases hanswer : handler h₀ call.1 call.2 with ⟨_ | _, h₁⟩
      · rw [hanswer] at hcall
        cases hcall
      · exact congrArg (call :: ·) (ih h₁)

theorem accepted_noted (handler : RowHandler η) (h : η)
    (calls calls' : List (Bytes × List CellRecord)) :
    handler.noted.accepted (h, calls) calls' = handler.accepted h calls' := by
  induction calls' generalizing h calls with
  | nil => rfl
  | cons call calls' ih =>
      simp only [accepted, noted]
      rcases handler h call.1 call.2 with ⟨_ | _, h₁⟩
      · exact ih h₁ _
      · exact congrArg (call :: ·) (ih h₁ _)

end RowHandler

/-! ## Marking what was handed over -/

namespace ScanProgress

/-- A progress knows the greatest time of some records, and those of them that have it. -/
structure Marks (p : ScanProgress) (records : List CellRecord) : Prop where
  empty : p.maxTimestamp = none → records = []
  greatest : ∀ t, p.maxTimestamp = some t →
    (∀ r ∈ records, r.timestamp ≤ t) ∧ ∃ r ∈ records, r.timestamp = t
  atMax : ∀ id, p.atMax.contains id ↔
    ∃ r ∈ records, p.maxTimestamp = some r.timestamp ∧ id = CellId.ofRecord r

namespace Marks

variable {p : ScanProgress} {records : List CellRecord}

theorem nil : Marks {} [] where
  empty := fun _ ↦ rfl
  greatest := by
    intro t ht
    cases ht
  atMax := by
    intro id
    simp [OrderedMap.contains]

/-- A record that is later than all others starts anew. -/
theorem restart (p : ScanProgress) {r : CellRecord} (hlater : ∀ x ∈ records, x.timestamp < r.timestamp) :
    { p with maxTimestamp := some r.timestamp, atMax := OrderedSet.singleton (.ofRecord r) }.Marks
      (records ++ [r]) where
  empty := by
    intro hnone
    cases hnone
  greatest := by
    intro t ht
    cases ht
    refine ⟨fun x hx ↦ ?_, r, List.mem_append_right records (List.mem_singleton_self r), rfl⟩
    rcases List.mem_append.mp hx with hx | hx
    · exact Int64.le_of_lt (hlater x hx)
    · rw [List.mem_singleton.mp hx]
      exact Int64.le_rfl
  atMax := by
    intro id
    rw [OrderedSet.contains_singleton]
    constructor
    · rintro rfl
      exact ⟨r, by simp⟩
    · rintro ⟨x, hx, ht, rfl⟩
      rcases List.mem_append.mp hx with hx | hx
      · exact (Int64.ne_of_lt (hlater x hx) (Option.some.inj ht).symm).elim
      · rw [List.mem_singleton.mp hx]

/-- A record that is not later than all others leaves the greatest time as it is. -/
theorem greatest_concat (h : p.Marks records) {greatest : Timestamp}
    (hmax : p.maxTimestamp = some greatest) {r : CellRecord} (hle : r.timestamp ≤ greatest) :
    (∀ x ∈ records ++ [r], x.timestamp ≤ greatest) ∧
      ∃ x ∈ records ++ [r], x.timestamp = greatest := by
  obtain ⟨hall, x, hx, hxt⟩ := h.greatest greatest hmax
  refine ⟨fun y hy ↦ ?_, x, List.mem_append_left [r] hx, hxt⟩
  rcases List.mem_append.mp hy with hy | hy
  · exact hall y hy
  · rw [List.mem_singleton.mp hy]
    exact hle

theorem record_of_lt (h : p.Marks records) {greatest : Timestamp}
    (hmax : p.maxTimestamp = some greatest) {r : CellRecord} (hlt : r.timestamp < greatest) :
    p.Marks (records ++ [r]) where
  empty := by
    intro hnone
    rw [hmax] at hnone
    cases hnone
  greatest := by
    intro t ht
    rw [hmax] at ht
    cases ht
    exact h.greatest_concat hmax (Int64.le_of_lt hlt)
  atMax := by
    intro id
    have hne : greatest ≠ r.timestamp := (Int64.ne_of_lt hlt).symm
    rw [h.atMax id, hmax]
    simp [hne]

theorem record_of_eq (h : p.Marks records) {r : CellRecord}
    (hmax : p.maxTimestamp = some r.timestamp) :
    { p with atMax := OrderedSet.add p.atMax (.ofRecord r) }.Marks (records ++ [r]) where
  empty := by
    intro hnone
    rw [hmax] at hnone
    cases hnone
  greatest := by
    intro t ht
    rw [hmax] at ht
    cases ht
    exact h.greatest_concat hmax Int64.le_rfl
  atMax := by
    intro id
    rw [OrderedSet.contains_add, h.atMax id, hmax]
    simp [or_comm]

/-- The marks go on with every record: a later one starts anew, one of the greatest time is added, an
earlier one is passed over. -/
theorem record (h : p.Marks records) (r : CellRecord) : (p.record r).Marks (records ++ [r]) := by
  unfold ScanProgress.record
  split
  · next greatest hmax =>
    split
    · next hlt => exact h.record_of_lt hmax hlt
    · next hnot =>
      split
      · next heq =>
        rw [← heq] at hmax
        exact h.record_of_eq hmax
      · next hne =>
        apply restart
        intro x hx
        have hgt : greatest < r.timestamp :=
          Int64.lt_of_le_of_ne (Int64.not_lt.mp hnot) fun heq ↦ hne heq.symm
        exact Int64.lt_of_le_of_lt ((h.greatest greatest hmax).1 x hx) hgt
  · next hnone =>
    apply restart
    intro x hx
    rw [h.empty hnone] at hx
    cases hx

theorem foldl_record (h : p.Marks records) (news : List CellRecord) :
    (news.foldl ScanProgress.record p).Marks (records ++ news) := by
  induction news generalizing p records with
  | nil => rwa [List.append_nil]
  | cons r news ih =>
      have hnews := ih (h.record r)
      rwa [List.append_assoc, List.singleton_append] at hnews

/-- How many rows were handed over and how many cells were left out does not matter. -/
theorem recount (h : p.Marks records) (rows suppressed : Nat) :
    { p with rows, suppressed : ScanProgress }.Marks records :=
  ⟨h.empty, h.greatest, h.atMax⟩

theorem contains_atMax (h : p.Marks records) {greatest : Timestamp}
    (hmax : p.maxTimestamp = some greatest) (id : CellId) :
    p.atMax.contains id ↔ ∃ r ∈ records, r.timestamp = greatest ∧ id = CellId.ofRecord r := by
  rw [h.atMax id, hmax]
  constructor
  · rintro ⟨r, hr, ht, hid⟩
    exact ⟨r, hr, (Option.some.inj ht).symm, hid⟩
  · rintro ⟨r, hr, ht, hid⟩
    exact ⟨r, hr, congrArg some ht.symm, hid⟩

theorem recordRow (h : p.Marks records) (news : List CellRecord) :
    (p.recordRow news).Marks (records ++ news) :=
  (h.foldl_record news).recount _ _

end Marks

end ScanProgress

/-! ## Leaving out what is remembered -/

namespace IncrementalScan

/-- A state stands at the greatest time of some records, or beyond, and remembers those of them that
are just there. -/
structure Remembers (s : IncrementalScan) (records : List CellRecord) : Prop where
  upper : ∀ r ∈ records, r.timestamp ≤ s.minTime
  seen : ∀ id, s.hasSeen id ↔ ∃ r ∈ records, r.timestamp = s.minTime ∧ id = CellId.ofRecord r

variable {s : IncrementalScan} {records news : List CellRecord}

theorem Remembers.nil (minTime : Timestamp) : Remembers { minTime } [] where
  upper := by simp
  seen := by
    intro id
    simp [hasSeen, OrderedMap.contains]

theorem fresh_eq (s : IncrementalScan) (records : List CellRecord) :
    s.fresh records =
      records.filter fun r ↦ r.timestamp ≠ s.minTime || !s.hasSeen (.ofRecord r) := by
  unfold fresh
  split
  · next hempty =>
    symm
    rw [List.filter_eq_self]
    intro r _
    have hnone : s.hasSeen (.ofRecord r) = false := by
      rw [hasSeen, OrderedMap.contains, OrderedMap.get?_eq_none_of_isEmpty hempty]
      rfl
    rw [hnone, Bool.not_false, Bool.or_true]
  · rfl

theorem mem_fresh {r : CellRecord} :
    r ∈ s.fresh records ↔
      r ∈ records ∧ ¬(r.timestamp = s.minTime ∧ s.hasSeen (CellId.ofRecord r)) := by
  rw [fresh_eq, List.mem_filter]
  simp [imp_iff_not_or]

/-- What is left of some calls: the records that are not remembered, and no call without any. -/
def freshCalls (s : IncrementalScan) (calls : List (Bytes × List CellRecord)) :
    List (Bytes × List CellRecord) :=
  (calls.map fun call ↦ (call.1, s.fresh call.2)).filter (!·.2.isEmpty)

theorem of_mem_freshCalls {calls : List (Bytes × List CellRecord)} {call : Bytes × List CellRecord}
    (h : call ∈ s.freshCalls calls) : ∃ given ∈ calls, call = (given.1, s.fresh given.2) := by
  obtain ⟨given, hgiven, hcall⟩ := List.mem_map.mp (List.mem_filter.mp h).1
  exact ⟨given, hgiven, hcall.symm⟩

theorem records_freshCalls (s : IncrementalScan) (calls : List (Bytes × List CellRecord)) :
    (s.freshCalls calls).flatMap Prod.snd = s.fresh (calls.flatMap Prod.snd) := by
  rw [fresh_eq]
  induction calls with
  | nil => rfl
  | cons call calls ih =>
      rw [List.flatMap_cons, List.filter_append, ← ih, ← fresh_eq, freshCalls, List.map_cons,
        List.filter_cons]
      split
      · rfl
      · next hempty =>
        have hnil : s.fresh call.2 = [] := by simpa using hempty
        rw [hnil]
        rfl

variable {η : Type} {inner : RowHandler η}

theorem accepting_handler (s : IncrementalScan) (h : inner.Accepting) :
    (s.handler inner).Accepting := by
  rintro ⟨h₀, p⟩ row records
  have hinner := h h₀ row (s.fresh records)
  simp only [handler]
  split
  · rfl
  · rcases hanswer : inner h₀ row (s.fresh records) with ⟨_ | _, h₁⟩
    · rw [hanswer] at hinner
      cases hinner
    · rfl

/-- An incremental scan hands over what its state does not remember, whatever the answers are, and its
progress marks what was accepted of that. -/
theorem after_handler_accepted (s : IncrementalScan) (inner : RowHandler η) (h₀ : η) {p : ScanProgress}
    (hp : p.Marks records) (calls : List (Bytes × List CellRecord)) :
    ∃ q : ScanProgress,
      (s.handler inner).after (h₀, p) calls = (inner.after h₀ (s.freshCalls calls), q) ∧
      q.Marks (records ++ (inner.accepted h₀ (s.freshCalls calls)).flatMap Prod.snd) := by
  -- The inner handler and the progress advance together, call by call, so both are generalized.
  induction calls generalizing h₀ p records with
  | nil => exact ⟨p, rfl, by simpa [freshCalls, RowHandler.accepted] using hp⟩
  | cons call calls ih =>
      obtain ⟨row, given⟩ := call
      have hcounted := hp.recount p.rows (p.suppressed + (given.length - (s.fresh given).length))
      rw [RowHandler.after_cons]
      by_cases hempty : (s.fresh given).isEmpty
      · have hstep : (s.handler inner (h₀, p) row given).2 =
            (h₀, { p with suppressed := p.suppressed + (given.length - (s.fresh given).length) }) := by
          simp only [handler, hempty, if_true]
        have hcalls : s.freshCalls ((row, given) :: calls) = s.freshCalls calls := by
          rw [freshCalls, List.map_cons, List.filter_cons_of_neg (by simpa using hempty), freshCalls]
        rw [hstep, hcalls]
        exact ih h₀ hcounted
      · have hcalls : s.freshCalls ((row, given) :: calls) =
            (row, s.fresh given) :: s.freshCalls calls := by
          rw [freshCalls, List.map_cons, List.filter_cons_of_pos (by simpa using hempty), freshCalls]
        rw [hcalls, RowHandler.after_cons, RowHandler.accepted]
        rcases hanswer : inner h₀ row (s.fresh given) with ⟨reason | _, h₁⟩
        · have hstep : (s.handler inner (h₀, p) row given).2 =
              (h₁, { p with suppressed := p.suppressed + (given.length - (s.fresh given).length) }) := by
            simp only [handler, hempty, hanswer]
            rfl
          rw [hstep]
          exact ih h₁ hcounted
        · have hstep : (s.handler inner (h₀, p) row given).2 =
              (h₁, ScanProgress.recordRow
                { p with suppressed := p.suppressed + (given.length - (s.fresh given).length) }
                (s.fresh given)) := by
            simp only [handler, hempty, hanswer]
            rfl
          rw [hstep, List.flatMap_cons, ← List.append_assoc]
          exact ih h₁ (hcounted.recordRow _)

/-- A handler that never gives up is handed over and accepts the same. -/
theorem after_handler (s : IncrementalScan) (h : inner.Accepting) (h₀ : η) {p : ScanProgress}
    (hp : p.Marks records) (calls : List (Bytes × List CellRecord)) :
    ∃ q : ScanProgress,
      (s.handler inner).after (h₀, p) calls = (inner.after h₀ (s.freshCalls calls), q) ∧
      q.Marks (records ++ (s.freshCalls calls).flatMap Prod.snd) := by
  have hmarked := s.after_handler_accepted inner h₀ hp calls
  rwa [h.accepted_eq] at hmarked

/-- Committing the progress of a scan that began at the boundary moves the boundary on, and what
was handed over then is remembered beside what was remembered before. -/
theorem Remembers.commit (h : s.Remembers records) {p : ScanProgress} (hp : p.Marks news)
    (hlower : ∀ r ∈ news, s.minTime ≤ r.timestamp) :
    s.minTime ≤ (s.commit p).minTime ∧ (s.commit p).Remembers (records ++ news) := by
  unfold IncrementalScan.commit
  split
  · next hnone =>
    rw [hp.empty hnone, List.append_nil]
    exact ⟨Int64.le_rfl, h⟩
  · next greatest hmax =>
    obtain ⟨hle, r, hr, hrt⟩ := hp.greatest greatest hmax
    have hstart : s.minTime ≤ greatest := hrt ▸ hlower r hr
    split
    · next hlt =>
      refine ⟨hstart, fun x hx ↦ ?_, fun id ↦ ?_⟩
      · rcases List.mem_append.mp hx with hx | hx
        · exact Int64.le_trans (h.upper x hx) hstart
        · exact hle x hx
      · rw [hasSeen, hp.contains_atMax hmax]
        constructor
        · rintro ⟨x, hx, hid⟩
          exact ⟨x, List.mem_append_right records hx, hid⟩
        · rintro ⟨x, hx, hxt, hid⟩
          rcases List.mem_append.mp hx with hx | hx
          · have hxlt := Int64.lt_of_le_of_lt (h.upper x hx) hlt
            exact (Int64.ne_of_lt hxlt hxt).elim
          · exact ⟨x, hx, hxt, hid⟩
    · next hnot =>
      split
      · next heq =>
        refine ⟨Int64.le_rfl, fun x hx ↦ ?_, fun id ↦ ?_⟩
        · rcases List.mem_append.mp hx with hx | hx
          · exact h.upper x hx
          · rw [← heq]
            exact hle x hx
        · rw [heq] at hmax
          have hseen : s.boundary.contains id ↔ _ := h.seen id
          rw [hasSeen, OrderedSet.contains_union, hp.contains_atMax hmax, hseen]
          constructor
          · rintro (⟨x, hx, hid⟩ | ⟨x, hx, hid⟩)
            · exact ⟨x, List.mem_append_right records hx, hid⟩
            · exact ⟨x, List.mem_append_left news hx, hid⟩
          · rintro ⟨x, hx, hid⟩
            rcases List.mem_append.mp hx with hx | hx
            · exact .inr ⟨x, hx, hid⟩
            · exact .inl ⟨x, hx, hid⟩
      · next hne => exact (hne (Int64.le_antisymm (Int64.not_lt.mp hnot) hstart)).elim

end IncrementalScan

end ColumnStore
