import ColumnStore.Proofs.Atomicity

/-!
# Attempts and the failures they meet

A batch whose table and families exist uses up a failure with every attempt that fails, and any other
batch uses up none (`Cluster.attempted`). So the failures that are left after a series of batches can
be counted from the attempts of each, and what the cluster holds then are the batches that were answered
with success, each of them applied once (`put_retries`).
-/

namespace ColumnStore

namespace Put

/-- Some write is too large, and those before it are not. -/
def Spills (now : Timestamp) (writes : List (Bytes × ColumnWrite)) (fault : Oversized) : Prop :=
  ∃ before write after, writes = before ++ write :: after ∧
    (∀ w ∈ before, (fieldsOf now w).WithinLimits) ∧ (fieldsOf now write).Offends fault

theorem spills_of_encodeAll {now : Timestamp} {writes : List (Bytes × ColumnWrite)}
    {fault : Oversized} (h : encodeAll now writes = .error fault) : Spills now writes fault := by
  induction writes with
  | nil => cases h
  | cons write writes ih =>
      obtain ⟨row, w⟩ := write
      rw [encodeAll] at h
      cases hcell : encodeColumn now row w with
      | error e =>
          rw [hcell] at h
          cases h
          refine ⟨[], (row, w), writes, rfl, ?_, ?_⟩
          · intro w hw
            cases hw
          · exact Cell.pack?_eq_error_iff.mp hcell
      | ok cell =>
          rw [hcell] at h
          cases hcells : encodeAll now writes with
          | ok cells =>
              rw [hcells] at h
              cases h
          | error e =>
              rw [hcells] at h
              cases h
              obtain ⟨before, write, after, rfl, hbefore, hoffends⟩ := ih hcells
              refine ⟨(row, w) :: before, write, after, rfl, ?_, hoffends⟩
              exact List.forall_mem_cons.mpr ⟨(Cell.exists_pack?_iff _).mp ⟨cell, hcell⟩, hbefore⟩

theorem Spills.not_within {now : Timestamp} {writes : List (Bytes × ColumnWrite)}
    {fault : Oversized} (h : Spills now writes fault) :
    ¬∀ write ∈ writes, (fieldsOf now write).WithinLimits := by
  obtain ⟨before, write, after, rfl, -, hoffends⟩ := h
  intro hwithin
  have hmem : write ∈ before ++ write :: after := List.mem_append_right _ List.mem_cons_self
  obtain ⟨cell, hcell⟩ := (Cell.exists_pack?_iff _).mpr (hwithin write hmem)
  rw [Cell.pack?_eq_error_iff.mpr hoffends] at hcell
  cases hcell

end Put

/-- A batch that is written through a handle at some time. -/
structure Submission where
  handle : TableHandle
  now : Timestamp
  puts : List Put

namespace Submission

variable {s : Submission} {c d : Cluster}

/-- The table of a batch exists and has all its families. -/
def Admissible (s : Submission) (c : Cluster) : Prop :=
  ∃ t, c.tables.get? s.handle.name = some t ∧
    ∀ write ∈ Put.writes s.puts, (t.descriptor.family? write.2.family).isSome

instance (s : Submission) (c : Cluster) : Decidable (s.Admissible c) :=
  decidable_of_iff ((c.tables.get? s.handle.name).any fun t ↦
    (Put.writes s.puts).all fun write ↦ (t.descriptor.family? write.2.family).isSome) (by
      simp [Admissible, Option.any_eq_true])

theorem admissible_iff : s.Admissible c ↔
    ∃ descriptor, (c.tables.get? s.handle.name).map StoredTable.descriptor = some descriptor ∧
      ∀ write ∈ Put.writes s.puts, (descriptor.family? write.2.family).isSome := by
  simp [Admissible]

def record (s : Submission) : BatchRecord :=
  ⟨s.handle.name, s.puts.map (·.row)⟩

/-- The error that says what a batch does not find. -/
inductive Lacks (s : Submission) (c : Cluster) : StoreError → Prop
  | table (h : c.tables.get? s.handle.name = none) : s.Lacks c (.tableNotFound s.handle.name)
  | family {t : StoredTable} {write : Bytes × ColumnWrite}
      (h : c.tables.get? s.handle.name = some t) (hwrite : write ∈ Put.writes s.puts)
      (hfamily : t.descriptor.family? write.2.family = none) :
      s.Lacks c (.noSuchColumnFamily t.descriptor.name (Utf8.lossy write.2.family))

def Fits (s : Submission) : Prop :=
  ∀ write ∈ Put.writes s.puts, (Put.fieldsOf s.now write).WithinLimits

/-- A batch is applied: each of its writes gives one cell, the cells are stored in order under the
sequence ids that come next, and the batch is recorded. Nothing else is different then. -/
def Applies (s : Submission) (c d : Cluster) : Prop :=
  ∃ t cells, c.tables.get? s.handle.name = some t ∧
    cells.map Cell.fields = (Put.writes s.puts).map (Put.fieldsOf s.now) ∧
    d = { c with
      tables := c.tables.insert s.handle.name
        ((StoredTable.numbered c.sequence cells).foldl StoredTable.store t)
      sequence := c.sequence + UInt64.ofNat cells.length
      batches := c.batches ++ [s.record] }

/-! ## One batch -/

inductive Attempted (s : Submission) (c : Cluster) (step : Step Cluster (Except StoreError Unit)) :
    Prop
  | lacking {e : StoreError} (lacks : s.Lacks c e) (eq : step = { result := .error e, state := c })
  | exhausted (admissible : s.Admissible c) (more : s.handle.attempts ≤ c.faults.puts)
      (eq : step = {
        result := .error (.retriesExhausted s.handle.attempts
          (.io .connectionReset "region server reset the connection"))
        state := { c with faults.puts := c.faults.puts - s.handle.attempts } })
  | oversized {fault : Oversized} (admissible : s.Admissible c)
      (less : c.faults.puts < s.handle.attempts)
      (spills : Put.Spills s.now (Put.writes s.puts) fault)
      (eq : step = {
        result := .error (.oversizedField fault)
        state := { c with faults.puts := 0 } })
  | applied {d : Cluster} (admissible : s.Admissible c) (less : c.faults.puts < s.handle.attempts)
      (fits : s.Fits) (applies : s.Applies { c with faults.puts := 0 } d)
      (eq : step = { result := .ok (), state := d })

theorem Lacks.not_admissible {e : StoreError} (h : s.Lacks c e) : ¬s.Admissible c := by
  rintro ⟨t, ht, hdeclared⟩
  cases h with
  | table hnone =>
      rw [ht] at hnone
      cases hnone
  | family ht' hwrite hfamily =>
      cases ht.symm.trans ht'
      have hsome := hdeclared _ hwrite
      rw [hfamily] at hsome
      cases hsome

theorem Applies.withFaults (h : s.Applies c d) (faults : Faults) :
    s.Applies { c with faults } { d with faults } := by
  obtain ⟨t, cells, ht, hcells, rfl⟩ := h
  exact ⟨t, cells, ht, hcells, rfl⟩

end Submission

namespace Cluster

def submit (c : Cluster) (s : Submission) : Step Cluster (Except StoreError Unit) :=
  c.put s.handle s.now s.puts

theorem error_of_checkFamilies {d : TableDescriptor} {families : List Bytes} {e : StoreError}
    (h : checkFamilies d families = .error e) :
    ∃ family ∈ families, d.family? family = none ∧
      e = .noSuchColumnFamily d.name (Utf8.lossy family) := by
  unfold checkFamilies at h
  split at h
  · next family hfamily =>
    cases h
    refine ⟨family, List.mem_of_find?_eq_some hfamily, ?_, rfl⟩
    simpa using List.find?_some hfamily
  · cases h

/-- A batch is decided by its table first, then by the failures, and at last by what its cells hold. -/
theorem attempted (c : Cluster) (s : Submission) : s.Attempted c (c.submit s) := by
  unfold submit put table?
  cases htable : c.tables.get? s.handle.name with
  | none => exact .lacking (.table htable) rfl
  | some t =>
      dsimp only
      cases hfamilies : checkFamilies t.descriptor ((Put.writes s.puts).map (·.2.family)) with
      | error e =>
          obtain ⟨family, hmem, hfamily, rfl⟩ := error_of_checkFamilies hfamilies
          obtain ⟨write, hwrite, rfl⟩ := List.mem_map.mp hmem
          exact .lacking (.family htable hwrite hfamily) rfl
      | ok _ =>
          have hadmissible : s.Admissible c := by
            refine ⟨t, htable, fun write hwrite ↦ ?_⟩
            apply checkFamilies_eq_ok_iff.mp hfamilies
            exact List.mem_map_of_mem hwrite
          simp only [attempt_eq]
          by_cases hless : c.faults.puts < s.handle.attempts
          · simp only [if_pos hless, apply]
            cases hcells : Put.encodeAll s.now (Put.writes s.puts) with
            | error fault => exact .oversized hadmissible hless (Put.spills_of_encodeAll hcells) rfl
            | ok cells =>
                have hfits : s.Fits := Put.exists_encodeAll_iff.mp ⟨cells, hcells⟩
                refine .applied hadmissible hless hfits ?_ rfl
                refine ⟨t, cells, htable, Put.fields_of_encodeAll hcells, ?_⟩
                rw [StoredTable.storeAll_eq]
                rfl
          · simp only [if_neg hless]
            exact .exhausted hadmissible (Nat.le_of_not_lt hless) rfl

section Submit

variable {c : Cluster} {s : Submission}

theorem submit_of_not_admissible (h : ¬s.Admissible c) :
    ∃ e, s.Lacks c e ∧ c.submit s = { result := .error e, state := c } := by
  cases c.attempted s with
  | lacking lacks eq => exact ⟨_, lacks, eq⟩
  | exhausted admissible | oversized admissible | applied admissible => exact absurd admissible h

theorem submit_of_exhausted (h : s.Admissible c) (hmore : s.handle.attempts ≤ c.faults.puts) :
    c.submit s = {
      result := .error (.retriesExhausted s.handle.attempts
        (.io .connectionReset "region server reset the connection"))
      state := { c with faults.puts := c.faults.puts - s.handle.attempts } } := by
  cases c.attempted s with
  | lacking lacks => exact absurd h lacks.not_admissible
  | exhausted _ _ eq => exact eq
  | oversized _ less | applied _ less => omega

theorem submit_of_not_fits (h : s.Admissible c) (hless : c.faults.puts < s.handle.attempts)
    (hfits : ¬s.Fits) :
    ∃ fault, Put.Spills s.now (Put.writes s.puts) fault ∧
      c.submit s = {
        result := .error (.oversizedField fault)
        state := { c with faults.puts := 0 } } := by
  cases c.attempted s with
  | lacking lacks => exact absurd h lacks.not_admissible
  | exhausted _ more => omega
  | oversized _ _ spills eq => exact ⟨_, spills, eq⟩
  | applied _ _ fits => exact absurd fits hfits

theorem submit_of_fits (h : s.Admissible c) (hless : c.faults.puts < s.handle.attempts)
    (hfits : s.Fits) :
    ∃ d, s.Applies { c with faults.puts := 0 } d ∧ c.submit s = { result := .ok (), state := d } := by
  cases c.attempted s with
  | lacking lacks => exact absurd h lacks.not_admissible
  | exhausted _ more => omega
  | oversized _ _ spills => exact absurd hfits spills.not_within
  | applied _ _ _ applies eq => exact ⟨_, applies, eq⟩

theorem submit_eq_ok_iff :
    (c.submit s).result = .ok () ↔
      s.Admissible c ∧ c.faults.puts < s.handle.attempts ∧ s.Fits := by
  constructor
  · intro h
    cases c.attempted s with
    | lacking _ eq | exhausted _ _ eq | oversized _ _ _ eq =>
        rw [eq] at h
        cases h
    | applied admissible less fits => exact ⟨admissible, less, fits⟩
  · rintro ⟨hadmissible, hless, hfits⟩
    obtain ⟨d, -, hsubmit⟩ := submit_of_fits hadmissible hless hfits
    rw [hsubmit]

/-! ## One batch among others -/

theorem faults_submit (c : Cluster) (s : Submission) :
    (c.submit s).state.faults.puts =
      if s.Admissible c then c.faults.puts - s.handle.attempts else c.faults.puts := by
  cases c.attempted s with
  | lacking lacks eq => rw [eq, if_neg lacks.not_admissible]
  | exhausted admissible _ eq => rw [eq, if_pos admissible]
  | oversized admissible less _ eq =>
      rw [eq, if_pos admissible]
      exact (Nat.sub_eq_zero_of_le (Nat.le_of_lt less)).symm
  | applied admissible less _ applies eq =>
      obtain ⟨t, cells, -, -, rfl⟩ := applies
      rw [eq, if_pos admissible]
      exact (Nat.sub_eq_zero_of_le (Nat.le_of_lt less)).symm

/-- Apart from the failures, a batch that is refused changes nothing and another one is applied. -/
theorem content_submit (c : Cluster) (s : Submission) :
    if (c.submit s).result = .ok () then s.Applies c { (c.submit s).state with faults := c.faults }
    else { (c.submit s).state with faults := c.faults } = c := by
  cases c.attempted s with
  | lacking _ eq | exhausted _ _ eq | oversized _ _ _ eq =>
      rw [eq]
      exact rfl
  | applied _ _ _ applies eq =>
      rw [eq]
      exact applies.withFaults c.faults

theorem descriptor_submit (c : Cluster) (s : Submission) (name : String) :
    ((c.submit s).state.tables.get? name).map StoredTable.descriptor =
      (c.tables.get? name).map StoredTable.descriptor := by
  cases c.attempted s with
  | lacking _ eq | exhausted _ _ eq | oversized _ _ _ eq => rw [eq]
  | applied _ _ _ applies eq =>
      obtain ⟨t, cells, htable, -, rfl⟩ := applies
      rw [eq, OrderedMap.get?_insert]
      split
      · next hname =>
        subst hname
        rw [htable, Option.map_some, Option.map_some, StoredTable.descriptor_foldl_store]
      · rfl

end Submit

theorem admissible_submit (c : Cluster) (s other : Submission) :
    other.Admissible (c.submit s).state ↔ other.Admissible c := by
  rw [Submission.admissible_iff, Submission.admissible_iff, descriptor_submit]

/-! ## Batches one after the other -/

def submitAll (c : Cluster) : List Submission → List (Except StoreError Unit) × Cluster
  | [] => ([], c)
  | s :: batches =>
    let (answers, d) := (c.submit s).state.submitAll batches
    ((c.submit s).result :: answers, d)

/-- Batches are applied one after the other, and nothing else happens. -/
inductive Applied : Cluster → List Submission → Cluster → Prop
  | nil {c : Cluster} : Applied c [] c
  | cons {b c d : Cluster} {s : Submission} {batches : List Submission} (h : s.Applies b c)
      (hrest : Applied c batches d) : Applied b (s :: batches) d

theorem Applied.withFaults {c d : Cluster} {batches : List Submission} (h : Applied c batches d)
    (faults : Faults) : Applied { c with faults } batches { d with faults } := by
  induction h with
  | nil => exact .nil
  | cons h _ ih => exact .cons (h.withFaults faults) ih

theorem Applied.batches_eq {c d : Cluster} {batches : List Submission} (h : Applied c batches d) :
    d.batches = c.batches ++ batches.map Submission.record := by
  induction h with
  | nil => rw [List.map_nil, List.append_nil]
  | @cons b c d s batches h _ ih =>
      obtain ⟨t, cells, -, -, rfl⟩ := h
      rw [ih, List.map_cons, List.append_assoc, List.singleton_append]

/-- How many attempts are made at most for some batches. -/
def attemptsFor (c : Cluster) (batches : List Submission) : Nat :=
  ((batches.filter (·.Admissible c)).map (·.handle.attempts)).sum

theorem attemptsFor_cons (c : Cluster) (s : Submission) (batches : List Submission) :
    attemptsFor c (s :: batches) =
      (if s.Admissible c then s.handle.attempts else 0) + attemptsFor c batches := by
  by_cases h : s.Admissible c <;> simp [attemptsFor, h]

def answeredOk (batches : List Submission) (answers : List (Except StoreError Unit)) :
    List Submission :=
  ((batches.zip answers).filter (·.2 = .ok ())).map Prod.fst

theorem answeredOk_cons (s : Submission) (batches : List Submission)
    (answer : Except StoreError Unit) (answers : List (Except StoreError Unit)) :
    answeredOk (s :: batches) (answer :: answers) =
      if answer = .ok () then s :: answeredOk batches answers else answeredOk batches answers := by
  by_cases h : answer = .ok () <;> simp [answeredOk, h]

theorem submitAll_append (c : Cluster) (before after : List Submission) :
    c.submitAll (before ++ after) =
      ((c.submitAll before).1 ++ ((c.submitAll before).2.submitAll after).1,
        ((c.submitAll before).2.submitAll after).2) := by
  induction before generalizing c with
  | nil => rfl
  | cons s before ih =>
      rw [List.cons_append, submitAll, ih, submitAll]
      rfl

theorem length_submitAll (c : Cluster) (batches : List Submission) :
    (c.submitAll batches).1.length = batches.length := by
  induction batches generalizing c with
  | nil => rfl
  | cons s batches ih => rw [submitAll, List.length_cons, List.length_cons, ih]

theorem admissible_submitAll (c : Cluster) (batches : List Submission) (other : Submission) :
    other.Admissible (c.submitAll batches).2 ↔ other.Admissible c := by
  induction batches generalizing c with
  | nil => rfl
  | cons s batches ih =>
      rw [submitAll, ih]
      exact admissible_submit c s other

theorem attemptsFor_submit (c : Cluster) (s : Submission) (batches : List Submission) :
    attemptsFor (c.submit s).state batches = attemptsFor c batches := by
  simp only [attemptsFor, admissible_submit]

theorem faults_submitAll (c : Cluster) (batches : List Submission) :
    (c.submitAll batches).2.faults.puts = c.faults.puts - attemptsFor c batches := by
  induction batches generalizing c with
  | nil => rfl
  | cons s batches ih =>
      rw [submitAll, ih, faults_submit, attemptsFor_submit, attemptsFor_cons, ← Nat.sub_sub]
      by_cases h : s.Admissible c
      · rw [if_pos h, if_pos h]
      · rw [if_neg h, if_neg h, Nat.sub_zero]

/-- Of some batches just those that are answered with success are applied, in their order. -/
theorem applied_submitAll (c : Cluster) (batches : List Submission) :
    Applied c (answeredOk batches (c.submitAll batches).1)
      { (c.submitAll batches).2 with faults := c.faults } := by
  induction batches generalizing c with
  | nil => exact .nil
  | cons s batches ih =>
      have hrest := (ih (c.submit s).state).withFaults c.faults
      have hcontent := c.content_submit s
      rw [submitAll, answeredOk_cons]
      by_cases h : (c.submit s).result = .ok ()
      · rw [if_pos h] at hcontent ⊢
        exact .cons hcontent hrest
      · rw [if_neg h] at hcontent ⊢
        rw [hcontent] at hrest
        exact hrest

theorem answer_submitAll (c : Cluster) (before : List Submission) (s : Submission)
    (after : List Submission) :
    (c.submitAll (before ++ s :: after)).1[before.length]? =
      some ((c.submitAll before).2.submit s).result := by
  have hlength := length_submitAll c before
  rw [submitAll_append, List.getElem?_append_right (Nat.le_of_eq hlength), hlength, Nat.sub_self]
  rfl

theorem openTable_eq_ok {c : Cluster} {connection : Connection} {name : String}
    {handle : TableHandle} (h : (c.openTable connection name).result = .ok handle) :
    handle = ⟨name, min (connection.retries.toNat + 1) (2 ^ 32 - 1)⟩ := by
  cases hclosed : connection.closed with
  | true =>
      rw [openTable_of_closed hclosed] at h
      cases h
  | false =>
      rw [openTable_of_open hclosed] at h
      exact (Except.ok.inj h).symm

/-- A handle attempts a batch once more often than its connection retries, and the first attempt that
meets no failure is the last one, whatever it answers. Where the table or a family does not exist there
is no attempt. If all attempts fail, that many failures fewer are left, and otherwise none, and the batch
is applied unless a write of it is too large. Of several batches just those are applied that are answered
with success, each of them once. -/
theorem put_retries :
    (∀ (c : Cluster) (connection : Connection) (name : String) (handle : TableHandle),
      (c.openTable connection name).result = .ok handle →
        handle = ⟨name, min (connection.retries.toNat + 1) (2 ^ 32 - 1)⟩) ∧
    (∀ (c : Cluster) (action : Cluster → Except StoreError Cluster) (attempts : Nat),
      c.faults.puts < attempts →
        c.attempt action attempts =
          ({ c with faults.puts := 0 }, some (action { c with faults.puts := 0 }))) ∧
    (∀ (c : Cluster) (s : Submission), ¬s.Admissible c →
      ∃ e, s.Lacks c e ∧ c.submit s = { result := .error e, state := c }) ∧
    (∀ (c : Cluster) (s : Submission), s.Admissible c → s.handle.attempts ≤ c.faults.puts →
      c.submit s = {
        result := .error (.retriesExhausted s.handle.attempts
          (.io .connectionReset "region server reset the connection"))
        state := { c with faults.puts := c.faults.puts - s.handle.attempts } }) ∧
    (∀ (c : Cluster) (s : Submission), s.Admissible c → c.faults.puts < s.handle.attempts →
      (s.Fits → ∃ d, s.Applies { c with faults.puts := 0 } d ∧
        c.submit s = { result := .ok (), state := d }) ∧
      (¬s.Fits → ∃ fault, Put.Spills s.now (Put.writes s.puts) fault ∧
        c.submit s = {
          result := .error (.oversizedField fault)
          state := { c with faults.puts := 0 } })) ∧
    ∀ (c : Cluster) (batches : List Submission) (answers : List (Except StoreError Unit))
      (d : Cluster), c.submitAll batches = (answers, d) →
        d.faults.puts = c.faults.puts - c.attemptsFor batches ∧
        Applied c (answeredOk batches answers) { d with faults := c.faults } ∧
        d.batches = c.batches ++ (answeredOk batches answers).map Submission.record ∧
        ∀ before s after, batches = before ++ s :: after →
          (answers[before.length]? = some (.ok ()) ↔
            s.Admissible c ∧ c.faults.puts - c.attemptsFor before < s.handle.attempts ∧ s.Fits) := by
  refine ⟨?_, ?_, ?_, ?_, ?_, ?_⟩
  · intro c connection name handle h
    exact openTable_eq_ok h
  · intro c action attempts hless
    rw [attempt_eq, if_pos hless]
  · intro c s h
    exact submit_of_not_admissible h
  · intro c s h hmore
    exact submit_of_exhausted h hmore
  · intro c s h hless
    exact ⟨submit_of_fits h hless, submit_of_not_fits h hless⟩
  · intro c batches answers d h
    obtain rfl : (c.submitAll batches).1 = answers := congrArg Prod.fst h
    obtain rfl : (c.submitAll batches).2 = d := congrArg Prod.snd h
    have happlied := applied_submitAll c batches
    refine ⟨faults_submitAll c batches, happlied, happlied.batches_eq, ?_⟩
    rintro before s after rfl
    rw [answer_submitAll, Option.some_inj, submit_eq_ok_iff, admissible_submitAll,
      faults_submitAll]

def sampleSubmission (table : String) (attempts : Nat) : Submission :=
  ⟨⟨table, attempts⟩, 4, sampleBatch⟩

theorem put_retries_sample :
    (sampleSubmission "t" 3).Admissible sample ∧
      ((sample.change (.puts 3)).submit (sampleSubmission "t" 3)).result =
        .error (.retriesExhausted 3
          (.io .connectionReset "region server reset the connection")) ∧
      ((sample.change (.puts 2)).submit (sampleSubmission "t" 3)).result = .ok () ∧
      ((sample.change (.puts (2 ^ 32 - 1))).submit (sampleSubmission "t" (2 ^ 32 - 1))).state =
        sample.change (.puts 0) ∧
      ((sample.change (.puts 4)).submitAll
        [sampleSubmission "u" 3, sampleSubmission "t" 3]).2.faults.puts = 1 := by
  obtain ⟨-, -, -, hexhausted, happlied, hrun⟩ := put_retries
  have hsample : (sampleSubmission "t" 3).Admissible sample := by decide +kernel
  have hadmissible : ∀ attempts n,
      (sampleSubmission "t" attempts).Admissible (sample.change (.puts n)) := by
    intro attempts n
    exact hsample
  have hfits : (sampleSubmission "t" 3).Fits := Put.exists_encodeAll_iff.mp ⟨_, rfl⟩
  refine ⟨hsample, ?_, ?_, ?_, ?_⟩
  · rw [hexhausted _ _ (hadmissible 3 3) (by decide)]
    rfl
  · obtain ⟨d, -, hsubmit⟩ := (happlied _ _ (hadmissible 3 2) (by decide)).1 hfits
    rw [hsubmit]
  · rw [hexhausted _ _ (hadmissible _ _) (by decide)]
    rfl
  · rw [(hrun _ _ _ _ rfl).1]
    decide +kernel

end Cluster

end ColumnStore
