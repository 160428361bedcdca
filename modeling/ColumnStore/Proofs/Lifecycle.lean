import ColumnStore.Proofs.Gauges

/-!
# The lifecycle of a service

A service is enabled and disabled, used and in the end dropped, while the cluster shows faults and is
used by others. Between its calls it is either disabled without a connection or enabled with one that
is open (`Service.Holds`), and whatever fails on the way, the cluster counts no other connection of
it (`Lifetime.Balanced`).
-/

namespace ColumnStore

/-! ## The calls of a service -/

namespace Service

open Cluster

variable {c : Cluster} {s : Service Cluster} {held : Int}

/-- Between two calls a service is disabled without a connection, or enabled with one that is open,
and holds so many connections. -/
def Holds (s : Service Cluster) (held : Int) : Prop :=
  (s.state = .disabled ∧ s.connection = none ∧ held = 0) ∨
    s.state = .enabled ∧
      (∃ connection : Connection, s.connection = some connection ∧ connection.closed = false) ∧
      held = 1

/-- There is one connection more if one could be set up, and none if not, also if it was opened and
had to be closed again. -/
theorem establish_cases (c : Cluster) (files : Files) (config : ClientConfig) :
    (∃ e, (establish c files config).result = .error e ∧
        (establish c files config).state.gauges = c.gauges) ∨
      ∃ connection : Connection, (establish c files config).result = .ok connection ∧
        connection.closed = false ∧
        (establish c files config).state.gauges =
          { c.gauges with connections := c.gauges.connections + 1 } := by
  unfold establish
  cases config.resolve files with
  | error e => exact .inl ⟨e, rfl, rfl⟩
  | ok conf =>
      dsimp only
      rcases c.connect_cases conf with ⟨⟨e, hrefused⟩, hsame⟩ | ⟨connection, hopened, hopen, hcount⟩
      · change (Store.connect c conf).result = _ at hrefused
        simp only [hrefused]
        exact .inl ⟨e, rfl, congrArg gauges hsame⟩
      · change (Store.connect c conf).result = _ at hopened
        simp only [hopened]
        cases hlive : Store.listTables (Store.connect c conf).state connection with
        | ok tables => exact .inr ⟨connection, rfl, hopen, congrArg gauges hcount⟩
        | error e =>
            refine .inl ⟨e, rfl, ?_⟩
            change ((c.connect conf).state.closeConnection connection).state.1.gauges = _
            rw [gauges_closeConnection_of_open hopen, hcount]
            simp

theorem enable_of_invalid {σ : Type} [Store σ] (s : Service σ) (store : σ) (files : Files)
    {config : ClientConfig} {fault : ConfigFault} (h : config.validate = .error fault) :
    s.enable store files config =
      { result := .error (.configValidation fault), state := (s, store) } := by
  rw [enable, h]

theorem enable_of_not_disabled (c : Cluster) (files : Files) {config : ClientConfig}
    (hvalid : config.validate = .ok ()) (hstate : s.state ≠ .disabled) :
    s.enable c files config =
      { result := .error (.invalidState "enable" s.state.name), state := (s, c) } := by
  simp only [enable, hvalid, if_pos hstate]

/-- Enabling either fails, and leaves the service and the gauges as they were, or the service has a
connection of its own then. -/
theorem enable_cases (s : Service Cluster) (c : Cluster) (files : Files)
    (config : ClientConfig) :
    (∃ e, (s.enable c files config).result = .error e ∧ (s.enable c files config).state.1 = s ∧
        (s.enable c files config).state.2.gauges = c.gauges) ∨
      ∃ connection : Connection, (s.enable c files config).result = .ok () ∧
        s.state = .disabled ∧ connection.closed = false ∧
        (s.enable c files config).state.1 =
          { s with state := .enabled, connection := some connection } ∧
        (s.enable c files config).state.2.gauges =
          { c.gauges with connections := c.gauges.connections + 1 } := by
  cases hvalid : config.validate with
  | error fault =>
      rw [enable_of_invalid s c files hvalid]
      exact .inl ⟨_, rfl, rfl, rfl⟩
  | ok _ =>
      by_cases hstate : s.state = .disabled
      · have hsame : { s with state := .disabled } = s := by rw [← hstate]
        have hidle : ¬s.state ≠ .disabled := not_not_intro hstate
        rcases establish_cases c files config with ⟨e, hresult, hcount⟩ |
          ⟨connection, hresult, hopen, hcount⟩
        · left
          simp only [enable, hvalid, if_neg hidle, hresult]
          exact ⟨_, rfl, hsame, hcount⟩
        · right
          simp only [enable, hvalid, if_neg hidle, hresult]
          exact ⟨connection, trivial, hstate, hopen, rfl, hcount⟩
      · rw [enable_of_not_disabled c files hvalid hstate]
        exact .inl ⟨_, rfl, rfl, rfl⟩

theorem gauges_release (h : s.Holds held) (c : Cluster) :
    (s.release c).state.gauges =
      { c.gauges with connections := c.gauges.connections - held } := by
  rcases h with ⟨-, hnone, rfl⟩ | ⟨-, ⟨connection, hsome, hopen⟩, rfl⟩
  · rw [release, hnone, Int.sub_zero]
  · rw [release, hsome]
    exact gauges_closeConnection_of_open hopen

theorem disable_disables (s : Service Cluster) (c : Cluster) :
    (s.disable c).state.1.state = .disabled ∧ (s.disable c).state.1.connection = none := by
  unfold disable
  split
  · next hidle => exact ⟨hidle.1, Option.isNone_iff_eq_none.mp hidle.2⟩
  · exact ⟨rfl, rfl⟩

theorem gauges_disable (h : s.Holds held) (c : Cluster) :
    (s.disable c).state.2.gauges =
      { c.gauges with connections := c.gauges.connections - held } := by
  unfold disable
  split
  · next hidle =>
    rcases h with ⟨-, -, rfl⟩ | ⟨henabled, -, -⟩
    · rw [Int.sub_zero]
    · rw [henabled] at hidle
      cases hidle.1
  · exact gauges_release h c

theorem connections_disable (h : s.Holds held) (c : Cluster) :
    (s.disable c).state.2.gauges.connections = c.gauges.connections - held :=
  congrArg Gauges.connections (gauges_disable h c)

theorem connected?_of_disabled (h : s.state = .disabled) : s.connected? = none := by
  rw [connected?, h]

theorem put_of_disabled (h : s.state = .disabled) (c : Cluster) (now : Timestamp) (table : String)
    (requests : List WriteRequest) :
    s.put c now table requests = { result := .error .notEnabled, state := c } := by
  rw [put, connected?_of_disabled h]

/-- The filter expression of a request is absent or blank, or the service can read it. -/
def Reads (s : Service Cluster) (r : Request) : Prop :=
  ∀ expression, r.expression = some expression →
    Text.isAllBlank expression ∨ ∃ filter, s.parse expression = .ok filter

theorem scan_of_disabled {η : Type} (h : s.state = .disabled) (c : Cluster) {r : Request}
    (hr : s.Reads r) (handler : RowHandler η) (h₀ : η) :
    s.scan c r handler h₀ = { result := .error .notEnabled, state := (c, h₀) } := by
  have hfilter : ∃ filter, s.readFilter r = .ok filter := by
    unfold readFilter
    cases hexpression : r.expression with
    | none => exact ⟨none, rfl⟩
    | some expression =>
        rcases hr expression hexpression with hblank | ⟨filter, hparse⟩
        · exact ⟨none, by simp [hblank]⟩
        · simp only [hparse]
          split
          · exact ⟨none, rfl⟩
          · exact ⟨some filter, rfl⟩
  obtain ⟨filter, hfilter⟩ := hfilter
  rw [scan, hfilter, connected?_of_disabled h]

end Service

/-! ## From the first call to the last -/

/-- A cluster, the service on it unless it has been dropped, and how many connections to the cluster
are open that others hold. -/
structure Lifetime where
  cluster : Cluster
  service : Option (Service Cluster)
  others : Int

namespace Lifetime

/-- What happens in the lifetime of a service: it is called, or something else is done to the cluster,
which may be that its faults change. -/
inductive Call : Type 1 where
  | enable (files : Files) (config : ClientConfig)
  | disable
  | put (now : Timestamp) (table : String) (requests : List WriteRequest)
  | scan (η : Type) (request : Service.Request) (handler : RowHandler η) (h : η)
  | drop
  | elsewhere (operation : Operation)

/-- Work on the cluster that the service has no part in. -/
def perform (l : Lifetime) (operation : Operation) : Lifetime :=
  let after := l.cluster.perform operation
  { l with
    cluster := after
    others := l.others + (after.gauges.connections - l.cluster.gauges.connections) }

/-- A service that was dropped is not called any more. -/
def step (l : Lifetime) (call : Call) : Lifetime :=
  match call, l.service with
  | .elsewhere operation, _ => l.perform operation
  | _, none => l
  | .enable files config, some s =>
    let after := (s.enable l.cluster files config).state
    { l with service := some after.1, cluster := after.2 }
  | .disable, some s =>
    let after := (s.disable l.cluster).state
    { l with service := some after.1, cluster := after.2 }
  | .put now table requests, some s =>
    { l with cluster := (s.put l.cluster now table requests).state }
  | .scan _ request handler h, some s =>
    { l with cluster := (s.scan l.cluster request handler h).state.1 }
  | .drop, some s => { l with service := none, cluster := (s.release l.cluster).state }

def run (l : Lifetime) (calls : List Call) : Lifetime :=
  calls.foldl step l

def start (c : Cluster) (parse : String → Except FilterError Filter) : Lifetime :=
  ⟨c, some { parse }, c.gauges.connections⟩

/-- The cluster counts no more connections than others hold and the service has. -/
def Balanced (l : Lifetime) : Prop :=
  match l.service with
  | none => l.cluster.gauges.connections = l.others
  | some s => s.Holds (l.cluster.gauges.connections - l.others)

namespace Balanced

variable {l : Lifetime} {s : Service Cluster}

theorem start (c : Cluster) (parse : String → Except FilterError Filter) :
    Balanced (start c parse) :=
  .inl ⟨rfl, rfl, Int.sub_self _⟩

/-- The connections that an operation opens or closes elsewhere are put down to others. -/
theorem perform (h : l.Balanced) (operation : Operation) : (l.perform operation).Balanced := by
  obtain ⟨c, service, others⟩ := l
  cases service with
  | none =>
      simp only [Balanced, Lifetime.perform] at h ⊢
      omega
  | some s =>
      simp only [Balanced, Lifetime.perform] at h ⊢
      convert h using 1
      omega

/-- Whatever a call does, the connections of the cluster change as those of the service do. -/
theorem step (h : l.Balanced) (call : Call) : (l.step call).Balanced := by
  obtain ⟨c, service, others⟩ := l
  cases service with
  | none =>
      cases call with
      | elsewhere operation => exact h.perform operation
      | _ => exact h
  | some s =>
      have hs : s.Holds (c.gauges.connections - others) := h
      cases call with
      | elsewhere operation => exact h.perform operation
      | enable files config =>
          rcases s.enable_cases c files config with ⟨e, -, hsame, hcount⟩ |
            ⟨connection, -, hidle, hopen, hsome, hcount⟩
          · change Service.Holds _ ((s.enable c files config).state.2.gauges.connections - others)
            rw [hsame, hcount]
            exact hs
          · change Service.Holds _ ((s.enable c files config).state.2.gauges.connections - others)
            rw [hsome, hcount]
            rcases hs with ⟨-, -, hnone⟩ | ⟨henabled, -, -⟩
            · exact .inr ⟨rfl, ⟨connection, rfl, hopen⟩, by dsimp only; omega⟩
            · rw [hidle] at henabled
              cases henabled
      | disable =>
          obtain ⟨hstate, hnone⟩ := s.disable_disables c
          have hcount := Service.connections_disable hs c
          exact .inl ⟨hstate, hnone, by simp only [Lifetime.step]; omega⟩
      | put now table requests =>
          change s.Holds ((s.put c now table requests).state.gauges.connections - others)
          rw [Cluster.gauges_service_put]
          exact hs
      | scan η request handler h₀ =>
          change s.Holds ((s.scan c request handler h₀).state.1.gauges.connections - others)
          rw [Cluster.gauges_scan]
          exact hs
      | drop =>
          change (s.release c).state.gauges.connections = others
          rw [Service.gauges_release hs]
          exact Int.sub_sub_self _ _

theorem run (h : l.Balanced) (calls : List Call) : (l.run calls).Balanced := by
  induction calls generalizing l with
  | nil => exact h
  | cons call calls ih => exact ih (h.step call)

end Balanced

/-- Between any two calls a service is disabled without a connection, or enabled with one that is open,
and the cluster counts that one and no other of the service. A service that could not be enabled is
what it was before, an enabled one cannot be enabled again, and after disabling it is disabled. A
disabled service neither writes nor scans. A configuration that is not valid is refused by any
service on any store before anything is asked of the store. -/
theorem lifecycle (c : Cluster) (parse : String → Except FilterError Filter) (calls : List Call)
    {l : Lifetime} (hl : (start c parse).run calls = l) :
    (l.service = none → l.cluster.gauges.connections = l.others) ∧
      (∀ s, l.service = some s →
        s.Holds (l.cluster.gauges.connections - l.others) ∧
        (∀ files config,
          (∀ e, (s.enable l.cluster files config).result = .error e →
            (s.enable l.cluster files config).state.1 = s) ∧
          (s.state = .enabled → config.validate = .ok () →
            s.enable l.cluster files config =
              { result := .error (.invalidState "enable" "enabled"), state := (s, l.cluster) })) ∧
        (s.disable l.cluster).state.1.state = .disabled ∧
        (s.state = .disabled →
          (∀ now table requests, s.put l.cluster now table requests =
            { result := .error .notEnabled, state := l.cluster }) ∧
          ∀ (η : Type) (r : Service.Request) (handler : RowHandler η) (h : η), s.Reads r →
            s.scan l.cluster r handler h =
              { result := .error .notEnabled, state := (l.cluster, h) })) ∧
      ∀ (σ : Type) [Store σ] (s : Service σ) (store : σ) (files : Files)
        (config : ClientConfig) (fault : ConfigFault), config.validate = .error fault →
          s.enable store files config =
            { result := .error (.configValidation fault), state := (s, store) } := by
  have hbalanced : l.Balanced := hl ▸ (Balanced.start c parse).run calls
  refine ⟨?_, ?_, ?_⟩
  · intro hnone
    rwa [Balanced, hnone] at hbalanced
  · intro s hsome
    have hs : s.Holds (l.cluster.gauges.connections - l.others) := by
      rwa [Balanced, hsome] at hbalanced
    have hdisables := (s.disable_disables l.cluster).1
    refine ⟨hs, ?_, hdisables, ?_⟩
    · intro files config
      refine ⟨?_, ?_⟩
      · intro e herror
        rcases s.enable_cases l.cluster files config with ⟨_, -, hsame, -⟩ | ⟨_, hok, -⟩
        · exact hsame
        · rw [herror] at hok
          cases hok
      · intro henabled hvalid
        have hstate : s.state ≠ .disabled := by
          rw [henabled]
          decide
        rw [Service.enable_of_not_disabled l.cluster files hvalid hstate, henabled]
        rfl
    · intro hdisabled
      refine ⟨?_, ?_⟩
      · exact Service.put_of_disabled hdisabled l.cluster
      · intro η r handler h hreads
        exact Service.scan_of_disabled hdisabled l.cluster hreads handler h
  · intro σ _ s store files config fault hfault
    exact Service.enable_of_invalid s store files hfault

def sampleConfig : ClientConfig where
  quorum := some "localhost"
  port := some 2181
  parent := some "/hbase"
  retries := some 1

/-- Enabling fails while the cluster does not answer, and succeeds then. Another client connects, and
the next closing is to report an error. -/
def sampleCalls : List Call :=
  [.elsewhere (.change (.liveness true)), .enable {} sampleConfig,
    .elsewhere (.change (.liveness false)), .enable {} sampleConfig,
    .elsewhere (.connect (Configuration.defaults.set Setting.quorum "localhost")),
    .elsewhere (.change .close)]

def sample : Lifetime :=
  (start .localhost Filter.parse).run sampleCalls

theorem lifecycle_of_sampleCalls :
    sample.cluster.gauges.connections = 2 ∧ sample.others = 1 ∧
      ∃ s, sample.service = some s ∧ s.state = .enabled ∧ s.Holds 1 ∧
        s.enable sample.cluster {} sampleConfig =
          { result := .error (.invalidState "enable" "enabled"), state := (s, sample.cluster) } ∧
        (s.disable sample.cluster).state.1.state = .disabled ∧
        (s.disable sample.cluster).state.2.gauges.connections = 1 := by
  obtain ⟨-, hlive, -⟩ := lifecycle .localhost Filter.parse sampleCalls (l := sample) rfl
  obtain ⟨s, hsome⟩ : ∃ s, sample.service = some s := ⟨_, rfl⟩
  obtain ⟨hholds, henable, hdisable, -⟩ := hlive s hsome
  have hcount : sample.cluster.gauges.connections = 2 := by decide +kernel
  have hothers : sample.others = 1 := by decide +kernel
  have henabled : s.state = .enabled := by
    have hstate : sample.service.map Service.state = some .enabled := by decide +kernel
    rw [hsome] at hstate
    exact Option.some.inj hstate
  rw [hcount, hothers] at hholds
  refine ⟨hcount, hothers, s, hsome, henabled, hholds, (henable {} sampleConfig).2 henabled rfl,
    hdisable, ?_⟩
  rw [Service.connections_disable hholds, hcount]
  rfl

end Lifetime

end ColumnStore
