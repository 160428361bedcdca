import ColumnStore.Proofs.History
import ColumnStore.Proofs.Numerals

/-!
# Quorums as texts

A quorum is written by its entries between commas, with white space and blank entries wherever one likes
(`Listed`), and cutting it up gives back just the entries (`splitHosts_listed`). So whether a connection
can be opened is decided by which entries there are.
-/

namespace ColumnStore

namespace Text

theorem fields_eq_splitOn (separator : Char) (cs : List Char) :
    fields separator cs = cs.splitOn separator := by
  induction cs with
  | nil => rfl
  | cons c cs ih =>
      rw [fields, List.splitOn, List.splitOnP_cons_eq_if_modifyHead, ← List.splitOn, ← ih]
      by_cases hc : c = separator
      · simp [hc]
      · obtain ⟨f, fs, hfields⟩ := List.exists_cons_of_ne_nil (fields_ne_nil separator cs)
        simp [hc, hfields]

/-- Cutting undoes joining, if the separator is in none of the parts. -/
theorem split_intercalate {separator : Char} {parts : List String} (h : parts ≠ [])
    (hparts : ∀ part ∈ parts, separator ∉ part.toList) :
    split separator ((String.singleton separator).intercalate parts) = parts := by
  have hlists : ∀ cs ∈ parts.map String.toList, separator ∉ cs := by
    rwa [List.forall_mem_map]
  have hcancel : String.ofList ∘ String.toList = id := funext fun _ ↦ String.ofList_toList
  rw [split, fields_eq_splitOn, String.toList_intercalate, String.toList_singleton,
    List.splitOn_intercalate separator hlists (by simpa using h), List.map_map, hcancel, List.map_id]

end Text

namespace Cluster

/-! ## Entries -/

/-- An entry of a quorum: the name of a host, and a port if it has one of its own. -/
structure HostEntry where
  host : String
  port : Option UInt16
  host_ne_empty : host.toList ≠ []
  host_plain : ∀ c ∈ host.toList, c ≠ ',' ∧ c ≠ ':'
  host_trimmed : Text.Trimmed host.toList

namespace HostEntry

/-- How an entry is written: the host alone, or with a colon and the port in decimal digits. -/
inductive Written (e : HostEntry) : String → Prop
  | alone (hport : e.port = none) : Written e e.host
  | withPort {port : UInt16} {digits : String} (hport : e.port = some port)
      (hdigits : Text.Numeral digits port.toNat) : Written e (e.host ++ ":" ++ digits)

namespace Written

variable {e : HostEntry} {s : String}

theorem trimmed (h : e.Written s) : Text.Trimmed s.toList := by
  cases h with
  | alone _ => exact e.host_trimmed
  | @withPort port digits _ hdigits =>
      -- It begins as the host does, and it ends as the digits do.
      obtain ⟨c, cs, hhost⟩ := List.exists_cons_of_ne_nil e.host_ne_empty
      have hhead := e.host_trimmed.1
      rw [hhost] at hhead
      rw [String.toList_append, String.toList_append, hhost]
      refine ⟨hhead, ?_⟩
      rw [List.getLast?_append_of_ne_nil _ hdigits.ne_empty]
      exact hdigits.trimmed.2

theorem comma_not_mem (h : e.Written s) : ',' ∉ s.toList := by
  have hhost : ',' ∉ e.host.toList := fun hc ↦ (e.host_plain ',' hc).1 rfl
  cases h with
  | alone _ => exact hhost
  | withPort _ hdigits =>
      have hnumeral := hdigits.not_mem (c := ',') (by decide) (by decide)
      simp [hhost, hnumeral]

theorem isEmpty_eq_false (h : e.Written s) : s.isEmpty = false := by
  have hne : s.toList ≠ [] := by
    cases h with
    | alone _ => exact e.host_ne_empty
    | withPort _ _ => simp [e.host_ne_empty]
  simpa [String.isEmpty_iff] using hne

end Written

end HostEntry

theorem hostEntry_of_colon_not_mem {entry : String} (h : ':' ∉ entry.toList) :
    hostEntry entry = (entry, none) := by
  have hnone : entry.toList.reverse.dropWhile (· ≠ ':') = [] := by
    rw [List.dropWhile_eq_nil_iff]
    intro c hc
    exact decide_eq_true fun hcolon ↦ h (hcolon ▸ List.mem_reverse.mp hc)
  simp only [hostEntry, hnone]

theorem hostEntry_of_port (host : String) {digits : String} {port : UInt16}
    (hcolon : ':' ∉ digits.toList) (hread : Text.readUInt16 digits = .ok port) :
    hostEntry (host ++ ":" ++ digits) = (host, some port) := by
  have hreversed : (host ++ ":" ++ digits).toList.reverse =
      digits.toList.reverse ++ ':' :: host.toList.reverse := by
    have hsign : ":".toList = [':'] := rfl
    simp [hsign]
  have hdigits : ∀ c ∈ digits.toList.reverse, decide (c ≠ ':') = true := by
    intro c hc
    exact decide_eq_true fun hc' ↦ hcolon (hc' ▸ List.mem_reverse.mp hc)
  simp only [hostEntry, hreversed, List.takeWhile_append_of_pos hdigits,
    List.dropWhile_append_of_pos hdigits]
  simp [hread]

theorem HostEntry.Written.hostEntry_eq {e : HostEntry} {s : String} (h : e.Written s) :
    hostEntry s = (e.host, e.port) := by
  cases h with
  | alone hport =>
      rw [hport]
      exact hostEntry_of_colon_not_mem fun hc ↦ (e.host_plain ':' hc).2 rfl
  | withPort hport hdigits =>
      rw [hport]
      exact hostEntry_of_port e.host (hdigits.not_mem (by decide) (by decide))
        (Text.readUInt16_eq_ok_iff.mpr hdigits)

/-! ## Lists of entries -/

/-- The parts of a quorum between its commas write some entries: each part is blank, or has an entry
between white space. -/
inductive Listed : List HostEntry → List String → Prop
  | nil : Listed [] []
  | blank {es : List HostEntry} {part : String} {parts : List String} (hpart : Text.isAllBlank part)
      (h : Listed es parts) : Listed es (part :: parts)
  | entry {e : HostEntry} {es : List HostEntry} {s : String} {parts : List String}
      (before after : String) (hbefore : Text.isAllBlank before) (hs : e.Written s)
      (hafter : Text.isAllBlank after) (h : Listed es parts) :
      Listed (e :: es) ((before ++ s ++ after) :: parts)

namespace Listed

variable {es : List HostEntry} {parts : List String}

theorem comma_not_mem (h : Listed es parts) : ∀ part ∈ parts, ',' ∉ part.toList := by
  have hblank : ∀ space : String, Text.isAllBlank space → ',' ∉ space.toList := by
    intro space hspace hc
    exact absurd ((Text.isAllBlank_iff space).mp hspace ',' hc) (by decide)
  induction h with
  | nil => simp
  | blank hpart _ ih => exact List.forall_mem_cons.mpr ⟨hblank _ hpart, ih⟩
  | entry _ _ hbefore hs hafter _ ih =>
      refine List.forall_mem_cons.mpr ⟨?_, ih⟩
      simp [hblank _ hbefore, hs.comma_not_mem, hblank _ hafter]

theorem entries_eq (h : Listed es parts) :
    ((parts.map Text.trim).filter (!·.isEmpty)).map hostEntry =
      es.map fun e ↦ (e.host, e.port) := by
  induction h with
  | nil => rfl
  | @blank es part parts hpart _ ih =>
      have hempty : (Text.trim part).isEmpty = true := (Text.isEmpty_trim_iff part).mpr hpart
      rw [List.map_cons, List.filter_cons_of_neg (by simp [hempty]), ih]
  | @entry e es s parts _ _ hbefore hs hafter _ ih =>
      rw [List.map_cons, Text.trim_margins hbefore hs.trimmed hafter,
        List.filter_cons_of_pos (by simp [hs.isEmpty_eq_false]), List.map_cons, ih, hs.hostEntry_eq,
        List.map_cons]

end Listed

/-- Cutting a quorum up gives back its entries. -/
theorem splitHosts_listed {es : List HostEntry} {parts : List String} (h : Listed es parts) :
    splitHosts (",".intercalate parts) = es.map fun e ↦ (e.host, e.port) := by
  have hcomma : "," = String.singleton ',' := rfl
  cases parts with
  | nil =>
      cases h
      rfl
  | cons part parts =>
      rw [splitHosts, hcomma, Text.split_intercalate (List.cons_ne_nil part parts) h.comma_not_mem,
        h.entries_eq]

theorem isAllBlank_listed {es : List HostEntry} {parts : List String} (h : Listed es parts)
    (hne : es ≠ []) : Text.isAllBlank (",".intercalate parts) = false := by
  rw [Bool.eq_false_iff]
  intro hblank
  -- A blank quorum has no entries, but these parts have some.
  have hnone := (Text.filter_trim_split_eq_nil_iff ',' (",".intercalate parts)).mpr fun c hc ↦
    .inr ((Text.isAllBlank_iff _).mp hblank c hc)
  have hsplit := splitHosts_listed h
  rw [splitHosts, hnone] at hsplit
  exact hne (List.map_eq_nil_iff.mp hsplit.symm)

/-! ## Where a cluster is found -/

/-- A cluster was created at the hosts of a quorum, a port and a path, whatever was done to it since. -/
inductive Founded (quorum : String) (port : UInt16) (parent : String) : Cluster → Prop
  | new : Founded quorum port parent (new quorum port parent)
  | perform {c : Cluster} (h : Founded quorum port parent c) (operation : Operation) :
    Founded quorum port parent (c.perform operation)

def SamePlace (c d : Cluster) : Prop :=
  d.hosts = c.hosts ∧ d.port = c.port ∧ d.parent = c.parent

theorem Quiet.samePlace {c d : Cluster} (h : c.Quiet d) : c.SamePlace d := by
  obtain ⟨faults, gauges, rfl⟩ := h
  exact ⟨rfl, rfl, rfl⟩

theorem samePlace_createTable (c : Cluster) (descriptor : TableDescriptor) :
    c.SamePlace (c.createTable descriptor).state := by
  unfold createTable
  split <;> exact ⟨rfl, rfl, rfl⟩

theorem samePlace_requestTable (c : Cluster) (descriptor : TableDescriptor) :
    c.SamePlace (c.requestTable descriptor).state := by
  unfold requestTable
  split
  · exact ⟨rfl, rfl, rfl⟩
  · exact c.samePlace_createTable descriptor

theorem samePlace_put (c : Cluster) (handle : TableHandle) (now : Timestamp) (puts : List Put) :
    c.SamePlace (c.put handle now puts).state := by
  rcases c.put_cases handle now puts with ⟨_, _, _, _, hstate⟩ | ⟨_, _, _, _, _, _, hstate⟩
  all_goals
    rw [hstate]
    exact ⟨rfl, rfl, rfl⟩

/-- No operation moves a cluster. -/
theorem samePlace_perform (c : Cluster) (operation : Operation) :
    c.SamePlace (c.perform operation) := by
  cases operation with
  | change faults => exact ⟨rfl, rfl, rfl⟩
  | createTable descriptor => exact c.samePlace_createTable descriptor
  | requestTable descriptor => exact c.samePlace_requestTable descriptor
  | connect conf => exact (c.quiet_connect conf).samePlace
  | closeConnection connection => exact (c.quiet_closeConnection connection).samePlace
  | releaseConnection connection => exact (c.quiet_releaseConnection connection).samePlace
  | openTable connection name => exact (c.quiet_openTable connection name).samePlace
  | releaseTable => exact ⟨rfl, rfl, rfl⟩
  | put handle now puts => exact c.samePlace_put handle now puts
  | openScanner handle scan => exact (c.quiet_openScanner handle scan).samePlace
  | closeScanner scanner => exact (c.quiet_closeScanner scanner).samePlace

theorem Founded.place {quorum : String} {port : UInt16} {parent : String} {c : Cluster}
    (h : Founded quorum port parent c) :
    c.hosts = (splitHosts quorum).map Prod.fst ∧ c.port = port ∧ c.parent = parent := by
  induction h with
  | new => exact ⟨rfl, rfl, rfl⟩
  | @perform c _ operation ih =>
      obtain ⟨hhosts, hport, hparent⟩ := c.samePlace_perform operation
      rwa [hhosts, hport, hparent]

/-! ## Connecting -/

/-- A configuration has a text for the quorum, and its port and retries are numbers if they are set. -/
structure Addressed (conf : Configuration) (quorum : String) (clientPort : Option UInt16)
    (retries : Option UInt32) : Prop where
  quorum : conf.get? Setting.quorum = some quorum
  port : conf.port? Setting.clientPort = .ok clientPort
  retries : conf.count? Setting.retries = .ok retries

def pathOf (conf : Configuration) : String :=
  (conf.get? Setting.znodeParent).getD defaultParent

namespace Addressed

variable {conf : Configuration} {quorum : String} {clientPort : Option UInt16}
  {retries : Option UInt32}

theorem coordinates_eq (h : Addressed conf quorum clientPort retries)
    (hquorum : Text.isAllBlank quorum = false) :
    coordinates conf = .ok {
      quorum
      port := clientPort.getD defaultPort
      parent := pathOf conf
      retries := retries.getD defaultRetries } := by
  simp [coordinates, h.quorum, hquorum, h.port, h.retries, pathOf]

theorem set_quorum (h : Addressed conf quorum clientPort retries) (quorum' : String) :
    Addressed (conf.set Setting.quorum quorum') quorum' clientPort retries where
  quorum := conf.get?_set_self Setting.quorum quorum'
  port := by
    rw [← h.port, Configuration.port?, Configuration.number?,
      conf.get?_set_of_ne (by decide)]
    rfl
  retries := by
    rw [← h.retries, Configuration.count?, Configuration.number?,
      conf.get?_set_of_ne (by decide)]
    rfl

end Addressed

@[simp] theorem pathOf_set_quorum (conf : Configuration) (quorum : String) :
    pathOf (conf.set Setting.quorum quorum) = pathOf conf := by
  rw [pathOf, conf.get?_set_of_ne (by decide), pathOf]

/-- One of some entries names a host of a cluster and leads to its port. -/
def Reaches (es : List HostEntry) (clientPort : UInt16) (hosts : List String) (port : UInt16) : Prop :=
  ∃ e ∈ es, e.host ∈ hosts ∧ e.port.getD clientPort = port

theorem answers_listed_iff (c : Cluster) {es : List HostEntry} {parts : List String}
    (h : Listed es parts) (clientPort : UInt16) (parent : String) :
    c.answers (",".intercalate parts) clientPort parent ↔
      c.faults.unreachable = false ∧ parent = c.parent ∧ Reaches es clientPort c.hosts c.port := by
  rw [answers, splitHosts_listed h, Reaches]
  simp [and_assoc, and_comm]

/-- A cluster is found by a configuration and the entries of its quorum: it is reachable, the path is
the one that it was created at, and an entry names one of its hosts and leads to its port. -/
def FoundBy (c : Cluster) (quorum : String) (port : UInt16) (parent : String) (conf : Configuration)
    (clientPort : Option UInt16) (es : List HostEntry) : Prop :=
  c.faults.unreachable = false ∧ pathOf conf = parent ∧
    Reaches es (clientPort.getD defaultPort) ((splitHosts quorum).map Prod.fst) port

/-- Just which entries there are counts, both in the quorum of a configuration and in the one that a
cluster was created with. -/
theorem foundBy_congr {c c' : Cluster} {quorum quorum' : String} {es es' : List HostEntry}
    (hhosts : ∀ host, host ∈ (splitHosts quorum').map Prod.fst ↔
      host ∈ (splitHosts quorum).map Prod.fst)
    (hup : c'.faults.unreachable = c.faults.unreachable) (hes : ∀ e, e ∈ es' ↔ e ∈ es)
    (port : UInt16) (parent : String) (conf : Configuration) (text : String)
    (clientPort : Option UInt16) :
    c'.FoundBy quorum' port parent (conf.set Setting.quorum text) clientPort es' ↔
      c.FoundBy quorum port parent conf clientPort es := by
  simp only [FoundBy, Reaches, hup, pathOf_set_quorum, hes, hhosts]

namespace Founded

variable {quorum : String} {port : UInt16} {parent : String} {c : Cluster} {conf : Configuration}
  {es : List HostEntry} {parts : List String} {clientPort : Option UInt16} {retries : Option UInt32}

theorem foundBy_iff (h : Founded quorum port parent c) :
    c.FoundBy quorum port parent conf clientPort es ↔
      c.faults.unreachable = false ∧ pathOf conf = c.parent ∧
        Reaches es (clientPort.getD defaultPort) c.hosts c.port := by
  obtain ⟨hhosts, hport, hparent⟩ := h.place
  rw [hhosts, hport, hparent, FoundBy]

theorem connect_of_foundBy (h : Founded quorum port parent c) (hlisted : Listed es parts)
    (hne : es ≠ []) (hconf : Addressed conf (",".intercalate parts) clientPort retries)
    (hfound : c.FoundBy quorum port parent conf clientPort es) :
    c.connect conf = {
      result := .ok { retries := retries.getD defaultRetries }
      state := { c with gauges.connections := c.gauges.connections + 1 }
      log := [.connectionOpened (",".intercalate parts) (clientPort.getD defaultPort)
        (retries.getD defaultRetries)] } := by
  have hanswers := (answers_listed_iff c hlisted (clientPort.getD defaultPort) (pathOf conf)).mpr
    (h.foundBy_iff.mp hfound)
  simp [connect, hconf.coordinates_eq (isAllBlank_listed hlisted hne), hanswers]

theorem connect_of_not_foundBy (h : Founded quorum port parent c) (hlisted : Listed es parts)
    (hne : es ≠ []) (hconf : Addressed conf (",".intercalate parts) clientPort retries)
    (hfound : ¬c.FoundBy quorum port parent conf clientPort es) :
    c.connect conf = {
      result := .error (.unreachable (",".intercalate parts) (clientPort.getD defaultPort)
        (pathOf conf))
      state := c } := by
  have hanswers : c.answers (",".intercalate parts) (clientPort.getD defaultPort) (pathOf conf) =
      false := by
    rw [← Bool.not_eq_true, answers_listed_iff c hlisted]
    exact mt h.foundBy_iff.mpr hfound
  simp [connect, hconf.coordinates_eq (isAllBlank_listed hlisted hne), hanswers]

/-- The quorum of a configuration is cut up into the entries that are written in it, and these alone
decide whether a connection is opened. -/
theorem connect_listed (h : Founded quorum port parent c) (hlisted : Listed es parts) :
    splitHosts (",".intercalate parts) = es.map (fun e ↦ (e.host, e.port)) ∧
    (es ≠ [] → ∀ conf clientPort retries,
      Addressed conf (",".intercalate parts) clientPort retries →
        (c.FoundBy quorum port parent conf clientPort es →
          c.connect conf = {
            result := .ok { retries := retries.getD defaultRetries }
            state := { c with gauges.connections := c.gauges.connections + 1 }
            log := [.connectionOpened (",".intercalate parts) (clientPort.getD defaultPort)
              (retries.getD defaultRetries)] }) ∧
        (¬c.FoundBy quorum port parent conf clientPort es →
          c.connect conf = {
            result := .error (.unreachable (",".intercalate parts) (clientPort.getD defaultPort)
              (pathOf conf))
            state := c }) ∧
        ∀ c' quorum' es' parts', Founded quorum' port parent c' → Listed es' parts' →
          (∀ e, e ∈ es' ↔ e ∈ es) →
          (∀ host, host ∈ (splitHosts quorum').map Prod.fst ↔
            host ∈ (splitHosts quorum).map Prod.fst) →
          c'.faults.unreachable = c.faults.unreachable →
          (c'.connect (conf.set Setting.quorum (",".intercalate parts'))).result.toOption =
            (c.connect conf).result.toOption) := by
  refine ⟨splitHosts_listed hlisted, fun hne conf clientPort retries hconf ↦ ⟨?_, ?_, ?_⟩⟩
  · exact h.connect_of_foundBy hlisted hne hconf
  · exact h.connect_of_not_foundBy hlisted hne hconf
  · intro c' quorum' es' parts' h' hlisted' hes hhosts hup
    have hne' : es' ≠ [] := by
      obtain ⟨e, he⟩ := List.exists_mem_of_ne_nil es hne
      exact List.ne_nil_of_mem ((hes e).mpr he)
    have hsame := foundBy_congr hhosts hup hes port parent conf (",".intercalate parts') clientPort
    have hconf' := hconf.set_quorum (",".intercalate parts')
    by_cases hfound : c.FoundBy quorum port parent conf clientPort es
    · rw [h'.connect_of_foundBy hlisted' hne' hconf' (hsame.mpr hfound),
        h.connect_of_foundBy hlisted hne hconf hfound]
    · rw [h'.connect_of_not_foundBy hlisted' hne' hconf' (mt hsame.mp hfound),
        h.connect_of_not_foundBy hlisted hne hconf hfound]
      rfl

end Founded

/-- An entry that leaves the port to the client. -/
def plainEntry : HostEntry where
  host := "zk9"
  port := none
  host_ne_empty := by decide
  host_plain := by simp
  host_trimmed := Text.trimmed_of_not_blank (by simp [Text.isBlank])

def portEntry : HostEntry where
  host := "zk2"
  port := some 2222
  host_ne_empty := by decide
  host_plain := by simp
  host_trimmed := Text.trimmed_of_not_blank (by simp [Text.isBlank])

def entryConf (parts : List String) : Configuration :=
  (Configuration.empty.set Setting.znodeParent "/store").set Setting.quorum (",".intercalate parts)

theorem connect_portEntry :
    Listed [plainEntry, portEntry] ["\t zk9", " ", "zk2:02222 "] ∧
    splitHosts (",".intercalate ["\t zk9", " ", "zk2:02222 "]) =
      [("zk9", none), ("zk2", some 2222)] ∧
    ((((new " zk1 ,, zk2:9" 2222 "/store").perform (.change (.puts 3))).connect
      (entryConf ["\t zk9", " ", "zk2:02222 "])).result.toOption =
        some { retries := defaultRetries }) ∧
    (((new "zk2,zk1" 2222 "/store").connect
      (entryConf ["zk2:2222", "zk9", " zk2:2222"])).result.toOption =
        some { retries := defaultRetries }) := by
  have hlisted : Listed [plainEntry, portEntry] ["\t zk9", " ", "zk2:02222 "] := by
    refine .entry "\t " "" rfl (.alone rfl) rfl (.blank rfl ?_)
    have hdigits : Text.readUInt16 "02222" = .ok 2222 := rfl
    exact .entry "" " " rfl
      (.withPort rfl (Text.readUInt16_eq_ok_iff.mp hdigits)) rfl .nil
  have hlisted' : Listed [portEntry, plainEntry, portEntry] ["zk2:2222", "zk9", " zk2:2222"] := by
    have hdigits : Text.readUInt16 "2222" = .ok 2222 := rfl
    have hport : portEntry.Written "zk2:2222" :=
      .withPort rfl (Text.readUInt16_eq_ok_iff.mp hdigits)
    refine .entry "" "" rfl hport rfl ?_
    refine .entry "" "" rfl (.alone rfl) rfl ?_
    exact .entry " " "" rfl hport rfl .nil
  have hfounded : Founded " zk1 ,, zk2:9" 2222 "/store"
      ((new " zk1 ,, zk2:9" 2222 "/store").perform (.change (.puts 3))) := .perform .new _
  have hconf : Addressed (entryConf ["\t zk9", " ", "zk2:02222 "])
      (",".intercalate ["\t zk9", " ", "zk2:02222 "]) none none := ⟨rfl, rfl, rfl⟩
  obtain ⟨hsplit, hconnect⟩ := hfounded.connect_listed hlisted
  obtain ⟨hfound, -, hsame⟩ := hconnect (by simp) _ none none hconf
  have hhosts : (splitHosts " zk1 ,, zk2:9").map Prod.fst = ["zk1", "zk2"] := by decide
  have hhosts' : (splitHosts "zk2,zk1").map Prod.fst = ["zk2", "zk1"] := by decide
  have hopened := hfound ⟨rfl, rfl, portEntry, by simp, by rw [hhosts]; decide, rfl⟩
  have hopened' := hsame (new "zk2,zk1" 2222 "/store") "zk2,zk1" [portEntry, plainEntry, portEntry]
    _ .new hlisted' (by simp [or_comm]) (by simp [hhosts, hhosts', or_comm]) rfl
  have hresult := congrArg (·.result.toOption) hopened
  exact ⟨hlisted, hsplit, hresult, hopened'.trans hresult⟩

end Cluster

end ColumnStore
