import ColumnStore.Configuration
import ColumnStore.Text.Fields
import ColumnStore.Text.Quoted

/-!
# Configuring a client

A client is given resource files, four named settings and any further settings that override all
others. `validate` checks them before anything is read, and `resolve` lays them over the defaults.
-/

namespace ColumnStore

inductive ConfigFault where
  /-- Neither resource files nor all of the named settings are given. -/
  | incomplete
  | blankQuorum
  | zeroPort
  | blankParent
  | zeroRetries
  | blankOverrideKey
  | emptyOverride (key : String)
  /-- A property is not the number that it should be. -/
  | malformedProperty (name value : String)
  /-- A refusal in the words of someone else. -/
  | custom (message : String)
  deriving DecidableEq, Repr

namespace ConfigFault

def message : ConfigFault → String
  | incomplete =>
    "either resource files or all of quorum, client port, znode parent and client retries must be set"
  | blankQuorum => "zookeeper quorum must not be blank"
  | zeroPort => "zookeeper client port must be in [1, 65535]"
  | blankParent => "zookeeper znode parent must not be blank"
  | zeroRetries => "client retries must be > 0"
  | blankOverrideKey => "override key must not be blank"
  | emptyOverride key => "override " ++ key ++ " has an empty value"
  | malformedProperty name value => "property " ++ name ++ " has invalid value " ++ Text.quoted value
  | custom message => message

end ConfigFault

structure ClientConfig where
  /-- Paths of resource files, separated by commas. -/
  resourceFiles : Option String := none
  quorum : Option String := none
  port : Option UInt16 := none
  parent : Option String := none
  retries : Option UInt32 := none
  /-- Further settings in the order in which they are applied. -/
  overrides : List (String × String) := []
  deriving DecidableEq

namespace ClientConfig

/-! ## Properties -/

/-- The names under which a host passes what a client is given. -/
inductive Property where
  | resourceFiles
  | quorum
  | port
  | parent
  | retries
  deriving DecidableEq, Repr

namespace Property

def name : Property → String
  | resourceFiles => "config-files"
  | quorum => "zookeeper-quorum"
  | port => "zookeeper-client-port"
  | parent => "zookeeper-znode-parent"
  | retries => "client-retries"

def all : List Property :=
  [resourceFiles, quorum, port, parent, retries]

def ofName? (name : String) : Option Property :=
  all.find? (·.name == name)

@[simp] theorem ofName?_name (p : Property) : ofName? p.name = some p := by
  cases p <;> rfl

end Property

/-- Read a number from a property, white space at its ends aside. -/
def readNumber (read : String → Except IntegerFault α) (name value : String) :
    Except ConfigFault α :=
  match read (Text.trim value) with
  | .ok n => .ok n
  | .error _ => .error (.malformedProperty name value)

/-- Take one property into account. Unknown names are overrides. -/
def addProperty (c : ClientConfig) (name value : String) : Except ConfigFault ClientConfig :=
  match Property.ofName? name with
  | some .resourceFiles => .ok { c with resourceFiles := some value }
  | some .quorum => .ok { c with quorum := some value }
  | some .parent => .ok { c with parent := some value }
  | some .port =>
    match readNumber Text.readUInt16 name value with
    | .ok n => .ok { c with port := some n }
    | .error fault => .error fault
  | some .retries =>
    match readNumber Text.readUInt32 name value with
    | .ok n => .ok { c with retries := some n }
    | .error fault => .error fault
  | none => .ok { c with overrides := c.overrides ++ [(name, value)] }

/-- What a client is given by properties, taken in ascending order of name. -/
def ofProperties (properties : OrderedMap String String) : Except ConfigFault ClientConfig :=
  properties.entries.foldlM (fun c property ↦ c.addProperty property.1 property.2) {}

/-! ## Checking -/

/-- Whether a list of paths has more to it than white space. -/
def hasFiles (c : ClientConfig) : Bool :=
  c.resourceFiles.any (!Text.isAllBlank ·)

def hasAllNamed (c : ClientConfig) : Bool :=
  c.quorum.isSome && c.port.isSome && c.parent.isSome && c.retries.isSome

def overrideFault? : List (String × String) → Option ConfigFault
  | [] => none
  | (key, value) :: rest =>
    if Text.isAllBlank key then some .blankOverrideKey
    else if value.isEmpty then some (.emptyOverride key)
    else overrideFault? rest

def fault? (c : ClientConfig) : Option ConfigFault :=
  if !c.hasFiles && !c.hasAllNamed then some .incomplete
  else if c.quorum.any Text.isAllBlank then some .blankQuorum
  else if c.port = some 0 then some .zeroPort
  else if c.parent.any Text.isAllBlank then some .blankParent
  else if c.retries = some 0 then some .zeroRetries
  else overrideFault? c.overrides

def validate (c : ClientConfig) : Except ConfigFault Unit :=
  match c.fault? with
  | some fault => .error fault
  | none => .ok ()

/-! ## Resolving -/

/-- The paths of the resource files in order, blank ones left out. -/
def resourcePaths (c : ClientConfig) : List String :=
  match c.resourceFiles with
  | none => []
  | some files => ((Text.split ',' files).map Text.trim).filter (!·.isEmpty)

def layer (c : Configuration) (key : String) : Option String → Configuration
  | none => c
  | some value => c.set key value

def applyNamed (c : ClientConfig) (conf : Configuration) : Configuration :=
  let conf := layer conf Setting.quorum c.quorum
  let conf := layer conf Setting.clientPort (c.port.map (·.toNat.repr))
  let conf := layer conf Setting.znodeParent c.parent
  layer conf Setting.retries (c.retries.map (·.toNat.repr))

def applyOverrides (c : ClientConfig) (conf : Configuration) : Configuration :=
  c.overrides.foldl (fun conf entry ↦ conf.set entry.1 entry.2) conf

/-- The configuration for a store: the defaults, then the resource files, then the named settings,
then the overrides. -/
def resolve (c : ClientConfig) (files : Files) : Except StoreError Configuration :=
  match Configuration.defaults.loadAll files c.resourcePaths with
  | .error e => .error e
  | .ok conf => .ok (c.applyOverrides (c.applyNamed conf))

end ClientConfig

end ColumnStore
