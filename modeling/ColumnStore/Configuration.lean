import ColumnStore.Files
import ColumnStore.Json.Parser
import ColumnStore.StoreError
import ColumnStore.Text.Blank
import ColumnStore.Text.Integer

/-!
# Configurations

A configuration maps the names of settings to texts. It starts from defaults; resource files and
single settings are laid over it one after the other, and a later setting replaces an earlier one.
A resource file holds an object whose fields are taken in ascending order, up to the first one that
is no text, number or truth value.
-/

namespace ColumnStore

namespace Setting

/-- The hosts of a cluster, separated by commas, each perhaps with a port. -/
def quorum : String := "hbase.zookeeper.quorum"

/-- The port of the hosts that are given without one. -/
def clientPort : String := "hbase.zookeeper.property.clientPort"

/-- The path under which a cluster keeps its coordination data. -/
def znodeParent : String := "zookeeper.znode.parent"

/-- How often a failed operation is tried again. -/
def retries : String := "hbase.client.retries.number"

end Setting

/-- Settings, and the resource files that were applied to them in order. -/
structure Configuration where
  settings : OrderedMap String String := ∅
  resources : List String := []
  deriving DecidableEq

namespace Configuration

def empty : Configuration := {}

def defaults : Configuration where
  settings := .ofList [(Setting.quorum, "localhost"), (Setting.clientPort, "2181"),
    (Setting.znodeParent, "/hbase"), (Setting.retries, "35")]

def get? (c : Configuration) (key : String) : Option String :=
  c.settings.get? key

/-- Give a setting a text, in place of an earlier one. -/
def set (c : Configuration) (key value : String) : Configuration :=
  { c with settings := c.settings.insert key value }

def unset (c : Configuration) (key : String) : Configuration :=
  { c with settings := c.settings.erase key }

@[simp] theorem get?_set_self (c : Configuration) (key value : String) :
    (c.set key value).get? key = some value :=
  OrderedMap.get?_insert_self ..

theorem get?_set_of_ne (c : Configuration) {key key' : String} (h : key' ≠ key) (value : String) :
    (c.set key value).get? key' = c.get? key' :=
  OrderedMap.get?_insert_of_ne _ h _

@[simp] theorem resources_set (c : Configuration) (key value : String) :
    (c.set key value).resources = c.resources := rfl

/-! ## Numbers -/

/-- Read the text of a setting as a number, white space at its ends aside. -/
def number? (c : Configuration) (read : String → Except IntegerFault α) (kind key : String) :
    Except StoreError (Option α) :=
  match c.get? key with
  | none => .ok none
  | some raw =>
    match read (Text.trim raw) with
    | .ok n => .ok (some n)
    | .error fault =>
      .error (.invalidConfig key ("`" ++ raw ++ "` is not a " ++ kind ++ ": " ++ fault.message))

def port? (c : Configuration) (key : String) : Except StoreError (Option UInt16) :=
  c.number? Text.readUInt16 "valid port" key

def count? (c : Configuration) (key : String) : Except StoreError (Option UInt32) :=
  c.number? Text.readUInt32 "non-negative integer" key

/-! ## Resource files -/

def settingText? : Json.Value → Option String
  | .string s => some s
  | .number n => some n.text
  | .bool b => some (if b then "true" else "false")
  | .null | .array _ | .object _ => none

def nonScalar (key : String) (v : Json.Value) : String :=
  "setting `" ++ key ++ "` has non-scalar value " ++ v.text

/-- Apply fields up to the first one that is refused, with the reason if there is one. -/
def applyFields (c : Configuration) : List (String × Json.Value) → Configuration × Option String
  | [] => (c, none)
  | (key, v) :: fields =>
    match settingText? v with
    | none => (c, some (nonScalar key v))
    | some text => applyFields (c.set key text) fields

/-- The fields of a document, or the reason why it has none. A text that is no document at all is
explained by its reader. -/
def documentFields (explain : List Char → String) (document : List Char) :
    Except String (List (String × Json.Value)) :=
  match Json.Value.read? document with
  | none => .error (explain document)
  | some (.object fields) => .ok fields
  | some _ => .error "top-level value must be an object"

/-- Apply a resource file. A file that is refused is not listed, but those of its settings that come
before the refused one stay. -/
def load (c : Configuration) (files : Files) (path : String) :
    Configuration × Except StoreError Unit :=
  match files.readText path with
  | .error reason => (c, .error (.resource path reason))
  | .ok document =>
    match documentFields files.explain document with
    | .error reason => (c, .error (.resource path reason))
    | .ok fields =>
      match c.applyFields fields with
      | (c, some reason) => (c, .error (.resource path reason))
      | (c, none) => ({ c with resources := c.resources ++ [path] }, .ok ())

/-- Apply resource files in order, up to the first one that is refused. -/
def loadAll (c : Configuration) (files : Files) : List String → Except StoreError Configuration
  | [] => .ok c
  | path :: paths =>
    match c.load files path with
    | (_, .error e) => .error e
    | (c, .ok ()) => loadAll c files paths

end Configuration

end ColumnStore
