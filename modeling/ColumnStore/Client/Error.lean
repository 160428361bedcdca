import ColumnStore.Client.Config
import ColumnStore.Filter.Token

/-!
# Errors of a client

Each way in which a call of a client can fail, with its wording in `ClientError.message`.
-/

namespace ColumnStore

inductive ClientError where
  /-- The configuration was refused before any attempt to connect. -/
  | configValidation (fault : ConfigFault)
  /-- No connection could be set up, or the cluster did not answer. -/
  | connection (source : StoreError)
  /-- The service is in a state that does not allow the operation. -/
  | invalidState (operation state : String)
  | notEnabled
  /-- A filter expression was refused, and nothing was scanned. -/
  | filterParse (expression : String) (source : FilterError)
  /-- A batch with some number of rows was not written. -/
  | write (table : String) (rows : Nat) (source : StoreError)
  /-- A scanner could not be opened, or did not return a row. -/
  | scanIteration (table : String) (source : StoreError)
  /-- The handler of rows gave up, for a reason of its own. -/
  | handler (table reason : String)
  deriving DecidableEq

namespace ClientError

def message (explain : String → String) : ClientError → String
  | configValidation fault => "invalid client configuration: " ++ fault.message
  | connection source => "could not establish store connection: " ++ source.message
  | invalidState operation state => "cannot " ++ operation ++ " while service is " ++ state
  | notEnabled => "service is not enabled"
  | filterParse expression source =>
    "malformed filter expression " ++ Text.quoted expression ++ ": " ++ source.message explain
  | write table rows source =>
    "write of " ++ rows.repr ++ " row(s) to table " ++ table ++ " failed: " ++ source.message
  | scanIteration table source => "scan of table " ++ table ++ " failed: " ++ source.message
  | handler table reason => "result handler aborted scan of table " ++ table ++ ": " ++ reason

def sourceMessage? (explain : String → String) : ClientError → Option String
  | connection source | write _ _ source | scanIteration _ source => some source.message
  | filterParse _ source => some (source.message explain)
  | handler _ reason => some reason
  | configValidation _ | invalidState _ _ | notEnabled => none

end ClientError

end ColumnStore
