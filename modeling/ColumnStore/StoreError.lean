import ColumnStore.Cell

/-!
# Errors of a store

Each way in which a store can fail, with its wording in `StoreError.message`.
-/

namespace ColumnStore

inductive IoKind where
  | notFound
  | permissionDenied
  | connectionRefused
  | connectionReset
  | brokenPipe
  | timedOut
  | invalidData
  | unexpectedEnd
  | other
  deriving DecidableEq, Repr

namespace IoKind

def message : IoKind → String
  | notFound => "entity not found"
  | permissionDenied => "permission denied"
  | connectionRefused => "connection refused"
  | connectionReset => "connection reset"
  | brokenPipe => "broken pipe"
  | timedOut => "timed out"
  | invalidData => "invalid data"
  | unexpectedEnd => "unexpected end of file"
  | other => "other error"

end IoKind

inductive StoreError where
  | io (kind : IoKind) (text : String)
  /-- A resource file could not be read, or does not hold settings. -/
  | resource (path reason : String)
  /-- A setting is missing or malformed. -/
  | invalidConfig (key reason : String)
  /-- No cluster answers at the given coordinates. -/
  | unreachable (quorum : String) (port : UInt16) (parent : String)
  | connectionClosed
  | tableNotFound (table : String)
  | tableExists (table : String)
  | noSuchColumnFamily (table family : String)
  | oversizedField (fault : Oversized)
  /-- Every attempt that the retry setting allows failed, the last one with `last`. -/
  | retriesExhausted (attempts : Nat) (last : StoreError)
  deriving DecidableEq

namespace StoreError

def message : StoreError → String
  | io kind text => "I/O error: " ++ text ++ " (" ++ kind.message ++ ")"
  | resource path reason => "configuration resource " ++ path ++ ": " ++ reason
  | invalidConfig key reason => "invalid configuration value for `" ++ key ++ "`: " ++ reason
  | unreachable quorum port parent =>
    "cluster unreachable at quorum `" ++ quorum ++ "` port " ++ port.toNat.repr ++
      " parent `" ++ parent ++ "`"
  | connectionClosed => "connection is closed"
  | tableNotFound table => "table `" ++ table ++ "` does not exist"
  | tableExists table => "table `" ++ table ++ "` already exists"
  | noSuchColumnFamily table family =>
    "column family `" ++ family ++ "` does not exist in table `" ++ table ++ "`"
  | oversizedField fault =>
    "cell " ++ fault.part.name ++ " too large: " ++ fault.size.repr ++
      " bytes exceeds limit of " ++ fault.part.limit.repr ++ " bytes"
  | retriesExhausted attempts last =>
    "operation failed after " ++ attempts.repr ++ " attempts: " ++ last.message

end StoreError

end ColumnStore
