import ColumnStore.Store

/-!
# Replayed rows

A store that returns prepared rows to every scan, empty ones included, and that fails where it is
told to. It counts how often scanners and connections are closed.
-/

namespace ColumnStore

namespace Replay

/-- What a replaying store does when it is asked for its tables. -/
inductive Health where
  | sound
  /-- Its connections count as closed. -/
  | closed
  /-- It has no table of tables, and closing a connection reports an error. -/
  | broken
  deriving DecidableEq, Repr

/-- The rows still to return, and how many were asked for. -/
structure Scanner where
  rows : List RowResult
  fetches : Nat := 0

end Replay

structure Replay where
  rows : List RowResult
  /-- The number of the request for a row that fails, counted from zero. -/
  failAt : Option Nat := none
  health : Replay.Health := .sound
  scannerCloses : Nat := 0
  connectionCloses : Nat := 0

namespace Replay

def next (r : Replay) (s : Scanner) : Except StoreError (Option RowResult) × Scanner :=
  if r.failAt = some s.fetches then (.error .connectionClosed, { s with fetches := s.fetches + 1 })
  else
    match s.rows with
    | [] => (.ok none, { s with fetches := s.fetches + 1 })
    | row :: rows => (.ok (some row), { rows, fetches := s.fetches + 1 })

theorem length_next_lt {r : Replay} {s : Scanner} {row : RowResult}
    (h : (r.next s).1 = .ok (some row)) : (r.next s).2.rows.length < s.rows.length := by
  unfold next at h ⊢
  split at h
  · cases h
  · next hsound =>
    split at h
    · cases h
    · next hrows => simp [hsound, hrows]

end Replay

instance : Store Replay where
  Connection := Unit
  Table := Unit
  Scanner := Replay.Scanner
  connect r _ := { result := .ok (), state := r }
  listTables r _ :=
    match r.health with
    | .sound => .ok ["t"]
    | .closed => .error .connectionClosed
    | .broken => .error (.tableNotFound "meta")
  close r _ :=
    { result := if r.health = .broken then .error .connectionClosed else .ok ()
      state := { r with connectionCloses := r.connectionCloses + 1 } }
  openTable r _ _ := { result := .ok (), state := r }
  releaseTable r _ := r
  put r _ _ _ := { result := .ok (), state := r }
  openScanner r _ _ := { result := .ok { rows := r.rows }, state := r }
  next := Replay.next
  closeScanner r _ := { r with scannerCloses := r.scannerCloses + 1 }
  remaining _ s := s.rows.length
  remaining_next_lt := Replay.length_next_lt

end ColumnStore
