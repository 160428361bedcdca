import ColumnStore.Configuration
import ColumnStore.Event
import ColumnStore.Put
import ColumnStore.Scan

/-!
# Stores

What a client needs of a store: to connect, to ask for the tables, to write a batch and to scan.
Every operation takes the state of the store and returns the next one.
-/

namespace ColumnStore

/-- The operations of a store with states `σ`. -/
class Store (σ : Type) where
  Connection : Type
  Table : Type
  Scanner : Type
  connect : σ → Configuration → Step σ (Except StoreError Connection)
  listTables : σ → Connection → Except StoreError (List String)
  close : σ → Connection → Step σ (Except StoreError Unit)
  openTable : σ → Connection → String → Step σ (Except StoreError Table)
  releaseTable : σ → Table → σ
  put : σ → Table → Timestamp → List Put → Step σ (Except StoreError Unit)
  openScanner : σ → Table → Scan → Step σ (Except StoreError Scanner)
  /-- The next row, or nothing at the end, and the scanner after it. -/
  next : σ → Scanner → Except StoreError (Option RowResult) × Scanner
  closeScanner : σ → Scanner → σ
  /-- How many rows a scanner can still return. -/
  remaining : σ → Scanner → Nat
  remaining_next_lt : ∀ {store : σ} {scanner : Scanner} {row : RowResult},
    (next store scanner).1 = .ok (some row) →
      remaining store (next store scanner).2 < remaining store scanner

end ColumnStore
