import ColumnStore.Session
import ColumnStore.Store.Replay
import ColumnStore.Proofs.History
import ColumnStore.Proofs.Scanning
import ColumnStore.Proofs.Delivery
import ColumnStore.Proofs.Grouping
import ColumnStore.Proofs.ReadYourWrites
import ColumnStore.Proofs.ExactlyOnce
import ColumnStore.Proofs.FilterGrammar
import ColumnStore.Proofs.CellLayout
import ColumnStore.Proofs.Atomicity
import ColumnStore.Proofs.Lowercase
import ColumnStore.Proofs.FilterLayout
import ColumnStore.Proofs.FilterRoundTrip
import ColumnStore.Proofs.Interleaving
import ColumnStore.Proofs.ClosedConnections
import ColumnStore.Proofs.Lifecycle
import ColumnStore.Proofs.Deduplication
import ColumnStore.Proofs.Feeding
import ColumnStore.Proofs.Representation
import ColumnStore.Proofs.Batching
import ColumnStore.Proofs.Handles
import ColumnStore.Proofs.FilterStability
import ColumnStore.Proofs.FinalSigma
import ColumnStore.Proofs.Retries
import ColumnStore.Proofs.SubstringFilters
import ColumnStore.Proofs.TimeBounds
import ColumnStore.Proofs.Repetition
import ColumnStore.Proofs.Regrouping
import ColumnStore.Proofs.Validation
import ColumnStore.Proofs.Layers
import ColumnStore.Proofs.FilterEquivalence
import ColumnStore.Proofs.ScanEquivalence
import ColumnStore.Proofs.RedundantParentheses
import ColumnStore.Proofs.KeysOnly
import ColumnStore.Proofs.Loading
import ColumnStore.Proofs.PrefixOrder
import ColumnStore.Proofs.ColumnSelection
import ColumnStore.Proofs.Commits
import ColumnStore.Proofs.RecordViews
import ColumnStore.Proofs.TokenPlaces
import ColumnStore.Proofs.CheckedScanning
import ColumnStore.Proofs.CheckedParsing
import ColumnStore.Proofs.FaultPositions
import ColumnStore.Proofs.RefusedTokens
import ColumnStore.Proofs.Tallies
import ColumnStore.Proofs.HostLists
import ColumnStore.Proofs.PropertyMaps
import ColumnStore.Proofs.BoundedParsing
