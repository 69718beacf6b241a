import BooleanSearch.ConfigFile
import BooleanSearch.Main
import BooleanSearch.Simulated.System
import BooleanSearch.Proofs.Documents.Cursor
import BooleanSearch.Proofs.Documents.Metadata
import BooleanSearch.Proofs.Documents.Reading
import BooleanSearch.Proofs.Documents.Unterminated
import BooleanSearch.Proofs.Query.Composition
import BooleanSearch.Proofs.Query.Conservation
import BooleanSearch.Proofs.Query.InfixForm
import BooleanSearch.Proofs.Query.Listing
import BooleanSearch.Proofs.Query.Progress
import BooleanSearch.Proofs.Query.QuoteSearch
import BooleanSearch.Proofs.Retrieval.Agreement
import BooleanSearch.Proofs.Retrieval.CachedPages
import BooleanSearch.Proofs.Retrieval.Cursors
import BooleanSearch.Proofs.Retrieval.LostPages
import BooleanSearch.Proofs.Retrieval.Ownership
import BooleanSearch.Proofs.Retrieval.Retries
import BooleanSearch.Proofs.Snippet.Fidelity
import BooleanSearch.Proofs.Snippet.Omissions
import BooleanSearch.Proofs.Snippet.OnePass
import BooleanSearch.Proofs.Snippet.Shortest
import BooleanSearch.Proofs.Snippet.Wholeness
import BooleanSearch.Proofs.Search.Accounting
import BooleanSearch.Proofs.Search.Containment
import BooleanSearch.Proofs.Search.Display
import BooleanSearch.Proofs.Search.Equivalence
import BooleanSearch.Proofs.Vocabulary.Entries
import BooleanSearch.Proofs.Wire.Exactness
import BooleanSearch.Proofs.Retrieval.Helpers
import BooleanSearch.Proofs.Retrieval.Overlay
import BooleanSearch.Proofs.Retrieval.HelperPool
