import SourceAtlas.Outline.Record
import SourceAtlas.Pattern.Reader
import SourceAtlas.Pool
import SourceAtlas.Proofs.Batch.Transitions
import SourceAtlas.Proofs.Batch.Ledger
import SourceAtlas.Proofs.Batch.Ending
import SourceAtlas.Proofs.Batch.Coverage
import SourceAtlas.Proofs.Extraction.Fresh
import SourceAtlas.Proofs.Pairing.Permutation
import SourceAtlas.Proofs.Batch.Schedules
import SourceAtlas.Proofs.Signature.Normalize
import SourceAtlas.Proofs.Signature.Commas
import SourceAtlas.Proofs.Signature.Types
import SourceAtlas.Proofs.Signature.Agreement
import SourceAtlas.Proofs.Calls.Grounded
import SourceAtlas.Proofs.Calls.Languages
import SourceAtlas.Proofs.Calls.Attribution
import SourceAtlas.Proofs.Merge.Distinct
import SourceAtlas.Proofs.Merge.Symbols
import SourceAtlas.Proofs.Pairing.Snapshot
import SourceAtlas.Proofs.Spans.Located
import SourceAtlas.Proofs.Spans.Languages
import SourceAtlas.Proofs.Extraction.Outcome
import SourceAtlas.Proofs.Spans.Nesting
import SourceAtlas.Proofs.Merge.Callers
import SourceAtlas.Proofs.Unmarked.Trees
import SourceAtlas.Proofs.Unmarked.Views
import SourceAtlas.Proofs.Unmarked.Languages
import SourceAtlas.Proofs.Unmarked.CFamily
import SourceAtlas.Proofs.Extraction.Marks
import SourceAtlas.Proofs.Import.ModuleMemory
import SourceAtlas.Proofs.Outline.Records
import SourceAtlas.Proofs.Signature.Methods
import SourceAtlas.Proofs.Outline.Lookup
import SourceAtlas.Proofs.Pairing.Links
import SourceAtlas.Proofs.Signature.Parameters
import SourceAtlas.Proofs.Signature.Unnamed
import SourceAtlas.Proofs.Signature.NormalForm
import SourceAtlas.Proofs.Signature.Rejoining
import SourceAtlas.Proofs.Pairing.Union
import SourceAtlas.Proofs.Signature.Signs
import SourceAtlas.Proofs.Tree.Addresses
import SourceAtlas.Proofs.Symbols.Origins
import SourceAtlas.Proofs.Symbols.Division
import SourceAtlas.Proofs.Symbols.TypeDeclarations
import SourceAtlas.Proofs.Calls.Selectors
import SourceAtlas.Proofs.Text.Heads
import SourceAtlas.Proofs.Tree.Blame
import SourceAtlas.Proofs.Import.Segments
import SourceAtlas.Proofs.Symbols.Packages
import SourceAtlas.Proofs.Text.Comments
import SourceAtlas.Proofs.Import.ModuleDirective
import SourceAtlas.Proofs.Import.WrittenPaths
import SourceAtlas.Proofs.Edges.Usages
import SourceAtlas.Proofs.Pairing.Candidates
import SourceAtlas.Proofs.Tree.Preorder
