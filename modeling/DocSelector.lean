import DocSelector.Main
import DocSelector.Proofs.Coverage
import DocSelector.Proofs.Location
import DocSelector.Proofs.Grammar
import DocSelector.Proofs.EditScript
import DocSelector.Scan
import DocSelector.Proofs.FirstError
import DocSelector.Proofs.Quotation
import DocSelector.Proofs.OnePass
import DocSelector.Proofs.Ranking
import DocSelector.Proofs.Concatenation
import DocSelector.Proofs.Lineage
import DocSelector.Proofs.Request
import DocSelector.Proofs.Agreement
import DocSelector.Proofs.Closing
import DocSelector.Proofs.OpenQuote
import DocSelector.Proofs.Decoding
import DocSelector.Proofs.Recovery
import DocSelector.Proofs.Metric
import DocSelector.Proofs.Nearest
import DocSelector.Proofs.Excerpt
import DocSelector.Proofs.KeywordWarnings
import DocSelector.Proofs.Unquoting
import DocSelector.Proofs.TokenTable
import DocSelector.Proofs.NotFound
import DocSelector.Proofs.Likeness
import DocSelector.Proofs.TypoBudget
import DocSelector.Proofs.Spacing
import DocSelector.Proofs.CursorWalk
import DocSelector.Proofs.FullTable
