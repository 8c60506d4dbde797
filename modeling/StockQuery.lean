import StockQuery.Main
import StockQuery.Proofs.Grammar
import StockQuery.Proofs.Reading
import StockQuery.Proofs.Series
import StockQuery.Proofs.Choices
import StockQuery.Proofs.Wording
import StockQuery.Proofs.Markup
import StockQuery.Proofs.Marks
import StockQuery.Proofs.Bindings
import StockQuery.Proofs.Ranking
import StockQuery.Proofs.Size
import StockQuery.Proofs.Enumeration
import StockQuery.Proofs.Thinning
import StockQuery.Proofs.Places
import StockQuery.Proofs.Shape
import StockQuery.Proofs.Faults
import StockQuery.Proofs.ViablePrefix
import StockQuery.Proofs.Juxtaposition
import StockQuery.Proofs.Spelling
import StockQuery.Proofs.OneLine
import StockQuery.Proofs.Discipline
import StockQuery.Proofs.NormalForm
import StockQuery.Proofs.Reports
import StockQuery.Proofs.Unambiguous
import StockQuery.Proofs.Brackets
import StockQuery.Proofs.Agreement
import StockQuery.Proofs.Hollow
import StockQuery.Proofs.Vocabulary
import StockQuery.Proofs.Kinds
import StockQuery.Proofs.Limit
import StockQuery.Proofs.Outcome
import StockQuery.Proofs.Paths
import StockQuery.Proofs.Layering
import StockQuery.Proofs.Acceptance
import StockQuery.Proofs.Headings
import StockQuery.Proofs.Columns
import StockQuery.Proofs.LineBreaks
import StockQuery.Proofs.Routing
import StockQuery.Proofs.Registry
import StockQuery.Proofs.Escaping
import StockQuery.Proofs.Progress
