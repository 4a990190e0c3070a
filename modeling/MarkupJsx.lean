import MarkupJsx.Main
import MarkupJsx.Script.InsertionSort
import MarkupJsx.Proofs.Conversion.Compatible
import MarkupJsx.Proofs.Conversion.Effects
import MarkupJsx.Proofs.Conversion.Outcome
import MarkupJsx.Proofs.Conversion.Rules
import MarkupJsx.Proofs.Conversion.Outline
import MarkupJsx.Proofs.Script.Dealing
import MarkupJsx.Proofs.Script.Nodes
import MarkupJsx.Proofs.Script.Settling
import MarkupJsx.Proofs.Script.InOrder
import MarkupJsx.Proofs.Script.StableSort
import MarkupJsx.Proofs.Script.Positions
import MarkupJsx.Proofs.Script.Offsets
import MarkupJsx.Proofs.Script.FirstFit
import MarkupJsx.Proofs.Script.Frame
import MarkupJsx.Proofs.Conversion.Collected
import MarkupJsx.Proofs.Conversion.Faults
import MarkupJsx.Proofs.Conversion.DepthLimit
import MarkupJsx.Proofs.Conversion.Removal
import MarkupJsx.Proofs.Conversion.Assembly
import MarkupJsx.Proofs.Conversion.Embedded
import MarkupJsx.Proofs.Conversion.Scoping
import MarkupJsx.Proofs.Conversion.Blanked
import MarkupJsx.Proofs.Style.ValueText
import MarkupJsx.Proofs.Style.Layout
import MarkupJsx.Proofs.Style.Reading
import MarkupJsx.Proofs.Style.Written
import MarkupJsx.Proofs.Style.Cleaning
import MarkupJsx.Proofs.Style.Fashions
import MarkupJsx.Proofs.Conversion.StyleForms
import MarkupJsx.Proofs.Conversion.WellFormed
import MarkupJsx.Proofs.Script.ReadBack
import MarkupJsx.Proofs.Jsx.Faithful
import MarkupJsx.Proofs.Conversion.Naming
import MarkupJsx.Proofs.Tree.Locality
import MarkupJsx.Proofs.Conversion.ListStyles
import MarkupJsx.Proofs.Script.Siblings
import MarkupJsx.Proofs.Vocabulary.Rows
import MarkupJsx.Proofs.Vocabulary.DataNames
import MarkupJsx.Proofs.Vocabulary.WrittenNames
import MarkupJsx.Proofs.Text.Trimming
import MarkupJsx.Proofs.Text.TokenReading
import MarkupJsx.Proofs.Conversion.OuterWhitespace
import MarkupJsx.Proofs.Tree.Attached
import MarkupJsx.Proofs.Decimal.Rounding
import MarkupJsx.Proofs.Decimal.Shortest
import MarkupJsx.Proofs.Decimal.Numeral
import MarkupJsx.Proofs.Decimal.AttributeText
import MarkupJsx.Proofs.Jsx.NameParts
import MarkupJsx.Proofs.Style.Backtracking
import MarkupJsx.Proofs.Tree.Spans
