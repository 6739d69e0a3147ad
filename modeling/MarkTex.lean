import MarkTex.Document.Trace
import MarkTex.Main
import MarkTex.Report
import MarkTex.Proofs.Latex.Composition
import MarkTex.Proofs.Latex.Escape
import MarkTex.Proofs.Latex.NativeMath
import MarkTex.Proofs.Latex.ControlSequences
import MarkTex.Proofs.Latex.Environments
import MarkTex.Proofs.Latex.Braces
import MarkTex.Proofs.Markdown.Separators
import MarkTex.Proofs.Markdown.Conversion
import MarkTex.Proofs.Markdown.ContentModel
import MarkTex.Proofs.Markdown.Collection
import MarkTex.Proofs.Markdown.Formulas
import MarkTex.Proofs.Latex.KeptText
import MarkTex.Proofs.Markdown.CarriedText
import MarkTex.Proofs.Latex.Targets
import MarkTex.Proofs.Host.View
import MarkTex.Proofs.Latex.Verbatim
import MarkTex.Proofs.Markdown.Dropped
import MarkTex.Proofs.Files.Resolution
import MarkTex.Proofs.Convert.Source
import MarkTex.Proofs.Config.Search
import MarkTex.Proofs.Command.Frame
import MarkTex.Proofs.Command.Denials
import MarkTex.Proofs.Settings.Layers
import MarkTex.Proofs.Command.Resolved
import MarkTex.Proofs.Encoding.Utf8
import MarkTex.Proofs.Files.Apart
import MarkTex.Proofs.Convert.Routes
import MarkTex.Proofs.Config.SearchFailures
import MarkTex.Proofs.Command.Endings
import MarkTex.Proofs.Latex.Pairing
import MarkTex.Proofs.Latex.FinishedParts
import MarkTex.Proofs.Latex.FormulaEnds
import MarkTex.Proofs.Latex.Unescape
import MarkTex.Proofs.Latex.RepeatedEscape
import MarkTex.Proofs.Convert.FailedConversions
import MarkTex.Proofs.Latex.TableCells
import MarkTex.Proofs.Latex.Outline
import MarkTex.Proofs.Markdown.SiblingBlocks
import MarkTex.Proofs.Markdown.LineBreaks
import MarkTex.Proofs.Markdown.Neighbours
import MarkTex.Proofs.Latex.Aspect
import MarkTex.Proofs.Latex.Wrappers
import MarkTex.Proofs.Latex.TextRuns
import MarkTex.Proofs.Entity.OpenReferences
import MarkTex.Proofs.Markdown.LiteralText
import MarkTex.Proofs.Html.ElementNames
import MarkTex.Proofs.Html.CharacterData
import MarkTex.Proofs.Config.Nearest
import MarkTex.Proofs.Command.RefusedOptions
import MarkTex.Proofs.Convert.ReadBack
import MarkTex.Proofs.Encoding.Spellings
import MarkTex.Proofs.Markdown.HtmlNeeded
import MarkTex.Proofs.Document.Walk
import MarkTex.Proofs.Document.BlankEdges
import MarkTex.Proofs.Package.Unmet
