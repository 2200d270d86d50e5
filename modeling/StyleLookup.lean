import StyleLookup.CallSite.Argument
import StyleLookup.CallSite.Call
import StyleLookup.Command.Arguments
import StyleLookup.Command.Program
import StyleLookup.Command.Request
import StyleLookup.Css.Component
import StyleLookup.Css.Fault
import StyleLookup.Css.Item
import StyleLookup.Css.Lexer
import StyleLookup.Css.Numeral
import StyleLookup.Css.Reading
import StyleLookup.Css.Stylesheet
import StyleLookup.Css.Token
import StyleLookup.Decimal.Shortest
import StyleLookup.Files.FileSystem
import StyleLookup.Files.Import
import StyleLookup.Files.Path
import StyleLookup.Files.Tree
import StyleLookup.Literal.Layout
import StyleLookup.Literal.Script
import StyleLookup.Literal.Serializer
import StyleLookup.Literal.Value
import StyleLookup.Main
import StyleLookup.Matcher.Basic
import StyleLookup.Matcher.Flags
import StyleLookup.Output.CamelCase
import StyleLookup.Output.Format
import StyleLookup.Output.Formatted
import StyleLookup.Pattern.ClassReader
import StyleLookup.Pattern.Compiled
import StyleLookup.Pattern.Escape
import StyleLookup.Pattern.Expression
import StyleLookup.Pattern.Fault
import StyleLookup.Pattern.Machine
import StyleLookup.Pattern.Matching
import StyleLookup.Pattern.Meaning
import StyleLookup.Pattern.Reader
import StyleLookup.Pattern.Regex
import StyleLookup.Pattern.Scan
import StyleLookup.Pattern.Size
import StyleLookup.Pattern.Syntax
import StyleLookup.Resolution
import StyleLookup.Text.Blank
import StyleLookup.Text.Hexadecimal
import StyleLookup.Text.Location
import StyleLookup.Text.Pieces
import StyleLookup.Text.Quoted
import StyleLookup.Text.Terminal
import StyleLookup.Unicode.Age
import StyleLookup.Unicode.Category
import StyleLookup.Unicode.Encoding
import StyleLookup.Unicode.Folding
import StyleLookup.Unicode.Invisible
import StyleLookup.Unicode.Property
import StyleLookup.Unicode.Query
import StyleLookup.Unicode.Scalars
import StyleLookup.Unicode.Script
import StyleLookup.Unicode.Segmentation
import StyleLookup.Unicode.Uppercase
import StyleLookup.Proofs.Nesting
import StyleLookup.Proofs.Grammar
import StyleLookup.Proofs.Acceptance
import StyleLookup.Proofs.Lookahead
import StyleLookup.Proofs.LookaheadQuoted
import StyleLookup.Proofs.TokenBoundary
import StyleLookup.Proofs.Concatenation
import StyleLookup.Proofs.TokenEnds
import StyleLookup.Proofs.TrimmedRow
import StyleLookup.Proofs.DeclarationRoundTrip
import StyleLookup.Proofs.LiteralReader
import StyleLookup.Proofs.LiteralRoundTrip
import StyleLookup.Proofs.JsonReader
import StyleLookup.Proofs.WrittenForms
import StyleLookup.Proofs.Calls
import StyleLookup.Proofs.OptionValues
import StyleLookup.Proofs.RegExpGetters
import StyleLookup.Proofs.CommandLine
import StyleLookup.Proofs.ReturnedValues
import StyleLookup.Proofs.FlagLetters
import StyleLookup.Proofs.GlobalSearch
import StyleLookup.Proofs.PatternReading
import StyleLookup.Proofs.LiteralPattern
import StyleLookup.Proofs.PathSteps
import StyleLookup.Proofs.PackageChain
import StyleLookup.Proofs.ObjectInitializer
import StyleLookup.Proofs.StoredText
import StyleLookup.Proofs.Seam
import StyleLookup.Proofs.LeadingLayout
import StyleLookup.Proofs.SelectorList
import StyleLookup.Proofs.InPlace
import StyleLookup.Proofs.PlacesInText
import StyleLookup.Proofs.FaultPlace
import StyleLookup.Proofs.LayoutText
import StyleLookup.Proofs.Relayout
import StyleLookup.Proofs.RelaidStylesheet
import StyleLookup.Proofs.PlacelessPattern
import StyleLookup.Proofs.PatternTail
import StyleLookup.Proofs.EscapeTail
import StyleLookup.Proofs.RangeTail
import StyleLookup.Proofs.ClassTail
import StyleLookup.Proofs.GroupTail
import StyleLookup.Proofs.AnchoredPattern
import StyleLookup.Proofs.StickyPattern
import StyleLookup.Proofs.HeadedPattern
import StyleLookup.Proofs.InlineFlags
import StyleLookup.Proofs.HyphenRuns
import StyleLookup.Proofs.KebabNames
import StyleLookup.Proofs.ListedSelectors
import StyleLookup.Proofs.CallerSpelling
