import GirTypings.CommandLine.Arguments
import GirTypings.CommandLine.Run
import GirTypings.Decimal
import GirTypings.Declaration.Callable
import GirTypings.Declaration.Comment
import GirTypings.Declaration.Constant
import GirTypings.Declaration.Enumeration
import GirTypings.Declaration.Header
import GirTypings.Declaration.Layout
import GirTypings.Declaration.Literal
import GirTypings.Declaration.Property
import GirTypings.Declaration.Shell
import GirTypings.Files.Path
import GirTypings.Files.Pattern
import GirTypings.Files.Source
import GirTypings.Files.Tree
import GirTypings.Files.Wildcard
import GirTypings.FirstUse
import GirTypings.Gir.Class
import GirTypings.Gir.Doc
import GirTypings.Gir.Document
import GirTypings.Gir.Element
import GirTypings.Gir.Member
import GirTypings.Gir.Signature
import GirTypings.Journal
import GirTypings.Json
import GirTypings.Json.Reader
import GirTypings.Main
import GirTypings.Module
import GirTypings.Naming.CamelCase
import GirTypings.Naming.Identifier
import GirTypings.NativeType
import GirTypings.Proofs.Accessor
import GirTypings.Proofs.Annotation
import GirTypings.Proofs.Backslash
import GirTypings.Proofs.BareLines
import GirTypings.Proofs.CamelCase
import GirTypings.Proofs.CamelForm
import GirTypings.Proofs.CommentEnd
import GirTypings.Proofs.Conservation
import GirTypings.Proofs.Constructor
import GirTypings.Proofs.DecimalNotation
import GirTypings.Proofs.Decoding
import GirTypings.Proofs.Delivery
import GirTypings.Proofs.DocText
import GirTypings.Proofs.EnumerationMember
import GirTypings.Proofs.Export
import GirTypings.Proofs.FailureLine
import GirTypings.Proofs.FileTree
import GirTypings.Proofs.FirstOccurrence
import GirTypings.Proofs.Grounding
import GirTypings.Proofs.IdentifierGrammar
import GirTypings.Proofs.Import
import GirTypings.Proofs.Isolation
import GirTypings.Proofs.LegalName
import GirTypings.Proofs.MemberGroup
import GirTypings.Proofs.ModuleName
import GirTypings.Proofs.NumberLiteral
import GirTypings.Proofs.OneLine
import GirTypings.Proofs.OneLineValues
import GirTypings.Proofs.Outcome
import GirTypings.Proofs.Outline
import GirTypings.Proofs.Paragraph
import GirTypings.Proofs.Parameter
import GirTypings.Proofs.PassNumber
import GirTypings.Proofs.Precedence
import GirTypings.Proofs.Provenance
import GirTypings.Proofs.Qualifier
import GirTypings.Proofs.Quoting
import GirTypings.Proofs.Reading
import GirTypings.Proofs.Reference
import GirTypings.Proofs.Reordering
import GirTypings.Proofs.Retention
import GirTypings.Proofs.Row
import GirTypings.Proofs.Run
import GirTypings.Proofs.Scanning
import GirTypings.Proofs.Selection
import GirTypings.Proofs.ShortName
import GirTypings.Proofs.SignatureLine
import GirTypings.Proofs.Skeleton
import GirTypings.Proofs.Solid
import GirTypings.Proofs.Spelling
import GirTypings.Proofs.StrictLiteral
import GirTypings.Proofs.TagSelector
import GirTypings.Proofs.TextFile
import GirTypings.Proofs.Trimming
import GirTypings.Proofs.Turn
import GirTypings.Proofs.Undocumented
import GirTypings.Proofs.ValueType
import GirTypings.Proofs.WellNamed
import GirTypings.Registry.Order
import GirTypings.Registry.Record
import GirTypings.Scanner
import GirTypings.Settings
import GirTypings.Table
import GirTypings.Text.Blank
import GirTypings.Text.Digit
import GirTypings.Text.Join
import GirTypings.Text.Line
import GirTypings.Text.Numeral
import GirTypings.Text.Piece
import GirTypings.Text.Printable
import GirTypings.Text.Surrogate
import GirTypings.Text.Upper
import GirTypings.Xml.Binding
import GirTypings.Xml.Declaration
import GirTypings.Xml.Doctype
import GirTypings.Xml.Document
import GirTypings.Xml.Element
import GirTypings.Xml.Encoding
import GirTypings.Xml.Entity
import GirTypings.Xml.Expansion
import GirTypings.Xml.Markup
import GirTypings.Xml.Name
import GirTypings.Xml.NameChar
import GirTypings.Xml.Reference
import GirTypings.Xml.Selector
import GirTypings.Xml.Selector.Reader
import GirTypings.Xml.Token
