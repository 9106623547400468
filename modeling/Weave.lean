import Weave.Text.Blank
import Weave.Text.Digit
import Weave.Text.Surrogate
import Weave.Fault
import Weave.Source.Token
import Weave.Source.Lexer
import Weave.Source.Reader
import Weave.Number.Binary
import Weave.Number.Decimal
import Weave.Number.Reading
import Weave.Data.Calendar
import Weave.Data.Value
import Weave.Data.Hashing
import Weave.Data.Json.Read
import Weave.Data.Json.Write
import Weave.Text.Ranges
import Weave.Text.Cased
import Weave.Text.Printable
import Weave.Text.Identifier
import Weave.Text.Word
import Weave.Text.Lower
import Weave.Data.Literal
import Weave.Data.Order
import Weave.Registry.Declaration
import Weave.Registry.Basic
import Weave.Source.Line
import Weave.Source.Walk
import Weave.Section.Directive
import Weave.Section.Basic
import Weave.Path.Posix
import Weave.Path.Resolver
import Weave.Number.Size
import Weave.Text.CharName
import Weave.Text.Decode.Failure
import Weave.Text.Decode.Escape
import Weave.Text.Decode.Utf7
import Weave.Text.Decode.Punycode
import Weave.Text.Stringprep.Table
import Weave.Text.Stringprep.Decomposition
import Weave.Text.Stringprep.Composition
import Weave.Text.Stringprep.Normalize
import Weave.Text.Stringprep.Tables
import Weave.Text.Stringprep.Nameprep
import Weave.Text.Decode.Idna
import Weave.Text.CodePage
import Weave.Text.Cjk.Table
import Weave.Text.Cjk.Multibyte
import Weave.Text.Cjk.Gb2312
import Weave.Text.Cjk.GbkExt
import Weave.Text.Cjk.Gb18030
import Weave.Text.Cjk.Big5
import Weave.Text.Cjk.Hkscs
import Weave.Text.Cjk.Jis0208
import Weave.Text.Cjk.Jis0212
import Weave.Text.Cjk.Jis0213
import Weave.Text.Cjk.Cp932
import Weave.Text.Cjk.Ksc5601
import Weave.Text.Cjk.Chinese
import Weave.Text.Cjk.Japanese
import Weave.Text.Cjk.Korean
import Weave.Text.Cjk.Iso2022
import Weave.Text.Cjk.Encoding
import Weave.Text.Codec
import Weave.Text.Base64
import Weave.Yaml.Mark
import Weave.Yaml.Token
import Weave.Yaml.Scanner
import Weave.Yaml.Event
import Weave.Yaml.Node
import Weave.Yaml.Resolve
import Weave.Yaml.Construct
import Weave.Yaml.Load
import Weave.Data.Items
import Weave.Config.Basic
import Weave.Config.Load
import Weave.Index.Load
import Weave.Text.Stream
import Weave.Files.Tree
import Weave.Run.Log
import Weave.Run.Pipeline
import Weave.Index.Build
import Weave.Run.Sources
import Weave.Cli.Spec
import Weave.Cli.Args
import Weave.Cli.Run
import Weave.Index.Stamp
import Weave.Main
import Weave.Proofs.Lines
import Weave.Proofs.Lexing
import Weave.Proofs.Layout
import Weave.Proofs.WalkInvariant
import Weave.Proofs.LineReading
import Weave.Proofs.LineKinds
import Weave.Proofs.ChunkedReading
import Weave.Proofs.RegistryStore
import Weave.Proofs.FileDeclarations
import Weave.Proofs.RunAccounting
import Weave.Proofs.SectionRuns
import Weave.Proofs.JsonReadBack
import Weave.Proofs.IndexRoundTrip
import Weave.Proofs.PathNames
import Weave.Proofs.RunOrder
import Weave.Proofs.DeclarationLines
import Weave.Proofs.FirstRefusal
import Weave.Proofs.DirectiveLines
import Weave.Proofs.OpenLiterals
import Weave.Proofs.DeclaredNames
import Weave.Proofs.KindsWithDeclarations
import Weave.Proofs.TokenKinds
import Weave.Proofs.PageLinks
import Weave.Proofs.IndexFiles
import Weave.Proofs.SettingsFaults
import Weave.Proofs.ByteSizes
import Weave.Proofs.TreeSearch
import Weave.Proofs.SourceCollection
