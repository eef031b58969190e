import Folio.Book
import Folio.Charset.Basic
import Folio.Charset.ChineseTable
import Folio.Charset.Decoder
import Folio.Charset.Encoder
import Folio.Charset.Index
import Folio.Charset.JapaneseSupplementTable
import Folio.Charset.JapaneseTable
import Folio.Charset.KoreanTable
import Folio.Charset.LabelTable
import Folio.Charset.SingleByteTable
import Folio.Charset.TraditionalTable
import Folio.Cli.Arguments
import Folio.Cli.Commands
import Folio.Cli.Invocation
import Folio.Config
import Folio.Crawl.Archive
import Folio.Crawl.Basic
import Folio.Crawl.BookInfo
import Folio.Crawl.BookList
import Folio.Crawl.ChapterList
import Folio.Crawl.ChapterText
import Folio.Crawl.Search
import Folio.Crawl.Visit
import Folio.Digest.Aes
import Folio.Digest.Base64
import Folio.Digest.Md5
import Folio.Digest.Sha256
import Folio.Digest.Words
import Folio.Event
import Folio.Failure
import Folio.Json.Binary64
import Folio.Json.Printer
import Folio.Json.Reader
import Folio.Json.Shortest
import Folio.Json.Value
import Folio.Main
import Folio.Markup.Construction
import Folio.Markup.Elements
import Folio.Markup.Entities
import Folio.Markup.Flatten
import Folio.Markup.Insertion
import Folio.Markup.Node
import Folio.Markup.Parser
import Folio.Markup.Place
import Folio.Markup.Reference
import Folio.Markup.Token
import Folio.Page
import Folio.Regex.CharSet
import Folio.Regex.ClassName
import Folio.Regex.Matching
import Folio.Regex.Program
import Folio.Regex.Reader
import Folio.Regex.Replace
import Folio.Regex.Syntax
import Folio.Request.Basic
import Folio.Request.Failure
import Folio.Request.Header
import Folio.Request.Keyword
import Folio.Request.Options
import Folio.Request.Template
import Folio.Rule.Evaluation
import Folio.Rule.Expr
import Folio.Rule.Failure
import Folio.Rule.JsonPath
import Folio.Rule.Leaf
import Folio.Rule.LocationPath
import Folio.Rule.Split
import Folio.Rule.Step
import Folio.Rule.Subject
import Folio.Script.Binding
import Folio.Script.Builtin
import Folio.Script.Datum
import Folio.Script.Engine
import Folio.Script.Envelope
import Folio.Script.Evaluator
import Folio.Script.Machine
import Folio.Script.Native
import Folio.Script.Reader
import Folio.Script.Syntax
import Folio.Script.Token
import Folio.Selector.Matching
import Folio.Selector.Parser
import Folio.Selector.Syntax
import Folio.Selector.Token
import Folio.Source.Basic
import Folio.Source.Json
import Folio.Text.Ascii
import Folio.Text.Blank
import Folio.Text.Exchange
import Folio.Text.Search
import Folio.Text.Table
import Folio.Text.Utf8
import Folio.Toml.Quoted
import Folio.Toml.Reader
import Folio.Toml.Scalar
import Folio.Toml.Value
import Folio.Typeset
import Folio.Unicode.CaseTable
import Folio.Unicode.Category
import Folio.Unicode.CategoryTable
import Folio.Unicode.LetterCase
import Folio.Unicode.Property
import Folio.Unicode.PropertyTable
import Folio.Unicode.ScriptTable
import Folio.Unicode.Word
import Folio.Url.Basic
import Folio.Url.Host
import Folio.Url.Link
import Folio.Url.Name
import Folio.Url.NameTable
import Folio.Url.Parser
import Folio.Url.Percent
import Folio.Url.Punycode
import Folio.Proofs.Crawl.Basic
import Folio.Proofs.Crawl.Visit
import Folio.Proofs.Crawl.ChapterList
import Folio.Proofs.Crawl.ChapterText
import Folio.Proofs.Crawl.Document
import Folio.Proofs.Markup.Place
import Folio.Proofs.Rule.LocationPath
import Folio.Proofs.Rule.Level
import Folio.Proofs.Rule.DocumentOrder
import Folio.Proofs.Markup.Tree
import Folio.Proofs.Rule.Chain
import Folio.Proofs.Rule.Occurrence
import Folio.Proofs.Script.Envelope
import Folio.Proofs.Script.Evaluation
import Folio.Proofs.Request.Template
import Folio.Proofs.Request.Basic
import Folio.Proofs.Rule.Split
import Folio.Proofs.Rule.Expr
import Folio.Proofs.Rule.Evaluation
import Folio.Proofs.Crawl.Script
import Folio.Proofs.Rule.Fallback
import Folio.Proofs.Json.Reader
import Folio.Proofs.Rule.JsonPath
import Folio.Proofs.Rule.DefaultLeaf
import Folio.Proofs.Crawl.FanOut
import Folio.Proofs.Crawl.Search
import Folio.Proofs.Crawl.PageCap
import Folio.Proofs.Request.Header
import Folio.Proofs.Request.Keyword
import Folio.Proofs.Rule.JsonSyntax
import Folio.Proofs.Rule.JsonItems
import Folio.Proofs.Selector.Scope
import Folio.Proofs.Rule.Cascade
import Folio.Proofs.Text.Utf8
import Folio.Proofs.Page
import Folio.Proofs.Text.Number
import Folio.Proofs.Text.Quoted
import Folio.Proofs.Rule.JsonAddress
import Folio.Proofs.Rule.Balanced
import Folio.Proofs.Rule.PathText
import Folio.Proofs.Rule.Condition
import Folio.Proofs.Rule.Connective
import Folio.Proofs.Rule.PathSyntax
import Folio.Proofs.Url.Percent
import Folio.Proofs.Url.Host
import Folio.Proofs.Url.Path
import Folio.Proofs.Url.Authority
import Folio.Proofs.Url.Written
import Folio.Proofs.Request.Link
import Folio.Proofs.Url.Edges
import Folio.Proofs.Request.Absolute
import Folio.Proofs.Rule.Quotes
import Folio.Proofs.Rule.AffixFallback
import Folio.Proofs.Crawl.Reversal
import Folio.Proofs.Crawl.SearchReversal
import Folio.Proofs.Url.Escape
import Folio.Proofs.Request.Escape
import Folio.Proofs.Json.Members
import Folio.Proofs.Request.Precedence
import Folio.Proofs.Text.Replace
import Folio.Proofs.Request.Placeholder
import Folio.Proofs.Request.Expansion
import Folio.Proofs.Text.Lines
import Folio.Proofs.Markup.Reference
import Folio.Proofs.Typeset
import Folio.Proofs.Decoding
import Folio.Proofs.Rule.LeafSyntax
import Folio.Proofs.Rule.JsonDescent
import Folio.Proofs.Rule.Emptiness
import Folio.Proofs.Rule.IndexSuffix
import Folio.Proofs.Rule.JsonDetection
import Folio.Proofs.Rule.Cut
import Folio.Proofs.Script.Opening
import Folio.Proofs.Rule.Reading
import Folio.Proofs.Text.Hex
import Folio.Proofs.Book
import Folio.Proofs.Crawl.Identity
import Folio.Proofs.Markup.Words
import Folio.Proofs.Markup.Flatten
import Folio.Proofs.Rule.Position
