import Thesaurus.Unicode.Span
import Thesaurus.Unicode.WordBreak
import Thesaurus.Unicode.Emoji
import Thesaurus.Unicode.Alphanumeric
import Thesaurus.Unicode.Blank
import Thesaurus.Unicode.Casing
import Thesaurus.Text.Segment
import Thesaurus.Text.Lower
import Thesaurus.Label
import Thesaurus.Number.Binary
import Thesaurus.Json.Value
import Thesaurus.Error
import Thesaurus.Kind
import Thesaurus.Text.Trim
import Thesaurus.Graph
import Thesaurus.Rdf.Format
import Thesaurus.Json.Reader
import Thesaurus.Settings.Basic
import Thesaurus.Settings.Decode
import Thesaurus.Log
import Thesaurus.Store.Concept
import Thesaurus.Store.Closure
import Thesaurus.Store.Basic
import Thesaurus.Store.Source
import Thesaurus.Store.Build
import Thesaurus.Token
import Thesaurus.Tokenizer
import Thesaurus.Expansion.Window
import Thesaurus.Expansion.Uri
import Thesaurus.Unicode.Printable
import Thesaurus.Text.Quote
import Thesaurus.Analysis
import Thesaurus.Rdf.Iri
import Thesaurus.Rdf.Language
import Thesaurus.Rdf.Term
import Thesaurus.Rdf.Lexer
import Thesaurus.Rdf.Grammar
import Thesaurus.Rdf.Turtle
import Thesaurus.Rdf.NTriples
import Thesaurus.Rdf.Notation3
import Thesaurus.Rdf.Xml
import Thesaurus.Rdf.XmlReader
import Thesaurus.Rdf.Load
import Thesaurus.Host
import Thesaurus.Vocabulary
import Thesaurus.Cli.Options
import Thesaurus.Cli.Help
import Thesaurus.Cli.Args
import Thesaurus.Cli.Report
import Thesaurus.Cli.Run
import Thesaurus.Main
import Thesaurus.Proofs.Unicode.Tables
import Thesaurus.Proofs.Text.Words
import Thesaurus.Proofs.Expansion.Reading
import Thesaurus.Proofs.Expansion.Stream
import Thesaurus.Proofs.Expansion.Output
import Thesaurus.Proofs.Store.Lookup
import Thesaurus.Proofs.Store.Scan
import Thesaurus.Proofs.Store.Closure
import Thesaurus.Proofs.Analysis.LabelKey
import Thesaurus.Proofs.Analysis.WindowSize
import Thesaurus.Proofs.Store.Build
import Thesaurus.Proofs.Expansion.UriReading
import Thesaurus.Proofs.Unicode.Lowercase
import Thesaurus.Proofs.Text.Resegment
import Thesaurus.Proofs.Text.NormalForm
import Thesaurus.Proofs.Store.Languages
import Thesaurus.Proofs.Analysis.Whitespace
import Thesaurus.Proofs.Store.Checked
import Thesaurus.Proofs.Text.Bytes
import Thesaurus.Proofs.Json.Reading
import Thesaurus.Proofs.Settings.RoundTrip
import Thesaurus.Proofs.Settings.RoundTrip
