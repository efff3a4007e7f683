import SentenceReader.CommandLine.Request
import SentenceReader.CommandLine.Run
import SentenceReader.CommandLine.Settings
import SentenceReader.CommandLine.Switch
import SentenceReader.Config.Basic
import SentenceReader.Config.Loading
import SentenceReader.Config.Validation
import SentenceReader.Data.Basic
import SentenceReader.Data.Binary64
import SentenceReader.Data.Timestamp
import SentenceReader.Document.Basic
import SentenceReader.Document.Fault
import SentenceReader.Document.Opening
import SentenceReader.Encoding.Base64
import SentenceReader.Encoding.Codec
import SentenceReader.Encoding.Decoding
import SentenceReader.Encoding.Name
import SentenceReader.Fault
import SentenceReader.Files.Compressed
import SentenceReader.Files.Path
import SentenceReader.Files.Tree
import SentenceReader.Host
import SentenceReader.Main
import SentenceReader.Pattern.Host
import SentenceReader.Pattern.Matching
import SentenceReader.Pattern.Reading
import SentenceReader.Pattern.Syntax
import SentenceReader.Record.Event
import SentenceReader.Record.Log
import SentenceReader.Region.Item
import SentenceReader.Region.Reader
import SentenceReader.Region.Source
import SentenceReader.Region.Tag
import SentenceReader.Sentence.Regions
import SentenceReader.Sentence.Segmenter
import SentenceReader.Stream.Basic
import SentenceReader.Stream.Fault
import SentenceReader.Text.Basic
import SentenceReader.Text.CaseFold
import SentenceReader.Text.CharName
import SentenceReader.Text.Digit
import SentenceReader.Text.Identifier
import SentenceReader.Text.Letter
import SentenceReader.Text.LowerCase
import SentenceReader.Text.Numeral
import SentenceReader.Text.Printable
import SentenceReader.Text.Quoted
import SentenceReader.Text.WordChar
import SentenceReader.Token.Basic
import SentenceReader.Token.Escape
import SentenceReader.Token.Lexed
import SentenceReader.Token.Lexeme
import SentenceReader.Token.Options
import SentenceReader.Token.Source
import SentenceReader.Token.Spaced
import SentenceReader.Token.Tagged
import SentenceReader.Token.Tokenizer
import SentenceReader.Yaml.Cursor
import SentenceReader.Yaml.Fault
import SentenceReader.Yaml.Input
import SentenceReader.Yaml.Node
import SentenceReader.Yaml.Scalar
import SentenceReader.Yaml.Source
import SentenceReader.Yaml.Token
import SentenceReader.Yaml.Value
import SentenceReader.Proofs.Cutting
import SentenceReader.Proofs.Giving
import SentenceReader.Proofs.LookingAhead
import SentenceReader.Proofs.Stream.Lines
import SentenceReader.Proofs.Stream.Blocks
import SentenceReader.Proofs.Region.Items
import SentenceReader.Proofs.Region.Coming
import SentenceReader.Proofs.Region.Tags
import SentenceReader.Proofs.Region.Forest
import SentenceReader.Proofs.Token.Coming
import SentenceReader.Proofs.Sentence.Collecting
import SentenceReader.Proofs.Sentence.Followers
import SentenceReader.Proofs.Sentence.Explicit
import SentenceReader.Proofs.Sentence.Opening
import SentenceReader.Proofs.Sentence.Conservation
import SentenceReader.Proofs.Token.Parts
import SentenceReader.Proofs.Token.Printed
import SentenceReader.Proofs.Sentence.Content
import SentenceReader.Proofs.Sentence.RawText
import SentenceReader.Proofs.Sentence.Regionwise
import SentenceReader.Proofs.Sentence.Reprinted
import SentenceReader.Proofs.Calls
import SentenceReader.Proofs.Following
import SentenceReader.Proofs.Stream.Coupling
import SentenceReader.Proofs.Token.Coupled
import SentenceReader.Proofs.Region.Coupled
import SentenceReader.Proofs.Sentence.Coupled
import SentenceReader.Proofs.Sentence.Sequences
import SentenceReader.Proofs.Sentence.Asked
import SentenceReader.Proofs.Sentence.Released
import SentenceReader.Proofs.Sentence.Interrupted
import SentenceReader.Proofs.Document.Closing
import SentenceReader.Proofs.Sentence.Growing
import SentenceReader.Proofs.Sentence.Linewise
import SentenceReader.Proofs.Sentence.Written
import SentenceReader.Proofs.Sentence.Failing
import SentenceReader.Proofs.Token.Kept
import SentenceReader.Proofs.Token.InPlace
import SentenceReader.Proofs.Token.Streaming
import SentenceReader.Proofs.Config.Overriding
import SentenceReader.Proofs.Document.LifeCycle
import SentenceReader.Proofs.Stream.Meeting
import SentenceReader.Proofs.Token.Meeting
import SentenceReader.Proofs.Region.Meeting
import SentenceReader.Proofs.Sentence.Meeting
import SentenceReader.Proofs.Document.Draining
import SentenceReader.Proofs.CommandLine.Settings
import SentenceReader.Proofs.CommandLine.Writing
import SentenceReader.Proofs.CommandLine.Files
import SentenceReader.Proofs.CommandLine.Codes
import SentenceReader.Proofs.Retrying
import SentenceReader.Proofs.Stream.Resuming
import SentenceReader.Proofs.Token.Resuming
import SentenceReader.Proofs.Region.Piecewise
import SentenceReader.Proofs.Region.Resuming
import SentenceReader.Proofs.Sentence.WithinLines
import SentenceReader.Proofs.Sentence.Respaced
import SentenceReader.Proofs.Token.Independence
import SentenceReader.Proofs.Sentence.Respelt
import SentenceReader.Proofs.Sentence.TaggedLines
import SentenceReader.Proofs.Sentence.BlankDelimiter
import SentenceReader.Proofs.Token.Grammar
import SentenceReader.Proofs.Token.Endings
import SentenceReader.Proofs.Token.RawTokens
import SentenceReader.Proofs.Region.Spelling
import SentenceReader.Proofs.Region.Slices
import SentenceReader.Proofs.Region.Comments
import SentenceReader.Proofs.Sentence.Spending
import SentenceReader.Proofs.Sentence.Bounded
import SentenceReader.Proofs.Recording
import SentenceReader.Proofs.Sentence.Recorded
import SentenceReader.Proofs.Sentence.Escaping
import SentenceReader.Proofs.Sentence.Accounted
import SentenceReader.Proofs.Document.FailedRead
import SentenceReader.Proofs.Sentence.Faults
import SentenceReader.Proofs.CommandLine.Vetting
import SentenceReader.Proofs.Text.Pieces
import SentenceReader.Proofs.Token.Treebank
import SentenceReader.Proofs.Token.LastOccurrence
import SentenceReader.Proofs.Token.OptionTables
import SentenceReader.Proofs.Sentence.MergedOptions
import SentenceReader.Proofs.Config.Rebuilding
import SentenceReader.Proofs.Encoding.Utf8
import SentenceReader.Proofs.Encoding.Documents
import SentenceReader.Proofs.Config.Loaders
