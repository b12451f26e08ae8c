import TokenScanner.Kind
import TokenScanner.Text.Width
import TokenScanner.Position
import TokenScanner.Pattern
import TokenScanner.Text.WhiteSpace
import TokenScanner.PatternSet
import TokenScanner.Text.Hexadecimal
import TokenScanner.PatternSet.Text
import TokenScanner.SymbolTable
import TokenScanner.Token
import TokenScanner.Config
import TokenScanner.Lexer
import TokenScanner.Scan
import TokenScanner.Text.Unprintable
import TokenScanner.Text.Extender
import TokenScanner.Text.Escape
import TokenScanner.Diagnostic
import TokenScanner.Record
import TokenScanner.Record.Writer
import TokenScanner.Token.Display
import TokenScanner.Reader
import TokenScanner.Decimal.Shortest
import TokenScanner.Json.Numeral
import TokenScanner.Json.Quoted
import TokenScanner.Json.Piece
import TokenScanner.Json.Tree
import TokenScanner.Json.Value
import TokenScanner.Json.Fault
import TokenScanner.Json.Read
import TokenScanner.Token.Json
import TokenScanner.Config.Json
import TokenScanner.Archiver
import TokenScanner.Archiver.Plain
import TokenScanner.Command.Usage
import TokenScanner.Command.Options
import TokenScanner.Command.World
import TokenScanner.Command.Run
import TokenScanner.Main
import TokenScanner.Proofs.Recognition
import TokenScanner.Proofs.Chunk
import TokenScanner.Proofs.Tiling
import TokenScanner.Proofs.Counting
import TokenScanner.Proofs.Placement
import TokenScanner.Proofs.Moves
import TokenScanner.Proofs.Recovery
import TokenScanner.Proofs.LineLocality
import TokenScanner.Proofs.Grouping
import TokenScanner.Proofs.Context
import TokenScanner.Proofs.Rescan
import TokenScanner.Proofs.Labelling
import TokenScanner.Proofs.Layout
import TokenScanner.Proofs.Opening
import TokenScanner.Proofs.Operators
import TokenScanner.Proofs.Literals
import TokenScanner.Proofs.Inputs
import TokenScanner.Proofs.Course
import TokenScanner.Proofs.Failing
import TokenScanner.Proofs.Reporting
import TokenScanner.Proofs.Denial
import TokenScanner.Proofs.LineDiagnostics
import TokenScanner.Proofs.Reading
import TokenScanner.Proofs.Rendering
import TokenScanner.Proofs.Balance
import TokenScanner.Proofs.Breaks
import TokenScanner.Proofs.Decimals
import TokenScanner.Proofs.Listing
import TokenScanner.Proofs.Quotation
import TokenScanner.Proofs.Pieces
import TokenScanner.Proofs.Documents
import TokenScanner.Proofs.Decoding
import TokenScanner.Proofs.JsonReports
import TokenScanner.Proofs.Archiving
import TokenScanner.Proofs.Independence
import TokenScanner.Proofs.Joining
import TokenScanner.Proofs.Grammar
import TokenScanner.Proofs.QuoteBlocks
import TokenScanner.Proofs.Stages
import TokenScanner.Proofs.OverlongLiterals
import TokenScanner.Proofs.MaximalMunch
import TokenScanner.Proofs.Restart
import TokenScanner.Proofs.OpenStrings
import TokenScanner.Proofs.ScanRounds
import TokenScanner.Proofs.NamedTables
import TokenScanner.Proofs.TableOrder
import TokenScanner.Proofs.LookAhead
import TokenScanner.Proofs.Requests
import TokenScanner.Proofs.FlagTexts
import TokenScanner.Proofs.PartialConfigs
import TokenScanner.Proofs.Messages
