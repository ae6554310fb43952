import Laoke.Bounds
import Laoke.CommandLine
import Laoke.CommandLine.Arguments
import Laoke.CommandLine.Dialogue
import Laoke.CommandLine.Files
import Laoke.CommandLine.History
import Laoke.Cursor
import Laoke.Cursor.Reader
import Laoke.Emission
import Laoke.Error
import Laoke.Journal
import Laoke.Keyword
import Laoke.Lexeme
import Laoke.Listing.Json
import Laoke.Listing.Outline
import Laoke.LogLevel
import Laoke.Main
import Laoke.Numeral
import Laoke.Pipeline
import Laoke.Program
import Laoke.Program.Progress
import Laoke.Program.Reader
import Laoke.Proofs.Acceptance
import Laoke.Proofs.Arithmetic
import Laoke.Proofs.Blocks
import Laoke.Proofs.Completion
import Laoke.Proofs.Composition
import Laoke.Proofs.Expressions
import Laoke.Proofs.Failures
import Laoke.Proofs.Grammar
import Laoke.Proofs.Indentation
import Laoke.Proofs.Independence
import Laoke.Proofs.Interruption
import Laoke.Proofs.Lexing
import Laoke.Proofs.Meaning
import Laoke.Proofs.Names
import Laoke.Proofs.Numbering
import Laoke.Proofs.Positions
import Laoke.Proofs.Precedence
import Laoke.Proofs.Printing
import Laoke.Proofs.Reading
import Laoke.Proofs.Recognition
import Laoke.Proofs.Rejection
import Laoke.Proofs.Respelling
import Laoke.Proofs.Rows
import Laoke.Proofs.Scanning
import Laoke.Proofs.Sessions
import Laoke.Proofs.Shape
import Laoke.Proofs.Simulation
import Laoke.Proofs.Spacing
import Laoke.Proofs.Spelling
import Laoke.Proofs.Steps
import Laoke.Proofs.Streaming
import Laoke.Proofs.Succession
import Laoke.Proofs.Symbols
import Laoke.Proofs.Transcription
import Laoke.Proofs.Walking
import Laoke.Proofs.Writing
import Laoke.Script.Block
import Laoke.Script.Error
import Laoke.Script.Expression
import Laoke.Script.Line
import Laoke.Script.Literal
import Laoke.Script.Machine
import Laoke.Script.Name
import Laoke.Script.Token
import Laoke.Script.Tree
import Laoke.Script.Value
import Laoke.Session
import Laoke.Settings
import Laoke.SymbolTable
import Laoke.Text.Blank
import Laoke.Text.Bytes
import Laoke.Text.Cluster
import Laoke.Text.Conjunct
import Laoke.Text.Erasure
import Laoke.Text.Hidden
import Laoke.Text.Letter
import Laoke.Text.Lines
import Laoke.Text.Mark
import Laoke.Text.Number
import Laoke.Text.Pictograph
import Laoke.Text.Quoted
import Laoke.Text.Ranges
import Laoke.Text.SpacingMark
import Laoke.Token
import Laoke.TokenStream
import Laoke.Toml.Document
import Laoke.Toml.Number
import Laoke.Toml.Scan
import Laoke.Toml.Text
import Laoke.Toml.Value
