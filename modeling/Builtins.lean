import Builtins.Word
import Builtins.Fault
import Builtins.Arith
import Builtins.Text.Blank
import Builtins.Text.Unprintable
import Builtins.Text.Alphanumeric
import Builtins.Text.Utf8
import Builtins.Text.Lines
import Builtins.Text.Quoted
import Builtins.Literal
import Builtins.Decimal.Binary
import Builtins.Decimal.Shortest
import Builtins.Range
import Builtins.Console
import Builtins.Digraph
import Builtins.Registry
import Builtins.Registry.Resolve
import Builtins.Program.Parameters
import Builtins.Log.Event
import Builtins.Log.Filter
import Builtins.Log.Journal
import Builtins.Script
import Builtins.Fibonacci
import Builtins.Counter
import Builtins.Program
import Builtins.Registry.Action
import Builtins.Session
import Builtins.Toml.Value
import Builtins.Toml.Lexeme
import Builtins.Toml.Scalar
import Builtins.Toml.Document
import Builtins.Log.Settings
import Builtins.Log.Line
import Builtins.Log.Setup
import Builtins.Settings
import Builtins.Files
import Builtins.Launch
import Builtins.Main
import Builtins.Proofs.Toposort
import Builtins.Proofs.Closure
import Builtins.Proofs.Resolve
import Builtins.Proofs.Tokens
import Builtins.Proofs.Traversal
import Builtins.Proofs.Registry
import Builtins.Proofs.Cursors
import Builtins.Proofs.Requests
import Builtins.Proofs.Numerals
import Builtins.Proofs.Scripts
import Builtins.Proofs.Truncation
import Builtins.Proofs.RoundTrip
import Builtins.Proofs.Unions
import Builtins.Proofs.Overrides
import Builtins.Proofs.Sessions
import Builtins.Proofs.Launching
import Builtins.Proofs.Literals
import Builtins.Proofs.Membership
import Builtins.Proofs.Noninterference
import Builtins.Proofs.Powers
import Builtins.Proofs.Interruptions
import Builtins.Proofs.Words
import Builtins.Proofs.Agreement
import Builtins.Proofs.Transcripts
import Builtins.Proofs.Filters
import Builtins.Proofs.BadParts
import Builtins.Proofs.Lines
import Builtins.Proofs.Documents
import Builtins.Proofs.Fields
import Builtins.Proofs.Overlay
import Builtins.Proofs.Traces
import Builtins.Proofs.Fibonacci
import Builtins.Proofs.Counting
import Builtins.Proofs.RangeTexts
import Builtins.Proofs.Levels
import Builtins.Proofs.Searches
