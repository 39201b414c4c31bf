import Redraft.Align.Block
import Redraft.Align.Diagonals
import Redraft.Align.Division
import Redraft.Align.Finder
import Redraft.Align.MatchTable
import Redraft.Align.Positions
import Redraft.Align.Spine
import Redraft.Align.Suffixes
import Redraft.Backend
import Redraft.CommandLine.Command
import Redraft.CommandLine.Execute
import Redraft.CommandLine.Options
import Redraft.Decimal.Shortest
import Redraft.Draft.Drafter
import Redraft.Draft.Fallback
import Redraft.Draft.Lookup
import Redraft.Draft.Padded
import Redraft.Draft.Proposer
import Redraft.Draft.Slots
import Redraft.Json.Number
import Redraft.Json.Parser
import Redraft.Json.Printer
import Redraft.Json.Value
import Redraft.LogFormat
import Redraft.Main
import Redraft.Matcher
import Redraft.Pattern.Expr
import Redraft.Pattern.Machine
import Redraft.Pattern.Meaning
import Redraft.Pattern.Parser
import Redraft.Pattern.Place
import Redraft.Pattern.Program
import Redraft.Pattern.Engine
import Redraft.Pattern.Reader
import Redraft.Pattern.Tree
import Redraft.Proofs.Align.Common
import Redraft.Proofs.Align.Copies
import Redraft.Proofs.Align.Diagonals
import Redraft.Proofs.Align.Division
import Redraft.Proofs.Align.Doubling
import Redraft.Proofs.Align.Finders
import Redraft.Proofs.Align.MatchTable
import Redraft.Proofs.Align.PositionIndex
import Redraft.Proofs.Align.Positions
import Redraft.Proofs.Align.Scan
import Redraft.Proofs.Align.SuffixOrder
import Redraft.Proofs.Align.SuffixSearch
import Redraft.Proofs.Align.Tails
import Redraft.Proofs.Align.TextOrder
import Redraft.Proofs.Align.Widening
import Redraft.Proofs.Draft.Context
import Redraft.Proofs.Draft.Coupling
import Redraft.Proofs.Draft.Engines
import Redraft.Proofs.Draft.History
import Redraft.Proofs.Draft.Independence
import Redraft.Proofs.Draft.Limits
import Redraft.Proofs.Draft.Lookup
import Redraft.Proofs.Draft.Order
import Redraft.Proofs.Draft.Reference
import Redraft.Proofs.Draft.Rewinds
import Redraft.Proofs.Draft.Switches
import Redraft.Proofs.Draft.Tracking
import Redraft.Proofs.Matcher
import Redraft.Proofs.Matcher.Decomposition
import Redraft.Proofs.Matcher.Edits
import Redraft.Proofs.Matcher.Sizes
import Redraft.Proofs.Matcher.Slices
import Redraft.Proofs.Matcher.Table
import Redraft.Proofs.Matcher.Verbatim
import Redraft.Proofs.Pattern.Automaton
import Redraft.Proofs.Pattern.Engine
import Redraft.Proofs.Registry.Handles
import Redraft.Proofs.Registry.Isolation
import Redraft.Proofs.Registry.Listing
import Redraft.Proofs.Registry.Roster
import Redraft.Proofs.Registry.Sessions
import Redraft.Proofs.Registry.Shares
import Redraft.Proofs.Replay.Accounts
import Redraft.Proofs.Replay.Separate
import Redraft.Proofs.Replay.Verbatim
import Redraft.Proofs.Stop.Buffer
import Redraft.Proofs.Stop.Conservation
import Redraft.Proofs.Stop.Drivers
import Redraft.Proofs.Stop.Holding
import Redraft.Proofs.Stop.Literals
import Redraft.Proofs.Stop.Sequence
import Redraft.Proofs.Stop.Sight
import Redraft.Proofs.Stop.Stream
import Redraft.Proofs.Stop.Trimming
import Redraft.Proofs.Text.Lines
import Redraft.Proofs.Window
import Redraft.Registry
import Redraft.Replay.Case
import Redraft.Replay.CaseFile
import Redraft.Replay.Metrics
import Redraft.Replay.Report
import Redraft.Replay.ReportJson
import Redraft.Session
import Redraft.Settings
import Redraft.Settings.Json
import Redraft.Settings.Overlay
import Redraft.Stop.Buffer
import Redraft.Stop.Classify
import Redraft.Stop.Copy
import Redraft.Stop.Sequence
import Redraft.Stop.Stream
import Redraft.Synthetic
import Redraft.Text.Blank
import Redraft.Text.Lines
import Redraft.Text.Offset
import Redraft.Text.Scan
import Redraft.Toggles
import Redraft.Tokens
import Redraft.Toml.Number
import Redraft.Toml.Parser
import Redraft.Toml.Quoted
import Redraft.Toml.Value
import Redraft.Unicode.Binary
import Redraft.Unicode.Categories
import Redraft.Unicode.CharSet
import Redraft.Unicode.Coded
import Redraft.Unicode.Folding
import Redraft.Unicode.Property
import Redraft.Unicode.Scripts
import Redraft.Window
