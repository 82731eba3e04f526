import PipeShell.Config
import PipeShell.DotEnv
import PipeShell.Drain
import PipeShell.Environment
import PipeShell.ExecError
import PipeShell.History
import PipeShell.Host
import PipeShell.Host.Fresh
import PipeShell.Host.Lookup
import PipeShell.Launcher
import PipeShell.Line
import PipeShell.Line.Build
import PipeShell.Line.Builtin
import PipeShell.Line.Printer
import PipeShell.LineReader
import PipeShell.Log
import PipeShell.Machine
import PipeShell.Main
import PipeShell.Pipeline.Run
import PipeShell.Pipeline.State
import PipeShell.Pipeline.Step
import PipeShell.Process.Holdings
import PipeShell.Process.Invocation
import PipeShell.Process.Program
import PipeShell.Proofs.Drain.Arrivals
import PipeShell.Proofs.Drain.Lines
import PipeShell.Proofs.Drain.Normal
import PipeShell.Proofs.Drain.Output
import PipeShell.Proofs.Drain.Sharing
import PipeShell.Proofs.Drain.StreamEnd
import PipeShell.Proofs.Drain.Tearing
import PipeShell.Proofs.Drain.Terminators
import PipeShell.Proofs.Drain.Vessels
import PipeShell.Proofs.Host.Missing
import PipeShell.Proofs.Line.Dangling
import PipeShell.Proofs.Line.Joining
import PipeShell.Proofs.Line.Reading
import PipeShell.Proofs.Line.RoundTrip
import PipeShell.Proofs.Line.Spacing
import PipeShell.Proofs.Line.Trimming
import PipeShell.Proofs.Pipeline.Aborting
import PipeShell.Proofs.Pipeline.Attending
import PipeShell.Proofs.Pipeline.Captures
import PipeShell.Proofs.Pipeline.Carrying
import PipeShell.Proofs.Pipeline.Catching
import PipeShell.Proofs.Pipeline.Cleanup
import PipeShell.Proofs.Pipeline.Completion
import PipeShell.Proofs.Pipeline.Composition
import PipeShell.Proofs.Pipeline.Computing
import PipeShell.Proofs.Pipeline.Continuing
import PipeShell.Proofs.Pipeline.Ending
import PipeShell.Proofs.Pipeline.Execution
import PipeShell.Proofs.Pipeline.Fates
import PipeShell.Proofs.Pipeline.Filters
import PipeShell.Proofs.Pipeline.Flow
import PipeShell.Proofs.Pipeline.Flowing
import PipeShell.Proofs.Pipeline.Inheriting
import PipeShell.Proofs.Pipeline.Interference
import PipeShell.Proofs.Pipeline.Minding
import PipeShell.Proofs.Pipeline.Missing
import PipeShell.Proofs.Pipeline.Pouring
import PipeShell.Proofs.Pipeline.Progress
import PipeShell.Proofs.Pipeline.Remains
import PipeShell.Proofs.Pipeline.Reserving
import PipeShell.Proofs.Pipeline.Row
import PipeShell.Proofs.Pipeline.Runs
import PipeShell.Proofs.Pipeline.Sealing
import PipeShell.Proofs.Pipeline.Starting
import PipeShell.Proofs.Pipeline.Survivors
import PipeShell.Proofs.Pipeline.Tending
import PipeShell.Proofs.Pipeline.Wiring
import PipeShell.Proofs.Pipeline.Yielding
import PipeShell.Proofs.Redirects.Checking
import PipeShell.Proofs.Redirects.Effects
import PipeShell.Proofs.Redirects.Ends
import PipeShell.Proofs.Redirects.FailedOpening
import PipeShell.Proofs.Redirects.Input
import PipeShell.Proofs.Redirects.Opening
import PipeShell.Proofs.Redirects.Writing
import PipeShell.Proofs.Shell.Ambient
import PipeShell.Proofs.Shell.Remembering
import PipeShell.Proofs.Shell.Requests
import PipeShell.Proofs.Shell.Sessions
import PipeShell.Proofs.Shell.Visits
import PipeShell.Proofs.System.Denoting
import PipeShell.Proofs.System.Opening
import PipeShell.Proofs.System.Trees
import PipeShell.Proofs.System.Ways
import PipeShell.Proofs.Text.Decoding
import PipeShell.Proofs.Text.Lines
import PipeShell.Proofs.Token.Grammar
import PipeShell.Proofs.Token.Scanning
import PipeShell.Redirects
import PipeShell.Script.Arithmetic
import PipeShell.Script.Builtin.Basic
import PipeShell.Script.Builtin.Describe
import PipeShell.Script.Builtin.Directory
import PipeShell.Script.Builtin.Jobs
import PipeShell.Script.Builtin.Printing
import PipeShell.Script.Builtin.Signals
import PipeShell.Script.Builtin.Variables
import PipeShell.Script.Command
import PipeShell.Script.Condition
import PipeShell.Script.Copy
import PipeShell.Script.Evaluation
import PipeShell.Script.Exits
import PipeShell.Script.Expansion
import PipeShell.Script.Fields
import PipeShell.Script.Interpreter
import PipeShell.Script.Job
import PipeShell.Script.Limit
import PipeShell.Script.Options
import PipeShell.Script.Parser
import PipeShell.Script.Pattern
import PipeShell.Script.Redirection
import PipeShell.Script.State
import PipeShell.Script.Token
import PipeShell.Session
import PipeShell.Shell
import PipeShell.System.Buffer
import PipeShell.System.Directories
import PipeShell.System.Errno
import PipeShell.System.Failure
import PipeShell.System.FileSystem
import PipeShell.System.Names
import PipeShell.System.OpenFile
import PipeShell.System.Path
import PipeShell.System.Resolve
import PipeShell.System.Status
import PipeShell.Text.Alphanumeric
import PipeShell.Text.Blank
import PipeShell.Text.Comparison
import PipeShell.Text.ControlSequence
import PipeShell.Text.Grapheme
import PipeShell.Text.Grapheme.Class
import PipeShell.Text.Moment
import PipeShell.Text.Printable
import PipeShell.Text.Quoted
import PipeShell.Text.Ranges
import PipeShell.Text.Raw
import PipeShell.Text.Real
import PipeShell.Text.Regex
import PipeShell.Text.Regex.Ordered
import PipeShell.Text.Regex.Parser
import PipeShell.Text.Utf8
import PipeShell.Text.Version
import PipeShell.Theme
import PipeShell.Token
import PipeShell.Token.Lexer
import PipeShell.Utility.Backup
import PipeShell.Utility.Basic
import PipeShell.Utility.Batches
import PipeShell.Utility.Batches.Words
import PipeShell.Utility.Canonical
import PipeShell.Utility.Change
import PipeShell.Utility.Condition
import PipeShell.Utility.Copying
import PipeShell.Utility.Copying.Tree
import PipeShell.Utility.Count
import PipeShell.Utility.Creation
import PipeShell.Utility.Cut
import PipeShell.Utility.Escape
import PipeShell.Utility.Excerpt
import PipeShell.Utility.Expression
import PipeShell.Utility.FileFacts
import PipeShell.Utility.Filter
import PipeShell.Utility.Following
import PipeShell.Utility.Launching
import PipeShell.Utility.Lines
import PipeShell.Utility.Linking
import PipeShell.Utility.Listing
import PipeShell.Utility.Listing.Layout
import PipeShell.Utility.Listing.Request
import PipeShell.Utility.Listing.Scale
import PipeShell.Utility.Listing.Style
import PipeShell.Utility.Mode
import PipeShell.Utility.Moving
import PipeShell.Utility.NamePattern
import PipeShell.Utility.Numbering
import PipeShell.Utility.Options
import PipeShell.Utility.Permissions
import PipeShell.Utility.Printf
import PipeShell.Utility.Printing
import PipeShell.Utility.Quantity
import PipeShell.Utility.Quoting
import PipeShell.Utility.Removal
import PipeShell.Utility.Search
import PipeShell.Utility.Search.Query
import PipeShell.Utility.Search.Style
import PipeShell.Utility.Sequence
import PipeShell.Utility.Sort
import PipeShell.Utility.Sort.Key
import PipeShell.Utility.Sort.Order
import PipeShell.Utility.Sort.Report
import PipeShell.Utility.Status
import PipeShell.Utility.Transfer
import PipeShell.Utility.Translate
import PipeShell.Utility.Unique
