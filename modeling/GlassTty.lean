import GlassTty.Text.Utf8
import GlassTty.Text.Blank
import GlassTty.Text.Quoted
import GlassTty.Text.Html
import GlassTty.Text.Base64
import GlassTty.Number.Double
import GlassTty.Json.Printer
import GlassTty.Json.Reader
import GlassTty.Screen.Screen
import GlassTty.Screen.Cursor
import GlassTty.Escape.Parser
import GlassTty.Prompt.Format
import GlassTty.Prompt.Words
import GlassTty.Host.Lookup
import GlassTty.Report.Reporter
import GlassTty.Report.Encoded
import GlassTty.Directive.Buffer
import GlassTty.Directive.Interpret
import GlassTty.Paste.Compose
import GlassTty.Terminal.Request
import GlassTty.Session.Config
import GlassTty.Session.Error
import GlassTty.Session.Owner
import GlassTty.Tty.Line
import GlassTty.Shell.Command
import GlassTty.Shell.Pattern
import GlassTty.Shell.Format
import GlassTty.Shell.Expansion
import GlassTty.Shell.Substitution
import GlassTty.Computer.Console
import GlassTty.Proofs.Terminal.Chunks
import GlassTty.Proofs.Terminal.Run
import GlassTty.Proofs.Escape.Feed
import GlassTty.Proofs.History.Remembers
import GlassTty.Proofs.History.Eviction
import GlassTty.Proofs.History.Ledger
import GlassTty.Proofs.Report.Viewer
import GlassTty.Proofs.Screen.Access
import GlassTty.Proofs.Screen.Rows
import GlassTty.Proofs.Terminal.Bounds
import GlassTty.Proofs.Terminal.Checked
import GlassTty.Proofs.Terminal.Safe
import GlassTty.Proofs.Transcript.Law
import GlassTty.Proofs.Terminal.Moments
import GlassTty.Proofs.Terminal.Settled
import GlassTty.Proofs.Terminal.Due
import GlassTty.Proofs.Screen.Encoding
import GlassTty.Proofs.Screen.Lasting
import GlassTty.Proofs.Terminal.ActiveRows
import GlassTty.Proofs.Terminal.Clean
import GlassTty.Proofs.Report.Offsets
import GlassTty.Proofs.Terminal.Offsets
import GlassTty.Proofs.Directive.Opening
import GlassTty.Proofs.Terminal.Surroundings
import GlassTty.Proofs.Terminal.Requests
import GlassTty.Proofs.Directive.Collection
import GlassTty.Proofs.Directive.Unauthenticated
import GlassTty.Proofs.Directive.Cookie
import GlassTty.Proofs.Escape.Decimal
import GlassTty.Proofs.Directive.Framing
import GlassTty.Proofs.Directive.CarryOver
import GlassTty.Proofs.Terminal.Alternate
import GlassTty.Proofs.Terminal.Lines
import GlassTty.Proofs.Terminal.Resend
import GlassTty.Proofs.Terminal.Answers
import GlassTty.Proofs.Session.Run
import GlassTty.Proofs.Session.Lifetimes
import GlassTty.Proofs.Session.Children
import GlassTty.Proofs.Session.Reported
import GlassTty.Proofs.Terminal.Tidied
import GlassTty.Proofs.Terminal.Resized
import GlassTty.Proofs.Terminal.Clicks
import GlassTty.Proofs.Session.HandedOut
import GlassTty.Proofs.Session.Names
import GlassTty.Proofs.Text.Scan
import GlassTty.Proofs.Escape.Parameters
import GlassTty.Proofs.Escape.Resync
import GlassTty.Proofs.Screen.Blocks
import GlassTty.Proofs.Terminal.Blocks
import GlassTty.Proofs.Terminal.Erasing
import GlassTty.Proofs.History.Leading
import GlassTty.Proofs.History.Undoing
import GlassTty.Proofs.Report.CommandRows
import GlassTty.Proofs.Terminal.Strip
import GlassTty.Proofs.Terminal.Wrapping
import GlassTty.Proofs.Prompt.Words
import GlassTty.Proofs.Text.Html
import GlassTty.Proofs.Directive.PlainText
import GlassTty.Proofs.Prompt.Markup
import GlassTty.Proofs.Json.Object
import GlassTty.Proofs.Directive.Headers
import GlassTty.Proofs.Directive.Lengths
import GlassTty.Proofs.Directive.Editing
import GlassTty.Proofs.Paste.Relative
import GlassTty.Proofs.Paste.Climbing
import GlassTty.Proofs.Paste.Arguments
import GlassTty.Proofs.Paste.Destination
import GlassTty.Proofs.Paste.Submitting
import GlassTty.Proofs.Prompt.Boundaries
import GlassTty.Proofs.Session.Transfer
import GlassTty.Proofs.Terminal.CursorReport
import GlassTty.Proofs.Screen.Layout
