import JuliaSession.Text.Lines
import JuliaSession.Text.Cells
import JuliaSession.Json.Print
import JuliaSession.Json.Commented
import JuliaSession.Uri
import JuliaSession.Glob
import JuliaSession.Shell.Words
import JuliaSession.Completion
import JuliaSession.Packages
import JuliaSession.Machine.Basic
import JuliaSession.Log.State
import JuliaSession.Shell.Parse
import JuliaSession.Shell.Fields
import JuliaSession.Shell.Format
import JuliaSession.Machine.Process
import JuliaSession.Console.Layout
import JuliaSession.Config.Schema
import JuliaSession.Config.Placeholder
import JuliaSession.Log.Bootstrap
import JuliaSession.Documents
import JuliaSession.Launch.Planner
import JuliaSession.Completion.Provide
import JuliaSession.Components
import JuliaSession.Client.Framing
import JuliaSession.Client.Session
import JuliaSession.Recorder
import JuliaSession.CommandLine.Run
import JuliaSession.Main
import JuliaSession.Proofs.Completion.Widening
import JuliaSession.Proofs.Registry.Basic
import JuliaSession.Proofs.Registry.Handles
import JuliaSession.Proofs.Client.Answers
import JuliaSession.Proofs.Client.Messages
import JuliaSession.Proofs.Client.Runs
import JuliaSession.Proofs.Client.Uses
import JuliaSession.Proofs.Json.Spelling
import JuliaSession.Proofs.Json.Strings
import JuliaSession.Proofs.Json.Lexing
import JuliaSession.Proofs.Json.Arranging
import JuliaSession.Proofs.Json.Sizes
import JuliaSession.Proofs.Json.Weights
import JuliaSession.Proofs.Config.Placeholders
import JuliaSession.Proofs.Completion.Ranges
import JuliaSession.Proofs.Completion.Accepting
import JuliaSession.Proofs.Supervisor.Launching
import JuliaSession.Proofs.Supervisor.Lifetimes
import JuliaSession.Proofs.Config.Merging
import JuliaSession.Proofs.Config.Reading
import JuliaSession.Proofs.Config.Layers
import JuliaSession.Proofs.Client.Documents
import JuliaSession.Proofs.Client.Mirroring
import JuliaSession.Proofs.Client.Upholding
import JuliaSession.Proofs.Client.Responses
import JuliaSession.Proofs.Client.Replies
import JuliaSession.Proofs.Client.Closing
import JuliaSession.Proofs.Config.Fields
import JuliaSession.Proofs.Config.Naming
import JuliaSession.Proofs.Client.Unfailing
import JuliaSession.Proofs.Client.Isolation
import JuliaSession.Proofs.Client.Starting
import JuliaSession.Proofs.Client.Bookkeeping
import JuliaSession.Proofs.Client.Reopening
import JuliaSession.Proofs.Registry.Enrolment
import JuliaSession.Proofs.Supervisor.Outcomes
import JuliaSession.Proofs.Client.Keeping
import JuliaSession.Proofs.Supervisor.Clients
import JuliaSession.Proofs.Supervisor.Teardown
import JuliaSession.Proofs.Client.Stopping
import JuliaSession.Proofs.Config.FileNames
import JuliaSession.Proofs.Config.Tolerance
import JuliaSession.Proofs.CommandLine.Serving
import JuliaSession.Proofs.Registry.Interleaving
import JuliaSession.Proofs.Text.Utf8
import JuliaSession.Proofs.Path.Normalizing
import JuliaSession.Proofs.Uri.RoundTrip
import JuliaSession.Proofs.Documents.History
import JuliaSession.Proofs.Config.Blame
import JuliaSession.Proofs.Config.Sections
import JuliaSession.Proofs.Supervisor.Channels
import JuliaSession.Proofs.Launch.Planning
import JuliaSession.Proofs.CommandLine.Lines
import JuliaSession.Proofs.CommandLine.PackageTable
import JuliaSession.Proofs.Config.Cache
import JuliaSession.Proofs.Log.Lines
import JuliaSession.Proofs.Log.Pairs
import JuliaSession.Proofs.CommandLine.Messages
import JuliaSession.Proofs.Completion.Changes
import JuliaSession.Proofs.Completion.Columns
import JuliaSession.Proofs.Registry.Subscriptions
import JuliaSession.Proofs.Glob.Groups
import JuliaSession.Proofs.Glob.Braces
import JuliaSession.Proofs.Glob.Matching
import JuliaSession.Proofs.Client.FileEvents
import JuliaSession.Proofs.Client.Placing
import JuliaSession.Proofs.Client.Pushing
import JuliaSession.Proofs.Launch.StatusLines
import JuliaSession.Proofs.Config.Dumping
import JuliaSession.Proofs.Config.Substitution
import JuliaSession.Proofs.Log.Reopening
import JuliaSession.Proofs.Log.Failing
import JuliaSession.Proofs.Client.Handlers
