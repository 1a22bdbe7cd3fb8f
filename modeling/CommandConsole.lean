import CommandConsole.Frontend.Editor
import CommandConsole.Main
import CommandConsole.Proofs.History.Entries
import CommandConsole.Proofs.History.Run
import CommandConsole.Proofs.History.Restart
import CommandConsole.Proofs.Completion.Request
import CommandConsole.Proofs.Completion.RoundRobin
import CommandConsole.Proofs.Completion.Sound
import CommandConsole.Proofs.Completion.WellFormed
import CommandConsole.Proofs.Completion.Offered
import CommandConsole.Proofs.Session.Moment
import CommandConsole.Proofs.Session.InStep
import CommandConsole.Proofs.Session.Course
import CommandConsole.Proofs.History.Replay
import CommandConsole.Proofs.Session.Passage
import CommandConsole.Proofs.Session.Unrecorded
import CommandConsole.Proofs.Session.Recorded
import CommandConsole.Proofs.Session.Walk
import CommandConsole.Proofs.Text.LowerCase
import CommandConsole.Proofs.Registry.Slots
import CommandConsole.Proofs.Text.Spaced
import CommandConsole.Proofs.Session.Dispatch
import CommandConsole.Proofs.Session.Shown
import CommandConsole.Proofs.Session.Contained
import CommandConsole.Proofs.Session.LostWrites
import CommandConsole.Proofs.Text.Tokens
import CommandConsole.Proofs.Session.Completed
import CommandConsole.Proofs.Settings.Entries
import CommandConsole.Proofs.Settings.Reading
import CommandConsole.Proofs.Settings.Precedence
import CommandConsole.Proofs.Settings.Unreadable
import CommandConsole.Proofs.Terminal.Stripped
import CommandConsole.Proofs.History.Loaded
import CommandConsole.Proofs.Session.Leaving
import CommandConsole.Proofs.Session.Calm
import CommandConsole.Proofs.Frontend.Served
import CommandConsole.Proofs.Text.CharMap
import CommandConsole.Proofs.Text.UpperCase
import CommandConsole.Proofs.Text.Integer
import CommandConsole.Proofs.Settings.Flattened
import CommandConsole.Proofs.Settings.Coercion
import CommandConsole.Proofs.Settings.Location
import CommandConsole.Proofs.Text.Lines
import CommandConsole.Proofs.Settings.Accepted
import CommandConsole.Proofs.Settings.Written
import CommandConsole.Proofs.Settings.QuotedLines
import CommandConsole.Proofs.Terminal.Colours
import CommandConsole.Proofs.Text.Beginnings
import CommandConsole.Proofs.Completion.Begun
import CommandConsole.Proofs.Settings.NormalPaths
import CommandConsole.Proofs.Settings.Sections
import CommandConsole.Proofs.Log.SetUpAgain
import CommandConsole.Proofs.Registry.Reloaded
import CommandConsole.Proofs.Registry.Bundled
import CommandConsole.Proofs.Session.Listed
import CommandConsole.Proofs.Boot.Tasks
import CommandConsole.Proofs.Boot.Told
import CommandConsole.Proofs.Boot.Reported
