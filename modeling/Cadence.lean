import Cadence.Calendar
import Cadence.Command.Desk
import Cadence.Command.Evaluate
import Cadence.Command.Example
import Cadence.Command.Execute
import Cadence.Command.Grammar
import Cadence.Command.Line
import Cadence.Command.Schedules
import Cadence.Command.Screen
import Cadence.Config.Checked
import Cadence.Config.EnvFile
import Cadence.Config.Environment
import Cadence.Config.Load
import Cadence.Config.Model
import Cadence.Config.Source
import Cadence.Disk.Path
import Cadence.Disk.Tree
import Cadence.Engine
import Cadence.Fault
import Cadence.Field
import Cadence.Instant.Basic
import Cadence.Instant.Clock
import Cadence.Instant.Reader
import Cadence.Json.Reader
import Cadence.Log.Basic
import Cadence.Log.File
import Cadence.Log.Format
import Cadence.Main
import Cadence.Number.Binary64
import Cadence.Number.Compare
import Cadence.Number.Decimal
import Cadence.Number.Reader
import Cadence.Number.Shortest
import Cadence.Pattern.Basic
import Cadence.Pattern.Check
import Cadence.Pattern.Match
import Cadence.Pattern.Text
import Cadence.Registration.Basic
import Cadence.Schedule.Basic
import Cadence.Schedule.Cron
import Cadence.Session.Basic
import Cadence.Session.Drive
import Cadence.Session.Tick
import Cadence.Text.Blank
import Cadence.Text.Case
import Cadence.Text.Order
import Cadence.Text.Printable
import Cadence.Text.Quoted
import Cadence.Value
import Cadence.Yaml.Cursor
import Cadence.Yaml.Node
import Cadence.Yaml.Reader
import Cadence.Yaml.Scalar
import Cadence.Yaml.Text
import Cadence.Yaml.Token
import Cadence.Zone.America
import Cadence.Zone.Basic
import Cadence.Zone.Europe
import Cadence.Zone.Pacific
import Cadence.Zone.Table
import Cadence.Proofs.Number.Numeral
import Cadence.Proofs.Pattern.Grammar
import Cadence.Proofs.Pattern.Meaning
import Cadence.Proofs.Schedule.Meaning
import Cadence.Proofs.Pattern.Canonical
import Cadence.Proofs.Pattern.RoundTrip
import Cadence.Proofs.Schedule.RoundTrip
import Cadence.Proofs.Number.Rounding
import Cadence.Proofs.Runs
import Cadence.Proofs.Session.History
import Cadence.Proofs.Calendar
import Cadence.Proofs.Zone.Steps
import Cadence.Proofs.Zone.Season
import Cadence.Proofs.Zone.Regular
import Cadence.Proofs.Instant.Projection
import Cadence.Proofs.Instant.Fields
import Cadence.Proofs.Instant.Advance
import Cadence.Proofs.Instant.Texts
import Cadence.Proofs.Schedule.Format
import Cadence.Proofs.Session.Books
import Cadence.Proofs.Session.Orders
import Cadence.Proofs.Session.Races
import Cadence.Proofs.Pattern.Agreement
import Cadence.Proofs.Pattern.Items
import Cadence.Proofs.Pattern.Overlong
import Cadence.Proofs.Pattern.Blame
import Cadence.Proofs.Pattern.Trees
import Cadence.Proofs.Schedule.Making
import Cadence.Proofs.Schedule.Setters
import Cadence.Proofs.Schedule.Evaluation
import Cadence.Proofs.Schedule.Faults
import Cadence.Proofs.Session.Visits
import Cadence.Proofs.Session.RunState
import Cadence.Proofs.Session.Inert
import Cadence.Proofs.Session.Raising
import Cadence.Proofs.Session.Events
import Cadence.Proofs.Session.Independence
import Cadence.Proofs.Config.Schedules
import Cadence.Proofs.Config.Entries
import Cadence.Proofs.Text.Lowering
import Cadence.Proofs.Config.Reading
import Cadence.Proofs.Config.Variables
import Cadence.Proofs.Config.Checked
import Cadence.Proofs.Config.Settings
import Cadence.Proofs.Config.Sources
import Cadence.Proofs.Command.Check
import Cadence.Proofs.Command.Match
import Cadence.Proofs.Config.Expansion
import Cadence.Proofs.Log.Levels
import Cadence.Proofs.Instant.Written
import Cadence.Proofs.Config.Names
import Cadence.Proofs.Config.Timezones
