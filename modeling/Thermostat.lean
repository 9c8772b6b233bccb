import Thermostat.Action.Catalog
import Thermostat.Action.Request
import Thermostat.Action.Session
import Thermostat.Calendar.Date
import Thermostat.Calendar.DateTime
import Thermostat.Calendar.Iso
import Thermostat.Call.Signature
import Thermostat.CommandLine.Grammar
import Thermostat.CommandLine.Invocation
import Thermostat.CommandLine.Run
import Thermostat.CommandLine.Wrap
import Thermostat.Decimal.Basic
import Thermostat.Decimal.Context
import Thermostat.Decimal.Text
import Thermostat.Decimal.Whole
import Thermostat.Double.Basic
import Thermostat.Double.Text
import Thermostat.Entries
import Thermostat.Fault
import Thermostat.Field
import Thermostat.Folder
import Thermostat.Hold.Event
import Thermostat.Hold.Policy
import Thermostat.Hold.Slot
import Thermostat.Json.Reader
import Thermostat.Json.Writer
import Thermostat.Library
import Thermostat.Log.Files
import Thermostat.Log.Hierarchy
import Thermostat.Log.Journal
import Thermostat.Log.Overrides
import Thermostat.Log.Record
import Thermostat.Log.Stamp
import Thermostat.Main
import Thermostat.Path
import Thermostat.Power
import Thermostat.Proofs.Action.Descriptor
import Thermostat.Proofs.Calendar.Wire
import Thermostat.Proofs.Call.Binding
import Thermostat.Proofs.CommandLine.Render
import Thermostat.Proofs.Decimal.Digits
import Thermostat.Proofs.Decimal.Number
import Thermostat.Proofs.Decimal.Reading
import Thermostat.Proofs.Decimal.Whole
import Thermostat.Proofs.Double.Range
import Thermostat.Proofs.Double.Reading
import Thermostat.Proofs.Entries
import Thermostat.Proofs.Folder
import Thermostat.Proofs.Hold.Entries
import Thermostat.Proofs.Hold.Policy
import Thermostat.Proofs.Json.Data
import Thermostat.Proofs.Json.Depth
import Thermostat.Proofs.Json.Number
import Thermostat.Proofs.Json.RoundTrip
import Thermostat.Proofs.Json.Text
import Thermostat.Proofs.Request.HoldPolicy
import Thermostat.Proofs.Request.Making
import Thermostat.Proofs.Request.Numbers
import Thermostat.Proofs.Request.Payload
import Thermostat.Proofs.Request.Rendering
import Thermostat.Proofs.Request.Writable
import Thermostat.Proofs.Session.Course
import Thermostat.Proofs.Session.Delivery
import Thermostat.Proofs.Session.Reports
import Thermostat.Proofs.Settings.Adjust
import Thermostat.Proofs.Settings.Form
import Thermostat.Proofs.Settings.Lines
import Thermostat.Proofs.Settings.ReadForm
import Thermostat.Proofs.Settings.Reading
import Thermostat.Proofs.Settings.Rereading
import Thermostat.Proofs.Settings.RoundTrip
import Thermostat.Proofs.Settings.Saving
import Thermostat.Proofs.Steps
import Thermostat.Proofs.Text.Append
import Thermostat.Proofs.Text.Digits
import Thermostat.Proofs.Text.LowerCase
import Thermostat.Proofs.Text.Split
import Thermostat.Proofs.Text.Trim
import Thermostat.Proofs.Text.Whole
import Thermostat.Proofs.Value.Number
import Thermostat.Proofs.Value.Writable
import Thermostat.Proofs.Vocabulary
import Thermostat.Request.Basic
import Thermostat.Request.Build
import Thermostat.Request.Make
import Thermostat.Request.Text
import Thermostat.Settings.Config
import Thermostat.Settings.Fault
import Thermostat.Settings.Reader
import Thermostat.Settings.Store
import Thermostat.Settings.Substitution
import Thermostat.Temperature
import Thermostat.Text.Blank
import Thermostat.Text.Case
import Thermostat.Text.Case.Context
import Thermostat.Text.Case.Lower
import Thermostat.Text.Case.Upper
import Thermostat.Text.Digit
import Thermostat.Text.Encoding
import Thermostat.Text.Point
import Thermostat.Text.Printable
import Thermostat.Text.Quoted
import Thermostat.Text.Range
import Thermostat.Text.Split
import Thermostat.Value.Basic
import Thermostat.Value.Text
import Thermostat.Vocabulary
import Thermostat.Proofs.Hold.Recognised
import Thermostat.Proofs.Session.Recognised
import Thermostat.Proofs.Session.Unsent
import Thermostat.Proofs.Calendar.Order
import Thermostat.Proofs.Request.WindowOrder
import Thermostat.Proofs.Decimal.Magnitude
import Thermostat.Proofs.Temperature
import Thermostat.Proofs.Field
import Thermostat.Proofs.Request.Refusals
import Thermostat.Proofs.Session.Refusals
import Thermostat.Proofs.Decimal.Arithmetic
import Thermostat.Proofs.Temperature.Conversion
import Thermostat.Proofs.Settings.Faults
import Thermostat.Proofs.CommandLine.Endings
import Thermostat.Proofs.Decimal.Nearness
import Thermostat.Proofs.Decimal.Results
import Thermostat.Proofs.Temperature.RoundTrip
import Thermostat.Proofs.Temperature.Offsets
import Thermostat.Proofs.Hold.Reported
import Thermostat.Proofs.Request.Message
import Thermostat.Proofs.Calendar.DateForm
import Thermostat.Proofs.Calendar.Clock
import Thermostat.Proofs.Calendar.RoundTrip
import Thermostat.Proofs.Calendar.Zulu
import Thermostat.Proofs.Calendar.WireReading
import Thermostat.Proofs.Request.WindowReading
import Thermostat.Proofs.CommandLine.Dates
import Thermostat.Proofs.Action.Hold
import Thermostat.Proofs.Action.Readings
import Thermostat.Proofs.Session.Routes
import Thermostat.Proofs.Request.FanMinutes
import Thermostat.Proofs.Path
import Thermostat.Proofs.Move
import Thermostat.Proofs.Log.Levels
import Thermostat.Proofs.Log.Ancestors
import Thermostat.Proofs.Log.Inheritance
import Thermostat.Proofs.Log.Runs
import Thermostat.Proofs.Log.RequestTrace
import Thermostat.Proofs.Log.Rotation
import Thermostat.Proofs.Log.Opening
import Thermostat.Proofs.Log.Writing
import Thermostat.Proofs.Log.Retention
import Thermostat.Proofs.Text.CaseRuns
import Thermostat.Proofs.Text.UpperCase
import Thermostat.Proofs.Log.Overrides
import Thermostat.Proofs.Value.Exact
import Thermostat.Proofs.Value.Integer
import Thermostat.Proofs.Settings.Runs
import Thermostat.Proofs.Settings.Values
import Thermostat.Proofs.Settings.Further
