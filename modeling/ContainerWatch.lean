import ContainerWatch.Config.Load
import ContainerWatch.Config.Reading
import ContainerWatch.Config.Settings
import ContainerWatch.Container.Announcement
import ContainerWatch.Container.ChangeEvent
import ContainerWatch.Container.Health
import ContainerWatch.Container.Inspected
import ContainerWatch.Container.Metadata
import ContainerWatch.Container.Port
import ContainerWatch.Container.Shelf
import ContainerWatch.Container.Status
import ContainerWatch.Container.Volume
import ContainerWatch.Dictionary
import ContainerWatch.Engine.Error
import ContainerWatch.Engine.Inspection
import ContainerWatch.Engine.Listing
import ContainerWatch.Engine.Message
import ContainerWatch.Engine.Reply
import ContainerWatch.Engine.Stream
import ContainerWatch.Failure.Chain
import ContainerWatch.Failure.Layers
import ContainerWatch.Failure.NotFound
import ContainerWatch.Failure.System
import ContainerWatch.Failure.Transition
import ContainerWatch.Json.Printer
import ContainerWatch.Json.Reader
import ContainerWatch.Json.Value
import ContainerWatch.Log.Directive
import ContainerWatch.Log.Filter
import ContainerWatch.Log.Line
import ContainerWatch.Main
import ContainerWatch.Numeral
import ContainerWatch.Session
import ContainerWatch.Telemetry.Endpoint
import ContainerWatch.Telemetry.Setup
import ContainerWatch.Text.Alphanumeric
import ContainerWatch.Text.Blank
import ContainerWatch.Text.Split
import ContainerWatch.Time.Clock
import ContainerWatch.Time.Date
import ContainerWatch.Time.Instant
import ContainerWatch.Time.Rfc3339
import ContainerWatch.Time.Wait
import ContainerWatch.Watcher.Channel
import ContainerWatch.Watcher.Machine
import ContainerWatch.Watcher.Notice
import ContainerWatch.Yaml.Block
import ContainerWatch.Yaml.Character
import ContainerWatch.Yaml.Core
import ContainerWatch.Yaml.Layout
import ContainerWatch.Yaml.Node
import ContainerWatch.Yaml.Place
import ContainerWatch.Yaml.Plain
import ContainerWatch.Yaml.Quoted
import ContainerWatch.Yaml.Tag
import ContainerWatch.Yaml.Token
import ContainerWatch.Yaml.Tree
import ContainerWatch.Proofs.LastWord
import ContainerWatch.Proofs.Numeral
import ContainerWatch.Proofs.Yaml.Scalars
import ContainerWatch.Proofs.Text.Separation
import ContainerWatch.Proofs.Time.Calendar
import ContainerWatch.Proofs.Time.Written
import ContainerWatch.Proofs.Container.Items
import ContainerWatch.Proofs.Container.Line
import ContainerWatch.Proofs.Watcher.Schedule
import ContainerWatch.Proofs.Watcher.Delivery
import ContainerWatch.Proofs.Container.PortOrder
import ContainerWatch.Proofs.Container.Announced
import ContainerWatch.Proofs.Time.ReadBack
import ContainerWatch.Proofs.Container.Times
import ContainerWatch.Proofs.Watcher.Lead
import ContainerWatch.Proofs.Config.Room
import ContainerWatch.Proofs.Session.Course
import ContainerWatch.Proofs.Session.Reports
import ContainerWatch.Proofs.Container.Position
import ContainerWatch.Proofs.Container.Recognised
import ContainerWatch.Proofs.Config.Situations
import ContainerWatch.Proofs.Time.EngineTime
import ContainerWatch.Proofs.Text.ByteOrder
import ContainerWatch.Proofs.Container.Published
import ContainerWatch.Proofs.Container.Payload
import ContainerWatch.Proofs.Watcher.Lines
import ContainerWatch.Proofs.Watcher.Closing
import ContainerWatch.Proofs.Watcher.Account
import ContainerWatch.Proofs.Container.Verdict
import ContainerWatch.Proofs.Config.Overrides
import ContainerWatch.Proofs.Container.Reflected
import ContainerWatch.Proofs.Failure.Timeout
import ContainerWatch.Proofs.Container.Labels
import ContainerWatch.Proofs.Container.Values
import ContainerWatch.Proofs.Log.Exclusion
import ContainerWatch.Proofs.Failure.Layers
import ContainerWatch.Proofs.Log.OffDirective
import ContainerWatch.Proofs.Container.KeyGrammar
