import ClusterTopology.Address
import ClusterTopology.Address.Ip
import ClusterTopology.CommandLine
import ClusterTopology.CommandLine.Arguments
import ClusterTopology.Effect
import ClusterTopology.Entries
import ClusterTopology.Failure
import ClusterTopology.Files
import ClusterTopology.Files.Path
import ClusterTopology.Json.Error
import ClusterTopology.Json.Reader
import ClusterTopology.Json.Writer
import ClusterTopology.Locations
import ClusterTopology.Log
import ClusterTopology.Main
import ClusterTopology.Membership
import ClusterTopology.Metadata
import ClusterTopology.Metadata.Error
import ClusterTopology.NameCheck
import ClusterTopology.Number.Binary64
import ClusterTopology.Number.Decimal
import ClusterTopology.Number.Literal
import ClusterTopology.Placement
import ClusterTopology.Proofs.Effect
import ClusterTopology.Proofs.Resolver.Course
import ClusterTopology.Proofs.Resolver.History
import ClusterTopology.Proofs.Resolver.Outage
import ClusterTopology.Proofs.Resolver.Question
import ClusterTopology.Proofs.Resolver.Start
import ClusterTopology.Proofs.Store.Breaks
import ClusterTopology.Proofs.Store.Decode
import ClusterTopology.Proofs.Store.Fallback
import ClusterTopology.Resolver
import ClusterTopology.Settings
import ClusterTopology.Settings.Error
import ClusterTopology.Settings.File
import ClusterTopology.Settings.Listing
import ClusterTopology.Settings.Rule
import ClusterTopology.Settings.Setting
import ClusterTopology.Snitch
import ClusterTopology.Sources.Error
import ClusterTopology.Store
import ClusterTopology.Text.Base64
import ClusterTopology.Text.Blank
import ClusterTopology.Text.LetterCase
import ClusterTopology.Text.Printable
import ClusterTopology.Text.Quoted
import ClusterTopology.Text.Utf8
import ClusterTopology.Value
import ClusterTopology.World
import ClusterTopology.Yaml.Content
import ClusterTopology.Yaml.Cursor
import ClusterTopology.Yaml.Document
import ClusterTopology.Yaml.Error
import ClusterTopology.Yaml.Members
import ClusterTopology.Yaml.Node
import ClusterTopology.Yaml.Object
import ClusterTopology.Yaml.Reader
import ClusterTopology.Yaml.Source
import ClusterTopology.Yaml.Tag
import ClusterTopology.Yaml.Time
import ClusterTopology.Yaml.Token
import ClusterTopology.Yaml.Token.Property
import ClusterTopology.Yaml.Token.Scalar
import ClusterTopology.Yaml.Token.Stream
import ClusterTopology.Yaml.Writer
import ClusterTopology.Proofs.Resolver.Breaks
import ClusterTopology.Proofs.Address.RoundTrip
import ClusterTopology.Proofs.Address.Canonical
import ClusterTopology.Proofs.Address.Denotation
import ClusterTopology.Proofs.Address.Keys
import ClusterTopology.Proofs.Resolver.Isolation
import ClusterTopology.Proofs.Text.Utf8
import ClusterTopology.Proofs.Store.Agreement
import ClusterTopology.Proofs.Store.Persisted
import ClusterTopology.Proofs.Locations.Recoding
import ClusterTopology.Proofs.Events
import ClusterTopology.Proofs.NameCheck.Validation
import ClusterTopology.Proofs.Resolver.Calls
import ClusterTopology.Proofs.Snitch.Start
import ClusterTopology.Proofs.Snitch.Calls
import ClusterTopology.Proofs.CommandLine.Opening
import ClusterTopology.Proofs.CommandLine.Report
import ClusterTopology.Proofs.CommandLine.Closing
import ClusterTopology.Proofs.Resolver.Order
import ClusterTopology.Proofs.Json.Showable
import ClusterTopology.Proofs.Settings.Loading
import ClusterTopology.Proofs.Store.Nesting
import ClusterTopology.Proofs.NameCheck.Verdict
import ClusterTopology.Proofs.Json.Opened
import ClusterTopology.Proofs.Locations.Shape
import ClusterTopology.Proofs.Locations.Union
import ClusterTopology.Proofs.Store.Latest
import ClusterTopology.Proofs.Number.Grammar
import ClusterTopology.Proofs.Address.Grammar
import ClusterTopology.Proofs.Number.Amount
import ClusterTopology.Proofs.Settings.Checking
import ClusterTopology.Proofs.Json.Mapping
import ClusterTopology.Proofs.Settings.Merging
import ClusterTopology.Proofs.Snitch.Timeout
import ClusterTopology.Proofs.Text.Garbled
import ClusterTopology.Proofs.Metadata.Fetching
import ClusterTopology.Proofs.Snitch.OwnLabel
import ClusterTopology.Proofs.Text.Quoted
import ClusterTopology.Proofs.CommandLine.Checking
import ClusterTopology.Proofs.CommandLine.NameSets
import ClusterTopology.Proofs.Settings.Telling
