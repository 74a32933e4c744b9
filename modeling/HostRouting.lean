import HostRouting.Text.Blank
import HostRouting.Text.Lines
import HostRouting.Text.Utf8
import HostRouting.Domain.Name
import HostRouting.Text.Graphic
import HostRouting.Url.Basic
import HostRouting.Rules.RuleSet
import HostRouting.Rules.RuleList
import HostRouting.Routing.Snapshot
import HostRouting.Icon.Page
import HostRouting.Icon.TabEvent
import HostRouting.Json.Reader
import HostRouting.Json.Printer
import HostRouting.Json.Fields
import HostRouting.Settings.Changes
import HostRouting.Files.Directory
import HostRouting.Service.Message
import HostRouting.Yaml.Token
import HostRouting.Yaml.Scalar.Plain
import HostRouting.Yaml.Scalar.Quoted
import HostRouting.Yaml.Scalar.Block
import HostRouting.Yaml.Scanner
import HostRouting.Settings.File
import HostRouting.Service.Basic
import HostRouting.Icon.Scheduler
import HostRouting.Gzip.Member
import HostRouting.Command.Basic
import HostRouting.Main
import HostRouting.Proofs.Service.Mirror
import HostRouting.Proofs.Service.Confluence
import HostRouting.Proofs.Service.Installation
import HostRouting.Proofs.Script.Agreement
import HostRouting.Proofs.Service.Fetched
import HostRouting.Proofs.Service.LastWrite
import HostRouting.Proofs.Service.LiveRules
import HostRouting.Routing.Decider
import HostRouting.Proofs.Routing.Memo
import HostRouting.Proofs.Text.Lines
import HostRouting.Proofs.Rules.RuleList
import HostRouting.Proofs.Routing.FromLists
import HostRouting.Proofs.Icon.Tracking
import HostRouting.Proofs.Icon.Toolbar
import HostRouting.Proofs.Icon.Delivery
import HostRouting.Proofs.Script.Embedding
import HostRouting.Proofs.Script.Layout
import HostRouting.Proofs.Text.Utf8
import HostRouting.Proofs.Text.Decimal
import HostRouting.Proofs.Json.Literal
import HostRouting.Proofs.Json.RoundTrip
import HostRouting.Proofs.Files.Directory
import HostRouting.Proofs.Settings.Saving
import HostRouting.Proofs.Service.WellFormed
import HostRouting.Proofs.Service.Parallel
import HostRouting.Proofs.Settings.Notified
import HostRouting.Proofs.Settings.YamlSaving
import HostRouting.Proofs.Settings.Rereading
import HostRouting.Proofs.Service.Documents
import HostRouting.Proofs.Routing.ProxyParts
import HostRouting.Proofs.Rules.Reading
import HostRouting.Proofs.Pattern.Splits
import HostRouting.Proofs.Pattern.Correspondence
import HostRouting.Proofs.Pattern.Bases
import HostRouting.Proofs.Rules.Merging
import HostRouting.Proofs.Rules.Octets
import HostRouting.Proofs.Gzip.Reading
import HostRouting.Proofs.Gzip.Members
import HostRouting.Proofs.Rules.Downloads
import HostRouting.Proofs.Routing.Updates
import HostRouting.Proofs.Icon.InternalPages
import HostRouting.Proofs.Command.Fetching
import HostRouting.Proofs.Icon.Pending
import HostRouting.Proofs.Json.Magnitude
