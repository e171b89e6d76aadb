import StanzaDelivery.Address
import StanzaDelivery.Address.Preparation
import StanzaDelivery.Address.Tables
import StanzaDelivery.Capacity
import StanzaDelivery.Components
import StanzaDelivery.Configuration
import StanzaDelivery.Configuration.Document
import StanzaDelivery.Configuration.Fault
import StanzaDelivery.Configuration.Variables
import StanzaDelivery.Engine
import StanzaDelivery.Engine.Inspection
import StanzaDelivery.Engine.Metrics
import StanzaDelivery.Escalation
import StanzaDelivery.Escalation.Bounce
import StanzaDelivery.Escalation.Rehearsal
import StanzaDelivery.Fault
import StanzaDelivery.Json.Reader
import StanzaDelivery.Json.Text
import StanzaDelivery.Json.Value
import StanzaDelivery.Json.Writer
import StanzaDelivery.Pool
import StanzaDelivery.Pool.Inspection
import StanzaDelivery.Pool.Settings
import StanzaDelivery.Pool.Workshop
import StanzaDelivery.Proofs.Address.Domains
import StanzaDelivery.Proofs.Address.Preparation
import StanzaDelivery.Proofs.Address.Written
import StanzaDelivery.Proofs.Configuration.Documents
import StanzaDelivery.Proofs.Configuration.Loading
import StanzaDelivery.Proofs.Configuration.Spelling
import StanzaDelivery.Proofs.Configuration.Usability
import StanzaDelivery.Proofs.Engine.Backing
import StanzaDelivery.Proofs.Engine.Books
import StanzaDelivery.Proofs.Engine.Bouncing
import StanzaDelivery.Proofs.Engine.Calls
import StanzaDelivery.Proofs.Engine.Commuting
import StanzaDelivery.Proofs.Engine.Course
import StanzaDelivery.Proofs.Engine.Handles
import StanzaDelivery.Proofs.Engine.Isolation
import StanzaDelivery.Proofs.Engine.Offers
import StanzaDelivery.Proofs.Engine.Outcomes
import StanzaDelivery.Proofs.Engine.Replies
import StanzaDelivery.Proofs.Engine.Settling
import StanzaDelivery.Proofs.Engine.Silence
import StanzaDelivery.Proofs.Engine.Stopping
import StanzaDelivery.Proofs.Engine.Traffic
import StanzaDelivery.Proofs.Engine.Work
import StanzaDelivery.Proofs.Escalation.Bounces
import StanzaDelivery.Proofs.Escalation.Chains
import StanzaDelivery.Proofs.Escalation.Deeds
import StanzaDelivery.Proofs.Escalation.Sequence
import StanzaDelivery.Proofs.Json.Grammar
import StanzaDelivery.Proofs.Json.Numbers
import StanzaDelivery.Proofs.Json.Strings
import StanzaDelivery.Proofs.Pool.Balance
import StanzaDelivery.Proofs.Pool.Crew
import StanzaDelivery.Proofs.Pool.Intake
import StanzaDelivery.Proofs.Pool.Launching
import StanzaDelivery.Proofs.Pool.Patience
import StanzaDelivery.Proofs.Pool.Progress
import StanzaDelivery.Proofs.Pool.Staffing
import StanzaDelivery.Proofs.Routing.Accounts
import StanzaDelivery.Proofs.Routing.Attempts
import StanzaDelivery.Proofs.Routing.Capture
import StanzaDelivery.Proofs.Routing.Components
import StanzaDelivery.Proofs.Routing.Failures
import StanzaDelivery.Proofs.Routing.FanOut
import StanzaDelivery.Proofs.Routing.Inboxes
import StanzaDelivery.Proofs.Routing.LocalDomain
import StanzaDelivery.Proofs.Routing.Locality
import StanzaDelivery.Proofs.Routing.Offline
import StanzaDelivery.Proofs.Routing.Recipients
import StanzaDelivery.Proofs.Routing.Resources
import StanzaDelivery.Proofs.Routing.Targets
import StanzaDelivery.Proofs.Routing.Unreachable
import StanzaDelivery.Proofs.Session.Accounts
import StanzaDelivery.Proofs.Session.Bindings
import StanzaDelivery.Proofs.Session.Changes
import StanzaDelivery.Proofs.Session.Directory
import StanzaDelivery.Proofs.Session.Operations
import StanzaDelivery.Proofs.Session.Priority
import StanzaDelivery.Proofs.Session.Readings
import StanzaDelivery.Proofs.Session.Reconnection
import StanzaDelivery.Proofs.Session.Traffic
import StanzaDelivery.Proofs.Storage.Accounts
import StanzaDelivery.Proofs.Storage.Ledger
import StanzaDelivery.Proofs.Text.Characters
import StanzaDelivery.Proofs.Text.Numerals
import StanzaDelivery.Proofs.Text.Trimming
import StanzaDelivery.Proofs.Workshop.Accounts
import StanzaDelivery.Proofs.Workshop.Admission
import StanzaDelivery.Proofs.Workshop.Completion
import StanzaDelivery.Proofs.Workshop.Course
import StanzaDelivery.Proofs.Workshop.Custody
import StanzaDelivery.Proofs.Workshop.Idling
import StanzaDelivery.Proofs.Workshop.Moves
import StanzaDelivery.Proofs.Workshop.Order
import StanzaDelivery.Proofs.Workshop.Rest
import StanzaDelivery.Proofs.Workshop.Retirement
import StanzaDelivery.Proofs.Workshop.Staffing
import StanzaDelivery.Proofs.Workshop.Throughput
import StanzaDelivery.Report
import StanzaDelivery.Routing.Aim
import StanzaDelivery.Routing.Handover
import StanzaDelivery.Routing.Policy
import StanzaDelivery.Routing.Router
import StanzaDelivery.Routing.Site
import StanzaDelivery.Session
import StanzaDelivery.Session.Flapping
import StanzaDelivery.Session.Priority
import StanzaDelivery.Session.Registry
import StanzaDelivery.Session.State
import StanzaDelivery.Stanza
import StanzaDelivery.Stanza.Error
import StanzaDelivery.Storage.Accounts
import StanzaDelivery.Storage.StanzaStore
import StanzaDelivery.Text.Acute
import StanzaDelivery.Text.Blank
import StanzaDelivery.Text.Joining
import StanzaDelivery.Text.Quoted
import StanzaDelivery.Text.Ranges
import StanzaDelivery.Text.Unseen
import StanzaDelivery.Text.Word
