import Rollout.Backend
import Rollout.Backend.Scripted
import Rollout.Backend.Simulated
import Rollout.Cdp.CommandLine
import Rollout.Cdp.Config
import Rollout.Cdp.Deployment
import Rollout.Cdp.Inspection
import Rollout.Cdp.Manifest
import Rollout.Cdp.Names
import Rollout.Cdp.Options
import Rollout.Cdp.Scenario
import Rollout.Cdp.Seeding
import Rollout.Coin
import Rollout.Coin.Json
import Rollout.Configuration
import Rollout.Deployments
import Rollout.Descriptor
import Rollout.Dialogue
import Rollout.Environment
import Rollout.EnvironmentFile
import Rollout.FileState
import Rollout.FileTree
import Rollout.Graph
import Rollout.Graph.Sorting
import Rollout.Inquiry
import Rollout.Json.Basic
import Rollout.Json.Members
import Rollout.Json.Printer
import Rollout.Json.Reader
import Rollout.Json.Tree
import Rollout.Main
import Rollout.Number.Double
import Rollout.Number.Shortest
import Rollout.Placeholder
import Rollout.Process
import Rollout.Process.Host
import Rollout.Process.Scripted
import Rollout.Program
import Rollout.Program.Scripted
import Rollout.Proofs.Backend.Simulated
import Rollout.Proofs.Cdp.Actions
import Rollout.Proofs.Cdp.Closure
import Rollout.Proofs.Cdp.Deployment
import Rollout.Proofs.Cdp.Manifest
import Rollout.Proofs.Cdp.Persistence
import Rollout.Proofs.Cdp.Phases
import Rollout.Proofs.Cdp.Rehearsal
import Rollout.Proofs.Cdp.Rerun
import Rollout.Proofs.Cdp.Restart
import Rollout.Proofs.Cdp.Seeding
import Rollout.Proofs.Cdp.Variables
import Rollout.Proofs.Coin.Grammar
import Rollout.Proofs.Coin.RoundTrip
import Rollout.Proofs.Configuration.Independence
import Rollout.Proofs.Configuration.Preparation
import Rollout.Proofs.Configuration.Refusal
import Rollout.Proofs.Configuration.Splitting
import Rollout.Proofs.Configuration.Trace
import Rollout.Proofs.Deployments.Files
import Rollout.Proofs.Deployments.Merging
import Rollout.Proofs.Deployments.Rereading
import Rollout.Proofs.Dialogue.Rounds
import Rollout.Proofs.Graph.Canonical
import Rollout.Proofs.Graph.Checks
import Rollout.Proofs.Graph.Countdown
import Rollout.Proofs.Graph.Cycles
import Rollout.Proofs.Graph.HiddenReferences
import Rollout.Proofs.Graph.Order
import Rollout.Proofs.Graph.Validation
import Rollout.Proofs.Inquiry.Alignment
import Rollout.Proofs.Inquiry.Trace
import Rollout.Proofs.Json.Members
import Rollout.Proofs.Json.Nesting
import Rollout.Proofs.Json.RoundTrip
import Rollout.Proofs.Lookup
import Rollout.Proofs.Occurrence
import Rollout.Proofs.Placeholder
import Rollout.Proofs.Provision.Creation
import Rollout.Proofs.Provision.Dependence
import Rollout.Proofs.Provision.Lineage
import Rollout.Proofs.Provision.Preparation
import Rollout.Proofs.Provision.Rearrangement
import Rollout.Proofs.Provision.Recording
import Rollout.Proofs.Provision.Restart
import Rollout.Proofs.Provision.Reuse
import Rollout.Proofs.Provision.Settlement
import Rollout.Proofs.Provision.Stability
import Rollout.Proofs.Provision.Sufficiency
import Rollout.Proofs.Provision.Trace
import Rollout.Proofs.Provision.Visibility
import Rollout.Proofs.References
import Rollout.Proofs.Registry
import Rollout.Proofs.Seeds
import Rollout.Proofs.Seeds.Additions
import Rollout.Proofs.Seid.Events
import Rollout.Proofs.Seid.Replies
import Rollout.Proofs.Sorting.Consistency
import Rollout.Proofs.Sorting.Countdown
import Rollout.Proofs.Sorting.Cycles
import Rollout.Proofs.Sorting.Least
import Rollout.Proofs.Sorting.Order
import Rollout.Proofs.Template.Closure
import Rollout.Proofs.Template.Filling
import Rollout.Proofs.Template.Grammar
import Rollout.Proofs.Template.Interpolation
import Rollout.Proofs.Template.Leaves
import Rollout.Proofs.Template.Obstruction
import Rollout.Proofs.Template.Openings
import Rollout.Proofs.Template.Targets
import Rollout.Proofs.Text.Literals
import Rollout.Proofs.Text.Parts
import Rollout.Proofs.Text.Unsigned
import Rollout.Provision
import Rollout.Registry
import Rollout.Seeds
import Rollout.Seid
import Rollout.Template
import Rollout.Template.Resolution
import Rollout.Text.Alphanumeric
import Rollout.Text.Alphanumeric.Table
import Rollout.Text.Base64
import Rollout.Text.Blank
import Rollout.Text.Commas
import Rollout.Text.NullCharacter
import Rollout.Text.Unsigned
import Rollout.Text.UpperCase
import Rollout.Text.UpperCase.Table
import Rollout.Text.Utf8
