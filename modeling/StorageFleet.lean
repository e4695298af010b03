import StorageFleet.Api.Address
import StorageFleet.Api.Message
import StorageFleet.Api.Query
import StorageFleet.Api.Route
import StorageFleet.Appliance.Call
import StorageFleet.Appliance.Request
import StorageFleet.Appliance.Resource
import StorageFleet.Appliance.Simulated
import StorageFleet.Catalog
import StorageFleet.Client.Answer
import StorageFleet.Client.Job
import StorageFleet.Client.Login
import StorageFleet.CommandLine
import StorageFleet.Config.Backend
import StorageFleet.Config.Basic
import StorageFleet.Config.Document
import StorageFleet.Config.Loader
import StorageFleet.Deployment.Basic
import StorageFleet.Deployment.Schedule
import StorageFleet.Deployment.Station
import StorageFleet.Deployment.Thread
import StorageFleet.Deployment.Work
import StorageFleet.Fault
import StorageFleet.Fleet.Backend
import StorageFleet.Fleet.Basic
import StorageFleet.Identifier
import StorageFleet.Json.Basic
import StorageFleet.Json.Decode
import StorageFleet.Json.Draft
import StorageFleet.Json.Printer
import StorageFleet.Main
import StorageFleet.Metrics
import StorageFleet.Number.Digits
import StorageFleet.Number.Shortest
import StorageFleet.Operation
import StorageFleet.Page
import StorageFleet.Plan
import StorageFleet.Proofs.Appliance.Bookkeeping
import StorageFleet.Proofs.Client.Address
import StorageFleet.Proofs.Client.Civil
import StorageFleet.Proofs.Client.Classification
import StorageFleet.Proofs.Client.Collection
import StorageFleet.Proofs.Client.Dealing
import StorageFleet.Proofs.Client.Destruction
import StorageFleet.Proofs.Client.Promotion
import StorageFleet.Proofs.Client.Request
import StorageFleet.Proofs.Config.Assembly
import StorageFleet.Proofs.Config.Grammar
import StorageFleet.Proofs.Config.Watch
import StorageFleet.Proofs.Deployment.Cancellation
import StorageFleet.Proofs.Deployment.Company
import StorageFleet.Proofs.Deployment.Frame
import StorageFleet.Proofs.Deployment.Life
import StorageFleet.Proofs.Deployment.Locks
import StorageFleet.Proofs.Deployment.Outside
import StorageFleet.Proofs.Deployment.Peace
import StorageFleet.Proofs.Deployment.Publication
import StorageFleet.Proofs.Deployment.Pursuit
import StorageFleet.Proofs.Deployment.Queue
import StorageFleet.Proofs.Deployment.Scene
import StorageFleet.Proofs.Deployment.Setup
import StorageFleet.Proofs.Deployment.View
import StorageFleet.Proofs.Fleet.Health
import StorageFleet.Proofs.Fleet.Search
import StorageFleet.Proofs.Identifier.Codec
import StorageFleet.Proofs.Job.Look
import StorageFleet.Proofs.Job.Polling
import StorageFleet.Proofs.Json.Records
import StorageFleet.Proofs.Json.Wire
import StorageFleet.Proofs.Plan.Network
import StorageFleet.Proofs.Plan.Transcript
import StorageFleet.Proofs.Rack.Advance
import StorageFleet.Proofs.Rack.Concert
import StorageFleet.Proofs.Rack.Execution
import StorageFleet.Proofs.Rack.Filing
import StorageFleet.Proofs.Rack.Operation
import StorageFleet.Proofs.Rack.Recipe
import StorageFleet.Proofs.Rack.Removal
import StorageFleet.Proofs.Rack.Rooting
import StorageFleet.Proofs.Rack.Selection
import StorageFleet.Proofs.Rack.Sharing
import StorageFleet.Proofs.Rack.Site
import StorageFleet.Proofs.Rack.Tables
import StorageFleet.Proofs.Secrecy.Courses
import StorageFleet.Proofs.Secrecy.Operations
import StorageFleet.Proofs.Secrecy.Password
import StorageFleet.Proofs.Secrecy.Rekeying
import StorageFleet.Proofs.Secrecy.Runs
import StorageFleet.Proofs.Secrecy.Stations
import StorageFleet.Proofs.Secrecy.Tasks
import StorageFleet.Proofs.Session.Attempts
import StorageFleet.Proofs.Session.Errand
import StorageFleet.Proofs.Session.Manners
import StorageFleet.Proofs.Session.Renewals
import StorageFleet.Proofs.Session.SharedFailure
import StorageFleet.Proofs.Session.SingleFlight
import StorageFleet.Proofs.Session.Submission
import StorageFleet.Proofs.Session.Talk
import StorageFleet.Proofs.Task.Crowd
import StorageFleet.Proofs.Task.Playback
import StorageFleet.Proofs.Task.Sequence
import StorageFleet.Proofs.Text.Utf8
import StorageFleet.Proofs.Time.Calendar
import StorageFleet.Proofs.Time.Stamp
import StorageFleet.Proofs.Volume.Agreement
import StorageFleet.Proofs.Volume.Blueprint
import StorageFleet.Proofs.Volume.Clearance
import StorageFleet.Proofs.Volume.Completeness
import StorageFleet.Proofs.Volume.Creation
import StorageFleet.Proofs.Volume.Deletion
import StorageFleet.Proofs.Volume.Delivery
import StorageFleet.Proofs.Volume.Effects
import StorageFleet.Proofs.Volume.Inventory
import StorageFleet.Proofs.Volume.Isolation
import StorageFleet.Proofs.Volume.Listing
import StorageFleet.Proofs.Volume.Naming
import StorageFleet.Proofs.Volume.Opening
import StorageFleet.Proofs.Volume.Order
import StorageFleet.Proofs.Volume.Refusal
import StorageFleet.Proofs.Volume.Requests
import StorageFleet.Proofs.Volume.Retry
import StorageFleet.Proofs.Volume.Store
import StorageFleet.Proofs.Volume.Walk
import StorageFleet.Task
import StorageFleet.Text.Basic
import StorageFleet.Text.Lowercase
import StorageFleet.Text.Percent
import StorageFleet.Text.Printable
import StorageFleet.Text.Quoted
import StorageFleet.Text.Utf8
import StorageFleet.Time.Instant
import StorageFleet.Time.Span
import StorageFleet.Time.Stamp
import StorageFleet.Volume.Basic
import StorageFleet.Volume.Provision
import StorageFleet.Volume.Share
import StorageFleet.Volume.Snapshots
import StorageFleet.Yaml.Cursor
import StorageFleet.Yaml.Node
import StorageFleet.Yaml.Scalar
import StorageFleet.Yaml.Tag
import StorageFleet.Yaml.Token
