import NodeGateway.Abi.Codec
import NodeGateway.Abi.Json
import NodeGateway.Beacon.Binding
import NodeGateway.Beacon.Error
import NodeGateway.Beacon.Json
import NodeGateway.Beacon.Manager
import NodeGateway.Beacon.Request
import NodeGateway.Beacon.Types
import NodeGateway.Bytes
import NodeGateway.Execution.Error
import NodeGateway.Execution.Json
import NodeGateway.Execution.Manager
import NodeGateway.Execution.Request
import NodeGateway.Execution.Rpc
import NodeGateway.Failover.Concurrent
import NodeGateway.Failover.Dispatch
import NodeGateway.Failover.Interleaving
import NodeGateway.Failover.Json
import NodeGateway.Failover.Pool
import NodeGateway.Failover.Readiness
import NodeGateway.Failover.Register
import NodeGateway.Fault
import NodeGateway.Fault.Connection
import NodeGateway.Fault.Json
import NodeGateway.Fault.Revert
import NodeGateway.Http.Exchange
import NodeGateway.Http.Failure
import NodeGateway.Http.Status
import NodeGateway.Json.Access
import NodeGateway.Json.Complaint
import NodeGateway.Json.Float
import NodeGateway.Json.Number
import NodeGateway.Json.Reader
import NodeGateway.Json.Record
import NodeGateway.Json.Scrap
import NodeGateway.Json.Shape
import NodeGateway.Json.Text
import NodeGateway.Json.Value
import NodeGateway.Json.Writer
import NodeGateway.Log
import NodeGateway.Metrics.Exposition
import NodeGateway.Metrics.Pool
import NodeGateway.Monitor.Polling
import NodeGateway.Monitor.Sync
import NodeGateway.Node.Dialogue
import NodeGateway.Node.Interface
import NodeGateway.Node.Manager
import NodeGateway.Node.Pool
import NodeGateway.Number.Binary64
import NodeGateway.Number.Decimal
import NodeGateway.Number.Numeral
import NodeGateway.Number.Quantity
import NodeGateway.Oracle.Binding
import NodeGateway.Oracle.Error
import NodeGateway.Oracle.Price
import NodeGateway.Problem
import NodeGateway.Proofs.Abi.RoundTrip
import NodeGateway.Proofs.Beacon.Endpoint
import NodeGateway.Proofs.Beacon.Response
import NodeGateway.Proofs.Beacon.RoundTrip
import NodeGateway.Proofs.Beacon.Tolerance
import NodeGateway.Proofs.Execution.Remote
import NodeGateway.Proofs.Execution.Report
import NodeGateway.Proofs.Failover.Concurrent
import NodeGateway.Proofs.Failover.Course
import NodeGateway.Proofs.Failover.Deadline
import NodeGateway.Proofs.Failover.Forced
import NodeGateway.Proofs.Failover.Health
import NodeGateway.Proofs.Failover.Pool
import NodeGateway.Proofs.Failover.Register
import NodeGateway.Proofs.Failover.Restart
import NodeGateway.Proofs.Failover.Schedule
import NodeGateway.Proofs.Failover.Sequential
import NodeGateway.Proofs.Failover.Step
import NodeGateway.Proofs.Failover.Telemetry
import NodeGateway.Proofs.Failover.Transition
import NodeGateway.Proofs.Failover.Transparency
import NodeGateway.Proofs.Fault.Chain
import NodeGateway.Proofs.Fault.Connection
import NodeGateway.Proofs.Fault.Context
import NodeGateway.Proofs.Fault.Reason
import NodeGateway.Proofs.Fault.Revert
import NodeGateway.Proofs.Http.Misreading
import NodeGateway.Proofs.Json.Count
import NodeGateway.Proofs.Json.Ending
import NodeGateway.Proofs.Json.Place
import NodeGateway.Proofs.Monitor.Polling
import NodeGateway.Proofs.Monitor.Sync
import NodeGateway.Proofs.Node.Dialogue
import NodeGateway.Proofs.Node.Manager
import NodeGateway.Proofs.Node.Pool
import NodeGateway.Proofs.Number.Plain
import NodeGateway.Proofs.Number.Rounding
import NodeGateway.Proofs.Oracle.Fee
import NodeGateway.Proofs.Oracle.Verdict
import NodeGateway.Proofs.Query.Batch
import NodeGateway.Proofs.Query.Failover
import NodeGateway.Proofs.Query.Multicall
import NodeGateway.Proofs.Query.Order
import NodeGateway.Proofs.Query.Window
import NodeGateway.Proofs.Request.Race
import NodeGateway.Proofs.Request.Rounds
import NodeGateway.Proofs.Service.AddressList
import NodeGateway.Proofs.Service.Balances
import NodeGateway.Proofs.Service.Status
import NodeGateway.Proofs.Settings.Load
import NodeGateway.Proofs.Transaction.Creation
import NodeGateway.Proofs.Transaction.Gas
import NodeGateway.Proofs.Transaction.Inclusion
import NodeGateway.Proofs.Transaction.Refusal
import NodeGateway.Proofs.Transaction.Simulation
import NodeGateway.Proofs.Transaction.Submission
import NodeGateway.Proofs.Url.Extension
import NodeGateway.Query.Batch
import NodeGateway.Query.Json
import NodeGateway.Query.Multicall
import NodeGateway.Query.Window
import NodeGateway.Request.Json
import NodeGateway.Request.Scope
import NodeGateway.Request.Script
import NodeGateway.Service.AddressList
import NodeGateway.Service.Backend
import NodeGateway.Service.Balances
import NodeGateway.Service.Response
import NodeGateway.Service.Routes
import NodeGateway.Service.Setup
import NodeGateway.Service.Simulate
import NodeGateway.Service.Status
import NodeGateway.Settings.Basic
import NodeGateway.Settings.Convert
import NodeGateway.Settings.DurationText
import NodeGateway.Settings.Error
import NodeGateway.Settings.File
import NodeGateway.Settings.Json
import NodeGateway.Settings.Path
import NodeGateway.Settings.Record
import NodeGateway.Settings.Tree
import NodeGateway.Text.Blank
import NodeGateway.Text.CodeTable
import NodeGateway.Text.CombiningClass
import NodeGateway.Text.Composed
import NodeGateway.Text.Decomposition
import NodeGateway.Text.Hex
import NodeGateway.Text.Mark
import NodeGateway.Text.Quoted
import NodeGateway.Text.Search
import NodeGateway.Text.Shapeless
import NodeGateway.Text.Utf8
import NodeGateway.Time
import NodeGateway.Time.Calendar
import NodeGateway.Toml.Document
import NodeGateway.Toml.Scalar
import NodeGateway.Toml.Text
import NodeGateway.Transaction.Gas
import NodeGateway.Transaction.Inclusion
import NodeGateway.Transaction.Json
import NodeGateway.Transaction.Simulation
import NodeGateway.Transaction.Submission
import NodeGateway.Url.Basic
import NodeGateway.Url.Domain
import NodeGateway.Url.Domain.Direction
import NodeGateway.Url.Domain.Folding
import NodeGateway.Url.Domain.Joining
import NodeGateway.Url.Form
import NodeGateway.Url.Host
import NodeGateway.Url.Path
import NodeGateway.Url.Percent
import NodeGateway.Url.Punycode
import NodeGateway.Url.Reader
