import TraceFlow.Config.Document
import TraceFlow.Toml.Writer
import TraceFlow.Messages
import TraceFlow.Scripted.Plugin
import TraceFlow.Scripted.Sink
import TraceFlow.Graph.Command
import TraceFlow.Graph.Guarded
import TraceFlow.Proofs.Connect
import TraceFlow.Proofs.Frame
import TraceFlow.Proofs.Changes
import TraceFlow.Proofs.Extends
import TraceFlow.Proofs.Coherent
import TraceFlow.Proofs.Search
import TraceFlow.Proofs.Acyclic
import TraceFlow.Proofs.Sweep
import TraceFlow.Proofs.Demand
import TraceFlow.Proofs.Requests
import TraceFlow.Proofs.Turns
import TraceFlow.Proofs.Phases
import TraceFlow.Proofs.Making
import TraceFlow.Proofs.FirstStep
import TraceFlow.Proofs.Unconnected
import TraceFlow.Proofs.Queue
import TraceFlow.Proofs.Life
import TraceFlow.Proofs.Protocol
import TraceFlow.Proofs.RoundRobin
import TraceFlow.Proofs.Finality
import TraceFlow.Proofs.Counting
import TraceFlow.Proofs.Twins
import TraceFlow.Proofs.Reordering
import TraceFlow.Proofs.Assembly
import TraceFlow.Proofs.Layout
import TraceFlow.Proofs.Adding
import TraceFlow.Proofs.Telling
import TraceFlow.Proofs.Chronicle
import TraceFlow.Proofs.Edges
import TraceFlow.Proofs.Preparing
import TraceFlow.Proofs.Wiring
import TraceFlow.Proofs.Draws
import TraceFlow.Proofs.Answers
import TraceFlow.Proofs.Slot
import TraceFlow.Proofs.Lossless
import TraceFlow.Proofs.Flattening
import TraceFlow.Proofs.Guarded
import TraceFlow.Proofs.Blueprint
import TraceFlow.Proofs.Topology
import TraceFlow.Proofs.Refusals
import TraceFlow.Proofs.Naming
import TraceFlow.Proofs.Stages
import TraceFlow.Proofs.Failing
import TraceFlow.Proofs.Outcome
import TraceFlow.Proofs.Restraint
import TraceFlow.Proofs.Issued
import TraceFlow.Proofs.Shortage
import TraceFlow.Proofs.Numbering
import TraceFlow.Proofs.Growth
import TraceFlow.Proofs.Spelling
import TraceFlow.Proofs.Quoting
import TraceFlow.Proofs.Lines
import TraceFlow.Proofs.RoundTrip
import TraceFlow.Proofs.Solo
import TraceFlow.Proofs.Pipeline
import TraceFlow.Proofs.LastWrite
import TraceFlow.Proofs.Registry
import TraceFlow.Proofs.Contexts
import TraceFlow.Proofs.Overrides
