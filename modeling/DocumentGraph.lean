import DocumentGraph.Main
import DocumentGraph.Proofs.CommandLine.Library
import DocumentGraph.Proofs.Database.Statement
import DocumentGraph.Proofs.Filter.Compilation
import DocumentGraph.Proofs.Filter.Fragment
import DocumentGraph.Proofs.Filter.Grammar
import DocumentGraph.Proofs.Filter.Integers
import DocumentGraph.Proofs.Filter.Scope
import DocumentGraph.Proofs.Filter.Statement
import DocumentGraph.Proofs.Graph.Closed
import DocumentGraph.Proofs.Graph.Definition
import DocumentGraph.Proofs.Graph.Edges
import DocumentGraph.Proofs.Graph.HandedOut
import DocumentGraph.Proofs.Graph.Inventory
import DocumentGraph.Proofs.Graph.Issuing
import DocumentGraph.Proofs.Graph.Lifecycle
import DocumentGraph.Proofs.Graph.PartialWrite
import DocumentGraph.Proofs.Graph.Presented
import DocumentGraph.Proofs.Graph.Refusal
import DocumentGraph.Proofs.Graph.Searching
import DocumentGraph.Proofs.Graph.Similarity
import DocumentGraph.Proofs.Graph.Strictness
import DocumentGraph.Proofs.Identifier.Padding
import DocumentGraph.Proofs.Record.Reading
import DocumentGraph.Proofs.Record.Recoding
import DocumentGraph.Proofs.Record.Schema
import DocumentGraph.Proofs.Scenario
import DocumentGraph.Proofs.Store.Finding
import DocumentGraph.Proofs.Store.Paging
import DocumentGraph.Proofs.Store.Refinement
import DocumentGraph.Proofs.Store.RoundTrip
import DocumentGraph.Proofs.Store.Times
import DocumentGraph.Proofs.Summary
import DocumentGraph.Scenario
import DocumentGraph.Store.Note
import DocumentGraph.Summary
