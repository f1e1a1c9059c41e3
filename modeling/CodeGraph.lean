import CodeGraph.Main
import CodeGraph.Proofs.Run.Recovery
import CodeGraph.Proofs.Run.Isolation
import CodeGraph.Scope.Program
import CodeGraph.Proofs.Extraction.Occurrences
import CodeGraph.Proofs.Graph.PropertyGraph
import CodeGraph.Proofs.Graph.UniqueKeys
import CodeGraph.Proofs.Graph.Server
import CodeGraph.Proofs.Graph.Statements
import CodeGraph.Proofs.Graph.Delivery
import CodeGraph.Proofs.Graph.Totals
import CodeGraph.Proofs.Extraction.Anchoring
import CodeGraph.Proofs.Run.Totals
import CodeGraph.Proofs.Run.Accounting
import CodeGraph.Proofs.Run.Identities
import CodeGraph.Proofs.Files.Hidden
import CodeGraph.Proofs.Graph.Schema
import CodeGraph.Proofs.Command.Extract
import CodeGraph.Proofs.Run.Abort
import CodeGraph.Proofs.Json.RoundTrip
import CodeGraph.Proofs.Graph.Planning
import CodeGraph.Proofs.Graph.Decoding
import CodeGraph.Proofs.Graph.Reloading
import CodeGraph.Proofs.Command.Decoding
import CodeGraph.Proofs.Run.Collisions
import CodeGraph.Proofs.Extraction.HiddenModules
import CodeGraph.Proofs.Files.Order
import CodeGraph.Proofs.Files.Resolution
import CodeGraph.Proofs.Files.Probing
import CodeGraph.Proofs.Files.Spelling
import CodeGraph.Proofs.Graph.Frame
import CodeGraph.Proofs.Extraction.FromImports
import CodeGraph.Proofs.Extraction.SyntaxErrors
import CodeGraph.Proofs.Graph.Counting
import CodeGraph.Proofs.Graph.AddressForms
import CodeGraph.Proofs.Run.Dialects
import CodeGraph.Proofs.Extraction.Names
import CodeGraph.Proofs.Scope.Discipline
import CodeGraph.Proofs.Extraction.Literals
import CodeGraph.Proofs.Files.Semicolons
import CodeGraph.Proofs.Files.Writing
