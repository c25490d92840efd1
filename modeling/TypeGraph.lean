import TypeGraph.Main
import TypeGraph.Query
import TypeGraph.Proofs.Interfaces
import TypeGraph.Proofs.Cycles
import TypeGraph.Proofs.Erasure
import TypeGraph.Proofs.WriteOrder
import TypeGraph.Proofs.Subtypes
import TypeGraph.Proofs.Subgraph
import TypeGraph.Proofs.Placeholders
import TypeGraph.Proofs.Reordering
import TypeGraph.Proofs.Population
import TypeGraph.Proofs.Answers
import TypeGraph.Proofs.Completion
import TypeGraph.Proofs.Fidelity
import TypeGraph.Proofs.PackagePatterns
import TypeGraph.Proofs.GrowingGraph
import TypeGraph.Proofs.ParentChain
import TypeGraph.Proofs.Faults
import TypeGraph.Proofs.Rebuilding
import TypeGraph.Proofs.PackageGraph
import TypeGraph.Proofs.QuestionOrder
import TypeGraph.Proofs.RoundTrip
import TypeGraph.Proofs.SymbolKeys
import TypeGraph.Proofs.ReferenceHistory
import TypeGraph.Proofs.FilterRegister
import TypeGraph.Proofs.WellFormed
