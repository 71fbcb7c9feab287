import Joinery.CommandLine.Run
import Joinery.Host.Tree
import Joinery.Main
import Joinery.Proofs.Compile.Meaning
import Joinery.Proofs.Compile.Intermediate
import Joinery.Proofs.Graph.Resolve
import Joinery.Proofs.Graph.Region
import Joinery.Proofs.Compile.Rearranged
import Joinery.Proofs.Assembly.Legible
import Joinery.Proofs.Graph.Catalog
import Joinery.Proofs.Graph.Distance
import Joinery.Proofs.Graph.Reordered
import Joinery.Proofs.Assembly.Filtered
import Joinery.Proofs.Compile.Filtered
import Joinery.Proofs.Compile.Spanning
import Joinery.Proofs.Catalog.Cached
import Joinery.Proofs.Json.Written
import Joinery.Proofs.Json.Printed
import Joinery.Proofs.Json.Record
import Joinery.Proofs.Request.Written
import Joinery.Proofs.Catalog.Columns
import Joinery.Proofs.Catalog.Written
import Joinery.Proofs.Filter.Accepted
import Joinery.Proofs.Assembly.Faults
import Joinery.Proofs.Graph.LocalOptimum
import Joinery.Proofs.Compile.Exposed
import Joinery.Proofs.Graph.Greedy
import Joinery.Proofs.Graph.Economy
import Joinery.Proofs.Request.Columns
import Joinery.Proofs.Request.Packed
import Joinery.Proofs.Request.Gathered
import Joinery.Proofs.Request.Spelling
import Joinery.Proofs.Catalog.Positions
import Joinery.Proofs.Filter.Attribution
import Joinery.Proofs.Filter.Lexing
import Joinery.Proofs.Filter.Conditions
import Joinery.Proofs.Filter.Conjoined
import Joinery.Proofs.Filter.Quoted
import Joinery.Proofs.Filter.Verbatim
import Joinery.Proofs.Graph.ShortestWays
import Joinery.Proofs.Catalog.Scoped
import Joinery.Proofs.Settings.Variables
import Joinery.Proofs.Assembly.Dialects
