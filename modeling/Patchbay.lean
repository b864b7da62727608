import Patchbay.CommandLine
import Patchbay.Main
import Patchbay.Sessions
import Patchbay.Proofs.Incremental
import Patchbay.Proofs.Reachable
import Patchbay.Proofs.SelectiveReuse
import Patchbay.Proofs.OwnScope
import Patchbay.Proofs.Unmet
import Patchbay.Proofs.LexicalScope
import Patchbay.Proofs.Histories
import Patchbay.Proofs.Loading
import Patchbay.Proofs.Correspondence
import Patchbay.Proofs.CycleErrors
import Patchbay.Proofs.OpenCycles
import Patchbay.Proofs.Interruptions
import Patchbay.Proofs.Derivations
import Patchbay.Proofs.Greedy
import Patchbay.Proofs.NumberText
import Patchbay.Proofs.DisplayText
import Patchbay.Proofs.ParsedTrees
import Patchbay.Proofs.SavedGraphs
import Patchbay.Proofs.SessionCalls
import Patchbay.Proofs.SessionPlaces
import Patchbay.Proofs.ValueEquality
import Patchbay.Proofs.GuardedEdits
import Patchbay.Proofs.LineSeams
import Patchbay.Proofs.OperatorChains
import Patchbay.Proofs.NextToken
import Patchbay.Proofs.ListFolds
import Patchbay.Proofs.Scanning
import Patchbay.Proofs.InputBindings
import Patchbay.Proofs.Numerals
import Patchbay.Proofs.Splitting
import Patchbay.Proofs.NumberConversions
import Patchbay.Proofs.Carets
import Patchbay.Proofs.ParserProgress
