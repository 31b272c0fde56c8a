import Flowgraph.Main
import Flowgraph.Run.Concurrent
import Flowgraph.Workspace.Folder
import Flowgraph.Proofs.Graph.Walk
import Flowgraph.Proofs.Search.Cycle
import Flowgraph.Proofs.Search.Reach
import Flowgraph.Proofs.Except
import Flowgraph.Proofs.Graph.Checks
import Flowgraph.Proofs.Graph.Sound
import Flowgraph.Proofs.Graph.Built
import Flowgraph.Proofs.Retry.Attempts
import Flowgraph.Proofs.Retry.Loop
import Flowgraph.Proofs.Run.Steps
import Flowgraph.Proofs.Run.Journey
import Flowgraph.Proofs.Run.Along
import Flowgraph.Proofs.Graph.Finish
import Flowgraph.Proofs.Run.Endings
import Flowgraph.Proofs.Graph.Shape
import Flowgraph.Proofs.Graph.Faults
import Flowgraph.Proofs.Run.Delivery
import Flowgraph.Proofs.Run.Events
import Flowgraph.Proofs.Run.Represents
import Flowgraph.Proofs.Run.Decisions
import Flowgraph.Proofs.Run.Delays
import Flowgraph.Proofs.Run.Retries
import Flowgraph.Proofs.Definition.Compiled
import Flowgraph.Proofs.Definition.ReadBack
import Flowgraph.Proofs.Builtin.Calls
import Flowgraph.Proofs.Builtin.SearchedText
import Flowgraph.Proofs.Command.Validated
import Flowgraph.Proofs.Command.Streamed
import Flowgraph.Proofs.Graph.FirstFault
import Flowgraph.Proofs.Retry.ZeroWait
import Flowgraph.Proofs.Recording
import Flowgraph.Proofs.Builtin.StoredValue
import Flowgraph.Proofs.Builtin.FilledTemplate
import Flowgraph.Proofs.Builtin.LetterCase
import Flowgraph.Proofs.Builtin.KeywordRoutes
import Flowgraph.Proofs.Config.Precedence
import Flowgraph.Proofs.Binary64.Whole
import Flowgraph.Proofs.Retry.LongestWait
import Flowgraph.Proofs.Json.Yields
import Flowgraph.Proofs.Run.Turns
