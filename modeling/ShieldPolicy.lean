import ShieldPolicy.Machine.World
import ShieldPolicy.Main
import ShieldPolicy.Policy.Reader
import ShieldPolicy.Proofs.Names
import ShieldPolicy.Proofs.Path.Steps
import ShieldPolicy.Proofs.FileSystem.Table
import ShieldPolicy.Proofs.FileSystem.Walk
import ShieldPolicy.Proofs.FileSystem.Change
import ShieldPolicy.Proofs.FileSystem.Place
import ShieldPolicy.Proofs.Machine.Disk
import ShieldPolicy.Proofs.Machine.Faulty
import ShieldPolicy.Proofs.Output.Clearing
import ShieldPolicy.Proofs.Output.Writing
import ShieldPolicy.Proofs.FileSystem.Progress
import ShieldPolicy.Proofs.Generation.Again
import ShieldPolicy.Proofs.Generation.Exactness
import ShieldPolicy.Proofs.Generation.Inputs
import ShieldPolicy.Proofs.Generation.Sources
import ShieldPolicy.Proofs.Generation.Stability
import ShieldPolicy.Proofs.Host.Answer
import ShieldPolicy.Proofs.Host.Untouched
import ShieldPolicy.Proofs.Path.Climb
import ShieldPolicy.Proofs.Location.Relative
import ShieldPolicy.Proofs.Generation.ContextImport
import ShieldPolicy.Proofs.Generation.Violations
import ShieldPolicy.Proofs.Json.Grammar
import ShieldPolicy.Proofs.Binary64.Shortest
import ShieldPolicy.Proofs.Json.Written
import ShieldPolicy.Proofs.Json.Read
import ShieldPolicy.Proofs.Host.Keeps
import ShieldPolicy.Proofs.Host.Lines
import ShieldPolicy.Proofs.Host.Response
import ShieldPolicy.Proofs.Host.Fits
import ShieldPolicy.Proofs.Host.Serve
import ShieldPolicy.Proofs.Binary64.ReadBack
import ShieldPolicy.Proofs.Provider
import ShieldPolicy.Proofs.FileSystem.Twin
import ShieldPolicy.Proofs.Machine.Alongside
import ShieldPolicy.Proofs.Machine.Alike
import ShieldPolicy.Proofs.Json.Skip
import ShieldPolicy.Proofs.Json.Members
import ShieldPolicy.Proofs.Json.Agreement
import ShieldPolicy.Proofs.Operation.Description
import ShieldPolicy.Proofs.Generation.Alongside
import ShieldPolicy.Proofs.Generation.Order
import ShieldPolicy.Proofs.Host.Alike
import ShieldPolicy.Proofs.Host.Deletion
import ShieldPolicy.Proofs.Program.Loading
import ShieldPolicy.Proofs.Program.Streams
import ShieldPolicy.Proofs.Program.FrontEnds
import ShieldPolicy.Proofs.Operation.Detection
import ShieldPolicy.Proofs.Policy.Determined
import ShieldPolicy.Proofs.Json.Repeats
import ShieldPolicy.Proofs.Operation.Ingestion
import ShieldPolicy.Proofs.Settings.Overlay
import ShieldPolicy.Proofs.Settings.Groups
import ShieldPolicy.Proofs.Settings.Variables
import ShieldPolicy.Proofs.Settings.Layering
import ShieldPolicy.Proofs.Provider.Identity
import ShieldPolicy.Proofs.Provider.Version
import ShieldPolicy.Proofs.Policy.Literal
import ShieldPolicy.Proofs.Generation.ContextLiteral
import ShieldPolicy.Proofs.Json.Scan
import ShieldPolicy.Proofs.Json.Reread
import ShieldPolicy.Proofs.Json.Decoded
import ShieldPolicy.Proofs.Host.Reread
import ShieldPolicy.Proofs.Location.Shortest
import ShieldPolicy.Proofs.Path.Normal
import ShieldPolicy.Proofs.Path.Ancestors
import ShieldPolicy.Proofs.Path.Spelling
import ShieldPolicy.Proofs.FileSystem.Standing
import ShieldPolicy.Proofs.Generation.Anchored
import ShieldPolicy.Proofs.Provider.Installed
