import Toolpath.Binary64.Arithmetic
import Toolpath.Binary64.Readout
import Toolpath.Configuration.Loading
import Toolpath.Decimal.Reading
import Toolpath.Machine.Request
import Toolpath.Planner.Rehearsal
import Toolpath.Proofs.Planner.Answers
import Toolpath.Proofs.Planner.Delivery
import Toolpath.Proofs.Machine.Dispatching
import Toolpath.Proofs.Machine.Plan
import Toolpath.Proofs.Planner.Conversation
import Toolpath.Proofs.Planner.Depot
import Toolpath.Proofs.Machine.Backpressure
import Toolpath.Proofs.Machine.Chain
import Toolpath.Proofs.Configuration.Usable
import Toolpath.Proofs.Move.Arrival
import Toolpath.Proofs.Machine.Refusal
import Toolpath.Proofs.Machine.Gap
import Toolpath.Proofs.Machine.Independence
import Toolpath.Proofs.Program.Groups
import Toolpath.Proofs.Program.Words
import Toolpath.Proofs.Program.Absolute
import Toolpath.Proofs.Machine.Translation
import Toolpath.Proofs.Distance
import Toolpath.Proofs.Move.Cutting
import Toolpath.Proofs.Machine.Reachable
import Toolpath.Proofs.Machine.Straight
import Toolpath.Proofs.Circle
import Toolpath.Proofs.Move.Calls
import Toolpath.Proofs.Move.Drift
import Toolpath.Proofs.Machine.Inches
import Toolpath.Proofs.Machine.Rates
import Toolpath.Proofs.Machine.Reload
import Toolpath.Proofs.Configuration.Faults
import Toolpath.Proofs.Machine.Gate
import Toolpath.Proofs.Move.Place
import Toolpath.Proofs.Move.Schedule
import Toolpath.Proofs.Move.Spread
import Toolpath.Proofs.Machine.Thinned
import Toolpath.Proofs.Move.Access
import Toolpath.Proofs.Move.Sweep
import Toolpath.Proofs.Move.Mirror
import Toolpath.Proofs.Move.Handedness
import Toolpath.Proofs.Move.Reorder
import Toolpath.Proofs.Move.Components
import Toolpath.Proofs.Machine.Meaning
import Toolpath.Proofs.Machine.OneWay
import Toolpath.Proofs.Move.Shift
import Toolpath.Proofs.Planner.Agreement
import Toolpath.Proofs.Program.Relative
import Toolpath.Proofs.Machine.Shifted
import Toolpath.Proofs.Machine.Halting
import Toolpath.Proofs.Program.Building
import Toolpath.Proofs.Configuration.Entries
import Toolpath.Proofs.Configuration.Shapes
import Toolpath.Proofs.Toml.Distinct
import Toolpath.Proofs.Toml.Reading
import Toolpath.Proofs.Configuration.Described
import Toolpath.Proofs.Configuration.Parsing
