import Scanout.Blob
import Scanout.Main
import Scanout.MemoryCard.Builder
import Scanout.Machine.RawReply
import Scanout.Proofs.Routing.Stability
import Scanout.Proofs.Wiring
import Scanout.Proofs.Registry.Ledger
import Scanout.Proofs.Registry.Views
import Scanout.Proofs.Registry.Addition
import Scanout.Proofs.Blob
import Scanout.Proofs.Routing.Capacity
import Scanout.Proofs.Survey
import Scanout.Proofs.Registry.Probing
import Scanout.Proofs.Registry.Reordering
import Scanout.Proofs.Routing.Growth
import Scanout.Proofs.Routing.Exhaustion
import Scanout.Proofs.Routing.Course
import Scanout.Proofs.Routing.InPlace
import Scanout.Proofs.Degradation
import Scanout.Proofs.Repetition
import Scanout.Proofs.Lookup
import Scanout.Proofs.Registry.Permanence
import Scanout.Proofs.Property
import Scanout.Proofs.Builder
import Scanout.Proofs.Config
import Scanout.Proofs.Json
import Scanout.Proofs.Registry.Listing
import Scanout.Proofs.Program
