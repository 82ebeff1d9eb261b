import ImageChain.Connection.Timeline
import ImageChain.Main
import ImageChain.Pixel.Samples
import ImageChain.Simulation.Job
import ImageChain.Proofs.Chain.Arity
import ImageChain.Proofs.Chain.Composition
import ImageChain.Proofs.Chain.Magnitude
import ImageChain.Proofs.Config.Validity
import ImageChain.Proofs.Connection.Abandonment
import ImageChain.Proofs.Connection.Forgetting
import ImageChain.Proofs.Connection.SingleFlight
import ImageChain.Proofs.Connection.Timeline
import ImageChain.Proofs.Image.Agreement
import ImageChain.Proofs.Image.Freshness
import ImageChain.Proofs.Image.History
import ImageChain.Proofs.Image.Marking
import ImageChain.Proofs.Image.Resizing
import ImageChain.Proofs.Optimizer.Messages
import ImageChain.Proofs.Optimizer.Negotiation
import ImageChain.Proofs.Pixel.Turning
import ImageChain.Proofs.Program.Writing
import ImageChain.Proofs.Registry.History
import ImageChain.Proofs.Registry.Reachability
import ImageChain.Proofs.Source.Authority
import ImageChain.Proofs.Source.Balance
import ImageChain.Proofs.Source.Confinement
import ImageChain.Proofs.Source.Hosts
import ImageChain.Proofs.Source.Subdirectories
