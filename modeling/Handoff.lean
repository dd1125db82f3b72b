import Handoff.Main
import Handoff.Proofs.Artifact.Pinned
import Handoff.Proofs.CommandLine.CheckConfig
import Handoff.Proofs.Config.Precedence
import Handoff.Proofs.ContentType
import Handoff.Proofs.Gather.Delivery
import Handoff.Proofs.Gather.Diagram
import Handoff.Proofs.Gather.FirstRequest
import Handoff.Proofs.Route.Complete
import Handoff.Proofs.Route.Placement
import Handoff.Proofs.Shutdown.Requests
import Handoff.Proofs.Tls.Identity
import Handoff.Proofs.Tls.Material
import Handoff.Proofs.Upload.KeptBody
import Handoff.Proofs.Waitfile
import Handoff.Proofs.Worker.ErrorLog
import Handoff.Upload.File
import Handoff.Proofs.Path
