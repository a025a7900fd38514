import TunnelFailover.Main
import TunnelFailover.Proofs.Adoption
import TunnelFailover.Proofs.Backoff
import TunnelFailover.Proofs.CidrText
import TunnelFailover.Proofs.Classification
import TunnelFailover.Proofs.Drain
import TunnelFailover.Proofs.Duplicates
import TunnelFailover.Proofs.Exchange
import TunnelFailover.Proofs.FailureCount
import TunnelFailover.Proofs.Frame
import TunnelFailover.Proofs.Heartbeat
import TunnelFailover.Proofs.Iterations
import TunnelFailover.Proofs.JournalRun
import TunnelFailover.Proofs.LocationText
import TunnelFailover.Proofs.PartnerRecord
import TunnelFailover.Proofs.Precedence
import TunnelFailover.Proofs.Refusal
import TunnelFailover.Proofs.Rendering
import TunnelFailover.Proofs.RequestRun
import TunnelFailover.Proofs.Schedule
import TunnelFailover.Proofs.Shutdown
import TunnelFailover.Proofs.Startup
import TunnelFailover.Server
import TunnelFailover.Proofs.JsonBytes
