import Bayeux.Config.Source
import Bayeux.Host
import Bayeux.Proofs.Carrier.Alike
import Bayeux.Proofs.Carrier.Departures
import Bayeux.Proofs.Carrier.Refusals
import Bayeux.Proofs.Carrier.Timeouts
import Bayeux.Proofs.Carrier.Writing
import Bayeux.Proofs.Channel.Grammar
import Bayeux.Proofs.Channel.Matching
import Bayeux.Proofs.Config.Defaults
import Bayeux.Proofs.Extension.Offsets
import Bayeux.Proofs.Json.Batches
import Bayeux.Proofs.Packet.Merging
import Bayeux.Proofs.Registry.FanOut
import Bayeux.Proofs.Server.Backlog
import Bayeux.Proofs.Server.Pairings
import Bayeux.Proofs.Server.Publishing
import Bayeux.Proofs.Server.Verdicts
import Bayeux.Proofs.Value.History
import Bayeux.Proofs.Value.Construction
import Bayeux.Proofs.Value.Interchange
import Bayeux.Proofs.Value.Overlays
import Bayeux.Proofs.Version.Grammar
import Bayeux.Proofs.World.Accounts
import Bayeux.Proofs.World.Broadcasts
import Bayeux.Proofs.World.Company
import Bayeux.Proofs.World.Deliveries
import Bayeux.Proofs.World.Endings
import Bayeux.Proofs.World.Expiry
import Bayeux.Proofs.World.Isolation
import Bayeux.Proofs.World.Lifecycle
import Bayeux.Proofs.World.Timed
import Bayeux.World
