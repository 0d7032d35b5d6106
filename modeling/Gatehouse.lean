import Gatehouse.Forwarding.Bytes
import Gatehouse.Forwarding.Handling
import Gatehouse.Http.Inbound
import Gatehouse.Listener.Admission
import Gatehouse.Listener.Bytes
import Gatehouse.Listener.Requests
import Gatehouse.Main
import Gatehouse.Pump.Relay
import Gatehouse.Stream.Scripted
import Gatehouse.Proofs.Listener.Accounting
import Gatehouse.Proofs.Listener.Upgrades
import Gatehouse.Proofs.Pump.Flow
import Gatehouse.Proofs.Pump.Session
import Gatehouse.Proofs.Stream.Pipe
import Gatehouse.Proofs.Pump.Tunnel
import Gatehouse.Proofs.Pump.Poll
import Gatehouse.Proofs.Backend.Selection
import Gatehouse.Proofs.Backend.Course
import Gatehouse.Proofs.Forwarding.Upgrade
import Gatehouse.Proofs.Rack.Tunnels
import Gatehouse.Proofs.Registry.Calls
import Gatehouse.Proofs.Registry.Rewriting
import Gatehouse.Proofs.Certificate.Publication
import Gatehouse.Proofs.Forwarding.Security
import Gatehouse.Proofs.Forwarding.HopFields
import Gatehouse.Proofs.Http.LetterCase
import Gatehouse.Proofs.Http.VisibleText
import Gatehouse.Proofs.Forwarding.Opening
import Gatehouse.Proofs.Forwarding.Host
import Gatehouse.Proofs.Forwarding.Provenance
import Gatehouse.Proofs.Pump.Counts
import Gatehouse.Proofs.Listener.BackendFailures
import Gatehouse.Proofs.Forwarding.Targets
import Gatehouse.Proofs.Registry.Filling
import Gatehouse.Proofs.Registry.Listing
import Gatehouse.Proofs.Rack.Rewriting
import Gatehouse.Proofs.Json.Grammar
import Gatehouse.Proofs.Json.Skipping
import Gatehouse.Proofs.Json.Meaning
import Gatehouse.Proofs.Json.Format
import Gatehouse.Proofs.Registry.FileFormat
import Gatehouse.Proofs.Url.Texts
import Gatehouse.Proofs.Backend.Uniformity
import Gatehouse.Proofs.Rack.Paths
import Gatehouse.Proofs.Http.Stripping
import Gatehouse.Proofs.Forwarding.Joining
import Gatehouse.Proofs.Pump.Timing
import Gatehouse.Proofs.Listener.Transfers
import Gatehouse.Proofs.Listener.MalformedTargets
import Gatehouse.Proofs.Forwarding.ServerNames
import Gatehouse.Proofs.Startup.Environment
import Gatehouse.Proofs.Listener.Permits
import Gatehouse.Proofs.Net.Addresses
import Gatehouse.Proofs.Backend.Addresses
import Gatehouse.Proofs.Url.LetterCase
import Gatehouse.Proofs.Url.RackHosts
