import Samara.Controlled.Ledger
import Samara.Controlled.Conformance
import Samara.Controlled.Faults
import Samara.Controlled.Causes
import Samara.Controlled.Time
import Samara.Authority
import Samara.Live.Panics
import Samara.Controlled.Cutover
import Samara.Layers
import Samara.Routing
import Samara.Reconciliation
import Samara.Live.Lines
import Samara.Live.Handover
import Samara.Profile
import Samara.Controlled.Rejection
import Samara.Controlled.Listing
import Samara.Controlled.Startup
import Samara.Live.Startup
import Samara.Controlled.Pledge
import Samara.Controlled.Provenance
import Samara.Endings
import Samara.Controlled.Current
import Samara.Batches
import Samara.Live.Gate
import Samara.Live.Stdin
import Samara.Controlled.Effects
import Samara.Controlled.Erasure
import Samara.Live.Installed
import Samara.Live.Operations
import Samara.Live.Cleanup
