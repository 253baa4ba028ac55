import Loopback.Declaration.Expansion
import Loopback.Proofs.Arguments
import Loopback.Scenario.Play
import Loopback.Proofs.Delivery
import Loopback.Proofs.PostcardRoundTrip
import Loopback.Proofs.Transparency
import Loopback.Proofs.Degradation
import Loopback.Proofs.Publication
import Loopback.Proofs.Lifecycle
import Loopback.Proofs.SignatureCheck
import Loopback.Proofs.EntryName
import Loopback.Proofs.Routing
import Loopback.Proofs.Interleaving
import Loopback.Proofs.Counting
import Loopback.Proofs.Accounting
import Loopback.Proofs.Recording
import Loopback.Proofs.ValidRecord
import Loopback.Proofs.Isolation
import Loopback.Proofs.FailedStart
import Loopback.Proofs.Diagnosis
import Loopback.Proofs.HandedOver
import Loopback.Proofs.Privacy
import Loopback.Proofs.ConstantName
import Loopback.Proofs.Declared
import Loopback.Proofs.TraitName
import Loopback.Proofs.GeneratedCode
import Loopback.Proofs.Agreement
import Loopback.Proofs.PostcardFormat
import Loopback.Proofs.CodecChoice
import Loopback.Proofs.Refusal
import Loopback.Proofs.Building
import Loopback.Proofs.Slots
import Loopback.Proofs.Locality
import Loopback.Proofs.Markers
import Loopback.Proofs.Capture
import Loopback.Proofs.StartedBlock
import Loopback.Proofs.BlockName
import Loopback.Proofs.ServiceList
import Loopback.Proofs.DirectoryHistory
import Loopback.Proofs.Snapshots
import Loopback.Proofs.CanonicalName
import Loopback.Proofs.StatusHistory
import Loopback.Proofs.VariableName
