import LocalVolumes.Cluster.Changes
import LocalVolumes.Exchange.Script
import LocalVolumes.Main
import LocalVolumes.Proofs.Completion
import LocalVolumes.Proofs.Location
import LocalVolumes.Proofs.Ownership
import LocalVolumes.Proofs.Phase
import LocalVolumes.Proofs.Quiescence
import LocalVolumes.Proofs.Trespass
import LocalVolumes.Service
import LocalVolumes.Simulation
import LocalVolumes.Proofs.Resolution
import LocalVolumes.Proofs.Admission
import LocalVolumes.Proofs.Relevance
import LocalVolumes.Proofs.Placeability
import LocalVolumes.Proofs.Failures
import LocalVolumes.Proofs.Wakefulness
import LocalVolumes.Proofs.Annotations
import LocalVolumes.Proofs.Verdict
import LocalVolumes.Proofs.Visibility
import LocalVolumes.Proofs.Cluster.Lifecycle
import LocalVolumes.Proofs.Harmlessness
import LocalVolumes.Proofs.Refusal
import LocalVolumes.Proofs.Acceptance
import LocalVolumes.Proofs.Matching
import LocalVolumes.Proofs.Selection
import LocalVolumes.Proofs.Report
import LocalVolumes.Proofs.Quantity.Grammar
import LocalVolumes.Proofs.Retry
import LocalVolumes.Proofs.Expansion
import LocalVolumes.Proofs.Json.Objects
