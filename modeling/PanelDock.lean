import PanelDock.Main
import PanelDock.Inspect
import PanelDock.Monitor
import PanelDock.Proofs.Records
import PanelDock.Proofs.Steps
import PanelDock.Proofs.Layout
import PanelDock.Proofs.Coherence
import PanelDock.Proofs.Operations
import PanelDock.Proofs.Verdicts
import PanelDock.Proofs.Mirror
import PanelDock.Proofs.Simulation
import PanelDock.Proofs.Stacking
import PanelDock.Proofs.Restoring
import PanelDock.Proofs.Commands
import PanelDock.Proofs.Refinement
import PanelDock.Proofs.Rejection
import PanelDock.Proofs.Gestures
import PanelDock.Proofs.Ranking
import PanelDock.Proofs.Sessions
import PanelDock.Proofs.Saving
import PanelDock.Proofs.Merging
import PanelDock.Proofs.Subscribers
import PanelDock.Proofs.Staging
import PanelDock.Proofs.Mounting
import PanelDock.Proofs.Finiteness
import PanelDock.Proofs.Files
import PanelDock.Proofs.Keeping
import PanelDock.Proofs.Replay
import PanelDock.Proofs.Allocation
import PanelDock.Proofs.Reporting
import PanelDock.Proofs.Retelling
import PanelDock.Proofs.Lineage
import PanelDock.Proofs.Numerals
import PanelDock.Proofs.Documents
import PanelDock.Proofs.Timestamps
import PanelDock.Proofs.StateFiles
import PanelDock.Proofs.Ownership
import PanelDock.Proofs.Confinement
import PanelDock.Proofs.Withholding
import PanelDock.Proofs.Pressing
import PanelDock.Proofs.Routing
import PanelDock.Proofs.Passages
import PanelDock.Proofs.Toggling
import PanelDock.Proofs.Independence
import PanelDock.Proofs.Cascade
import PanelDock.Proofs.Appending
import PanelDock.Proofs.Lending
import PanelDock.Proofs.Interference
import PanelDock.Proofs.ActionTexts
import PanelDock.Proofs.Scripts
import PanelDock.Proofs.Replacing
import PanelDock.Proofs.Regions
import PanelDock.Proofs.Quoting
import PanelDock.Proofs.Sections
import PanelDock.Proofs.SettingsFiles
