import VparFleet.Main
import VparFleet.Proofs.Console.Calls
import VparFleet.Proofs.Console.PromptWaits
import VparFleet.Proofs.Console.Transcript
import VparFleet.Proofs.Controller.Listing
import VparFleet.Proofs.Controller.PlacementFrame
import VparFleet.Proofs.Controller.Provenance
import VparFleet.Proofs.Controller.Reclaiming
import VparFleet.Proofs.Controller.SentText
import VparFleet.Proofs.KeyedLock.Leftovers
import VparFleet.Proofs.Monitor.Cancellation
import VparFleet.Proofs.Monitor.Coalescing
import VparFleet.Proofs.Monitor.FleetTotals
import VparFleet.Proofs.Monitor.RehearsedLoop
import VparFleet.Proofs.Monitor.Repeating
import VparFleet.Proofs.Partition.Histories
import VparFleet.Proofs.Placement.AfterRefresh
import VparFleet.Proofs.Placement.Extents
import VparFleet.Proofs.Provisioning.Artefacts
import VparFleet.Proofs.Report.EmptyElements
import VparFleet.Proofs.Report.ManagementCard
import VparFleet.Proofs.Report.PrintedCapacity
import VparFleet.Proofs.Report.PrintedInventory
import VparFleet.Proofs.Session.CommandOutput
import VparFleet.Proofs.Session.HostKeyPinning
import VparFleet.Proofs.Shell.Appending
import VparFleet.Proofs.Store.PlacementCalls
import VparFleet.Rehearsal.RefreshLoop
import VparFleet.Rehearsal.Server
import VparFleet.Rehearsal.Workplace
