import InjectionWebhook.Cluster.ApiServer
import InjectionWebhook.Cluster.Script
import InjectionWebhook.Main
import InjectionWebhook.Proofs.Attachment
import InjectionWebhook.Proofs.InstallEntries
import InjectionWebhook.Proofs.InjectedPod
import InjectionWebhook.Proofs.Repair
import InjectionWebhook.Proofs.RepairAgreement
import InjectionWebhook.Proofs.Decision
import InjectionWebhook.Proofs.Settling
import InjectionWebhook.Proofs.RepairReach
import InjectionWebhook.Proofs.SecondRepair
import InjectionWebhook.Proofs.ReviewedPatch
import InjectionWebhook.Proofs.Backing
import InjectionWebhook.Proofs.ApiServer
import InjectionWebhook.Proofs.Provision
import InjectionWebhook.Proofs.References
import InjectionWebhook.Proofs.Resolution
import InjectionWebhook.Proofs.Exits
import InjectionWebhook.Proofs.Career
import InjectionWebhook.Proofs.Description
import InjectionWebhook.Proofs.Ensuring
import InjectionWebhook.Proofs.Races
import InjectionWebhook.Proofs.Deadline
import InjectionWebhook.Proofs.OwnerChain
import InjectionWebhook.Proofs.OwnerRounds
import InjectionWebhook.Proofs.OwnerCeiling
import InjectionWebhook.Proofs.Marker
import InjectionWebhook.Proofs.OptingOut
import InjectionWebhook.Proofs.Credentials
import InjectionWebhook.Proofs.Declarations
import InjectionWebhook.Proofs.Staging
import InjectionWebhook.Proofs.Coverage
import InjectionWebhook.Proofs.Conservation
import InjectionWebhook.Proofs.EndpointFile
import InjectionWebhook.Proofs.Scanning
import InjectionWebhook.Proofs.InitSecret
import InjectionWebhook.Proofs.Renumbering
import InjectionWebhook.Proofs.EndpointContract
import InjectionWebhook.Proofs.ConfigRoundTrip
