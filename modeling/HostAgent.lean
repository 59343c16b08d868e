import HostAgent.Main
import HostAgent.Proofs.Backhaul.Conversation
import HostAgent.Proofs.Backhaul.Quit
import HostAgent.Proofs.Backhaul.Rests
import HostAgent.Proofs.Backhaul.Stages
import HostAgent.Proofs.Fleet.Accounting
import HostAgent.Proofs.Fleet.Budgets
import HostAgent.Proofs.Fleet.Closing
import HostAgent.Proofs.Fleet.HeadGuard
import HostAgent.Proofs.Intake.Lifecycle
import HostAgent.Proofs.Intake.NoticePlaces
import HostAgent.Proofs.Outbound.ApiPaths
import HostAgent.Proofs.Outbound.Credentials
import HostAgent.Proofs.Outbox.Arrivals
import HostAgent.Proofs.Outbox.Looks
import HostAgent.Proofs.Outbox.Trays
import HostAgent.Proofs.Outbox.WakeUps
import HostAgent.Proofs.Backhaul.Address
import HostAgent.Proofs.Fleet.Precedence
import HostAgent.Proofs.Intake.Notices
import HostAgent.Proofs.Json.Escapes
import HostAgent.Proofs.Json.Integers
import HostAgent.Proofs.Json.RoundTrip
import HostAgent.Proofs.Settings.Omissions
import HostAgent.Proofs.Settings.Secrecy
import HostAgent.Proofs.Settings.StartUp
import HostAgent.Proofs.Wire.Envelopes
import HostAgent.Proofs.Wire.KnownFields
