import Hivra.ManagedVenice.OverageRecords
import Hivra.Yearly.PaidOnce
import Hivra.AgentNetwork.AuditChain
import Hivra.AgentNetwork.OrganizationOwners
import Hivra.AgentNetwork.SharedNarrowing
import Hivra.AgentAuthority.EvidenceLock
import Hivra.AgentAuthority.BoundRevisions
import Hivra.DepositSweep.MovedOnce
import Hivra.ProviderPower.DispatchedOnce
import Hivra.ModelKeys.SettingsInStep
import Hivra.Relay.RevocationCut
import Hivra.Relay.TicketsOnce
import Hivra.TreasurySweep.TreasurySends
import Hivra.RestorePoints.PointsKept
import Hivra.RemoteDesktop.OneController
import Hivra.TokenTiers.ConcurrentRows
import Hivra.HetznerOrders.BootOnce
import Hivra.CardGate.OneAccount
import Hivra.StripeEvents.AckedOnce
import Hivra.WalletTakeover.StandingRevoked
import Hivra.StripeSubscriptions.GraceCutOff
import Hivra.StripeSubscriptions.OnlyDuplicates
import Hivra.AppleLane.LateNotices
import Hivra.ManagedVenice.SweptCharges
import Hivra.StripeSubscriptions.PayersKept
import Hivra.Instances.PurgeWins
import Hivra.Instances.ColdOnce
import Hivra.Instances.ColdTenants
import Hivra.Launches.OneLaunch
import Hivra.ManagedVenice.OldestFirst
import Hivra.ManagedVenice.Admission
import Hivra.Credits.ReservedWithinBalance
import Hivra.Anthropic.Conversations
import Hivra.ManagedVenice.AffordableCap
import Hivra.BaseScan.LogRanges
import Hivra.Venice.StreamAccounting
import Hivra.Venice.ResponsesObserver
import Hivra.TokenTiers.YearlyCap
import Hivra.TokenTiers.ConvertedRows
import Hivra.Prices.HalfWindow
import Hivra.LiveUpdates.UpdateGate
import Hivra.ManagedAgents.ServerSentEvents
import Hivra.ManagedAgents.SessionTranscript
import Hivra.ManagedAgents.WorkspaceDownload
