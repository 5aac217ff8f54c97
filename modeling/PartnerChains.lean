import PartnerChains.Ports.AcceptedChain
import PartnerChains.Ports.AccountProviders
import PartnerChains.Ports.AriadneProvider
import PartnerChains.Ports.BlockAgreement
import PartnerChains.Ports.BlockDataSource
import PartnerChains.Ports.BlockProposal
import PartnerChains.Ports.BlockRewards
import PartnerChains.Ports.BlockSearch
import PartnerChains.Ports.BlockSearchResults
import PartnerChains.Ports.BlockVerification
import PartnerChains.Ports.CandidateFilter
import PartnerChains.Ports.CandidatesCache
import PartnerChains.Ports.CandidatesDataSource
import PartnerChains.Ports.CandidatesQuery
import PartnerChains.Ports.CardanoEras
import PartnerChains.Ports.CatchUp
import PartnerChains.Ports.CollateralSelection
import PartnerChains.Ports.CommitteeInherent
import PartnerChains.Ports.CommitteePallet
import PartnerChains.Ports.CommitteeRun
import PartnerChains.Ports.CommitteeSize
import PartnerChains.Ports.ConfigFields
import PartnerChains.Ports.DatumCbor
import PartnerChains.Ports.DatumJson
import PartnerChains.Ports.DbSync
import PartnerChains.Ports.DisabledValidators
import PartnerChains.Ports.Domain
import PartnerChains.Ports.EpochCommittee
import PartnerChains.Ports.GenerateKeys
import PartnerChains.Ports.ImportedBlocks
import PartnerChains.Ports.InitGovernance
import PartnerChains.Ports.LedgerOutputs
import PartnerChains.Ports.LegacyDatums
import PartnerChains.Ports.MainchainDatums
import PartnerChains.Ports.MainchainEpoch
import PartnerChains.Ports.MainchainPrefix
import PartnerChains.Ports.MainchainSlots
import PartnerChains.Ports.McHash
import PartnerChains.Ports.McReference
import PartnerChains.Ports.NativeTokenCache
import PartnerChains.Ports.NativeTokenPallet
import PartnerChains.Ports.NativeTokenQuery
import PartnerChains.Ports.NativeTokenRun
import PartnerChains.Ports.NativeTokenTotals
import PartnerChains.Ports.NodeRuntime
import PartnerChains.Ports.OutputIsolation
import PartnerChains.Ports.PlutusDatum
import PartnerChains.Ports.PrefixOutcome
import PartnerChains.Ports.PrepareConfiguration
import PartnerChains.Ports.Registration
import PartnerChains.Ports.RegistrationsInForce
import PartnerChains.Ports.RegistrationsQuery
import PartnerChains.Ports.ReleasedTokens
import PartnerChains.Ports.ScriptDerivation
import PartnerChains.Ports.SeatDistribution
import PartnerChains.Ports.SelectAuthorities
import PartnerChains.Ports.SelectionData
import PartnerChains.Ports.SelectionEpoch
import PartnerChains.Ports.SelectionOrder
import PartnerChains.Ports.SerdeJson
import PartnerChains.Ports.SessionPallet
import PartnerChains.Ports.SidechainSlots
import PartnerChains.Ports.SlotFilter
import PartnerChains.Ports.StableBlockCache
import PartnerChains.Ports.StableProposal
import PartnerChains.Ports.StoredCommittee
import PartnerChains.Ports.TokenDatums
import PartnerChains.Ports.TokenHolders
import PartnerChains.Ports.TransactionBuilding
import PartnerChains.Ports.Upsert
import PartnerChains.Ports.UpsertConvergence
import PartnerChains.Ports.UtxoText
import PartnerChains.Ports.WizardConfig
import PartnerChains.Ports.WizardIo
import PartnerChains.Verified.BinarySearch
import PartnerChains.Verified.Cbor
import PartnerChains.Verified.Fallible
import PartnerChains.Verified.Interactive
import PartnerChains.Verified.Interleaving
import PartnerChains.Verified.LargestFirst
import PartnerChains.Verified.Relational
import PartnerChains.Verified.Schedule
import PartnerChains.Verified.StableSort
import PartnerChains.Verified.Tally
import PartnerChains.Verified.WeightedDraw
