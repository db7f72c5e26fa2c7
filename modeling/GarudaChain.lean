import GarudaChain.Node.Proofs.RotationProofs
import GarudaChain.Node.Proofs.RollforwardProofs
import GarudaChain.Node.Proofs.PowProofs
import GarudaChain.Node.Proofs.MiningProofs
import GarudaChain.Node.Proofs.MintRpcProofs
import GarudaChain.Node.Proofs.IssuanceProofs
import GarudaChain.Node.Proofs.MerkleProofs
import GarudaChain.Node.Proofs.ReorgProofs
import GarudaChain.Dex.Proofs.OracleSwapProofs
import GarudaChain.Dex.Proofs.QuoteProofs
import GarudaChain.Dex.Proofs.SwapConservationProofs
import GarudaChain.Dex.Proofs.OracleSyncProofs
import GarudaChain.Dex.Proofs.ApbnProofs
import GarudaChain.Dex.Proofs.AssetLogProofs
import GarudaChain.Dex.Proofs.StateRootProofs
import GarudaChain.Miner.Proofs.KernelProofs
import GarudaChain.Extension.Proofs.DataOutputProofs
import GarudaChain.Extension.Proofs.AccountProofs
import GarudaChain.Extension.Proofs.SigningProofs
import GarudaChain.Mobile.Proofs.AddressProofs
import GarudaChain.Mobile.Proofs.P2PProofs
import GarudaChain.Mobile.Proofs.RecoveryProofs
import GarudaChain.Indexer.Proofs.RunProofs
import GarudaChain.Indexer.Proofs.LimiterProofs
import GarudaChain.Api.Proofs.ReplayProofs
import GarudaChain.Api.Proofs.AuditRunProofs
import GarudaChain.Api.Proofs.MintProofs
import GarudaChain.Api.Proofs.TransferProofs
import GarudaChain.Api.Proofs.KeyProviderProofs
import GarudaChain.Api.Proofs.RateLimitProofs
import GarudaChain.Api.Proofs.TradingLedgerProofs
import GarudaChain.Api.Proofs.QrisProofs
import GarudaChain.Api.Proofs.AuditGuardProofs
import GarudaChain.Api.Proofs.SwapReserveProofs
import GarudaChain.Api.Proofs.QuantumAddressProofs
import GarudaChain.Api.Proofs.NonceCacheProofs
import GarudaChain.Realtime.Proofs.CandleProofs
import GarudaChain.Realtime.Proofs.HubProofs
import GarudaChain.Seeder.Proofs.AddrProofs
import GarudaChain.Seeder.Proofs.DnsProofs
