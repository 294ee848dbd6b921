import ParticlCore.Wallet.FeeRate
import ParticlCore.Wallet.Transaction
import ParticlCore.Wallet.Wallet
import ParticlCore.Wallet.FeeBumper.FeeRatePolicy
import ParticlCore.Wallet.FeeBumper.TotalBump
import ParticlCore.Wallet.FeeBumper.RateBump
import ParticlCore.Wallet.FeeBumper.Commit
import ParticlCore.Wallet.FeeBumper.Linkage
import ParticlCore.Rpc.Protocol
import ParticlCore.Rpc.Mnemonic
import ParticlCore.Rpc.MnemonicRpc
import ParticlCore.Wallet.Rpc.Addresses
import ParticlCore.Qt.SendConfirmationDialog
import ParticlCore.Qt.SendCoinsDialog
