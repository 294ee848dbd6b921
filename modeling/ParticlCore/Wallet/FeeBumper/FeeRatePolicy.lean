import ParticlCore.Wallet.Wallet
import Mathlib.Tactic.Ring

/-!
# FeeBumper — fee-rate policy

The two ways the rate bump prices a replacement (`wallet/feebumper.cpp`, lines 109-186):
`checkFeeRate` admits a rate the caller supplied, `estimateFeeRate` picks one.

* `estimateFeeRate` is the truncated old rate, plus one satoshi per kvB for the truncation,
  plus the larger of the node's and the wallet's incremental relay fee, raised to the
  wallet's minimum fee rate. `estimateFeeRate_getFee_ge` is what its comment promises: at
  every size `S` at least the original's, the replacement pays the old fee plus one
  incremental relay fee at `S` (BIP125 rules 3 and 4).
* `checkFeeRate` compares the new total fee with `nOldFeeRate.GetFee(S)` plus the increment,
  where the comment says "old fee + relay fee". The truncated old rate re-projected at `S`
  is neither the old fee nor a bound on it, and it is rounded up on its own: a rate the check
  accepts can pay less than the old fee plus the increment (`checkFeeRate_accepts_short`),
  and the wallet's own estimate can be refused (`checkFeeRate_rejects_estimate`).
-/

namespace ParticlCore.Wallet.FeeBumper

open ParticlCore.Wallet

/-- `CheckFeeRate(wallet, wtx, newFeerate, maxTxSize, old_fee, errors)`. -/
def checkFeeRate (w : CWallet) (wtx : CWalletTx) (newFeerate : CFeeRate) (maxTxSize : Int)
    (oldFee : Int) : Except Failure Unit := do
  let minMempoolFeeRate := w.chain.mempoolMinFee
  if newFeerate.getFeePerK < minMempoolFeeRate.getFeePerK then
    throw (.reject .WALLET_ERROR
      [.belowMempoolMinFee newFeerate.getFeePerK minMempoolFeeRate.getFeePerK])
  let size := toUInt32Size maxTxSize
  let newTotalFee := newFeerate.getFee size
  let incrementalRelayFee := max w.chain.relayIncrementalFee w.walletIncrementalRelayFee
  let txSize := w.getVirtualTransactionSize wtx.tx
  let nOldFeeRate := CFeeRate.ofFee oldFee txSize
  let minTotalFee := nOldFeeRate.getFee size + incrementalRelayFee.getFee size
  if newTotalFee < minTotalFee then
    throw (.reject .INVALID_PARAMETER [.insufficientTotalFee newTotalFee minTotalFee
      (nOldFeeRate.getFee size) (incrementalRelayFee.getFee size)])
  let requiredFee := w.getRequiredFee size
  if newTotalFee < requiredFee then
    throw (.reject .INVALID_PARAMETER [.belowRequiredFee requiredFee])
  let maxTxFee := w.m_default_max_tx_fee
  if newTotalFee > maxTxFee then
    throw (.reject .WALLET_ERROR [.aboveMaxTxFeeOption newTotalFee maxTxFee])

/-- `EstimateFeeRate(wallet, wtx, old_fee, coin_control)`. -/
def estimateFeeRate (w : CWallet) (wtx : CWalletTx) (oldFee : Int) (cc : CCoinControl) :
    CFeeRate :=
  let txSize := w.getVirtualTransactionSize wtx.tx
  let feerate := CFeeRate.ofFee oldFee txSize + ⟨1⟩
  let nodeIncrementalRelayFee := w.chain.relayIncrementalFee
  let walletIncrementalRelayFee := w.walletIncrementalRelayFee
  let feerate := feerate + max nodeIncrementalRelayFee walletIncrementalRelayFee
  max feerate (w.getMinimumFeeRate cc)

/-- The rate both pricing paths build from: the truncated old rate, one satoshi per kvB of
slack, and the larger incremental relay fee. -/
def bumpFloor (w : CWallet) (wtx : CWalletTx) (oldFee : Int) : Int :=
  (CFeeRate.ofFee oldFee (w.getVirtualTransactionSize wtx.tx)).nSatoshisPerK + 1 +
    max w.chain.relayIncrementalFee.nSatoshisPerK w.walletIncrementalRelayFee.nSatoshisPerK

theorem estimateFeeRate_nSatoshisPerK (w : CWallet) (wtx : CWalletTx) (oldFee : Int)
    (cc : CCoinControl) :
    (estimateFeeRate w wtx oldFee cc).nSatoshisPerK =
      max (bumpFloor w wtx oldFee) (w.getMinimumFeeRate cc).nSatoshisPerK := by
  simp [estimateFeeRate, bumpFloor]

/-- The floor rate pays the old fee plus one increment at every size `S ≥ T`: the one
satoshi per kvB of slack covers what truncating `old_fee / T` lost, and the increment's own
rounding up fits under the floor's. -/
theorem bumpFloor_getFee_ge {w : CWallet} {wtx : CWalletTx} {oldFee : Int} (h0 : 0 ≤ oldFee)
    (hT : 0 < w.getVirtualTransactionSize wtx.tx)
    (hn : 0 ≤ w.chain.relayIncrementalFee.nSatoshisPerK) {S : Nat}
    (hS : w.getVirtualTransactionSize wtx.tx ≤ S) :
    oldFee + (max w.chain.relayIncrementalFee w.walletIncrementalRelayFee).getFee S ≤
      (⟨bumpFloor w wtx oldFee⟩ : CFeeRate).getFee S := by
  set T := w.getVirtualTransactionSize wtx.tx
  set inc := max w.chain.relayIncrementalFee w.walletIncrementalRelayFee
  set p := (CFeeRate.ofFee oldFee T).nSatoshisPerK
  have hinc : 0 ≤ inc.nSatoshisPerK := by simp only [inc, CFeeRate.max_nSatoshisPerK]; omega
  have hp : 0 ≤ p := CFeeRate.ofFee_nonneg h0 T
  have hfloor : bumpFloor w wtx oldFee = p + 1 + inc.nSatoshisPerK := by
    simp [bumpFloor, p, inc, T]
  -- truncation lost less than `T` satoshi-per-kvB-bytes, and `S ≥ T` only adds
  have hslack : oldFee * 1000 < (p + 1) * S :=
    lt_of_lt_of_le (CFeeRate.lt_ofFee_add_one_mul h0 hT)
      (Int.mul_le_mul_of_nonneg_left (by exact_mod_cast hS) (by omega))
  have hsplit : (p + 1 + inc.nSatoshisPerK) * S = (p + 1) * S + inc.nSatoshisPerK * S := by ring
  have hup := CFeeRate.le_getFee_mul (r := ⟨bumpFloor w wtx oldFee⟩) (show 0 ≤ bumpFloor w wtx oldFee by omega) S
  have hinc' := CFeeRate.getFee_mul_lt hinc S
  simp only [hfloor] at hup ⊢
  omega

/-- Priced at the floor rate, a replacement of size `n ≥ T` pays strictly more than the old
fee, before any rounding of the new fee. -/
theorem oldFee_mul_lt_bumpFloor_mul {w : CWallet} {wtx : CWalletTx} {oldFee : Int}
    (h0 : 0 ≤ oldFee) (hT : 0 < w.getVirtualTransactionSize wtx.tx)
    (hn : 0 ≤ w.chain.relayIncrementalFee.nSatoshisPerK) {S : Nat}
    (hS : w.getVirtualTransactionSize wtx.tx ≤ S) :
    oldFee * 1000 < bumpFloor w wtx oldFee * S := by
  have hp := CFeeRate.ofFee_nonneg h0 (w.getVirtualTransactionSize wtx.tx)
  calc oldFee * 1000
      < ((CFeeRate.ofFee oldFee (w.getVirtualTransactionSize wtx.tx)).nSatoshisPerK + 1) *
          w.getVirtualTransactionSize wtx.tx := CFeeRate.lt_ofFee_add_one_mul h0 hT
    _ ≤ ((CFeeRate.ofFee oldFee (w.getVirtualTransactionSize wtx.tx)).nSatoshisPerK + 1) * S :=
        Int.mul_le_mul_of_nonneg_left (by exact_mod_cast hS) (by omega)
    _ ≤ bumpFloor w wtx oldFee * S :=
        Int.mul_le_mul_of_nonneg_right (by simp only [bumpFloor]; omega) (by omega)

/-- `EstimateFeeRate` meets BIP125 rules 3 and 4 at every replacement size `S ≥ T`, as the
comment at lines 170-176 claims. -/
theorem estimateFeeRate_getFee_ge {w : CWallet} {wtx : CWalletTx} {oldFee : Int}
    (cc : CCoinControl) (h0 : 0 ≤ oldFee) (hT : 0 < w.getVirtualTransactionSize wtx.tx)
    (hn : 0 ≤ w.chain.relayIncrementalFee.nSatoshisPerK) {S : Nat}
    (hS : w.getVirtualTransactionSize wtx.tx ≤ S) :
    oldFee + (max w.chain.relayIncrementalFee w.walletIncrementalRelayFee).getFee S ≤
      (estimateFeeRate w wtx oldFee cc).getFee S :=
  le_trans (bumpFloor_getFee_ge h0 hT hn hS)
    (CFeeRate.getFee_mono (by rw [estimateFeeRate_nSatoshisPerK]; exact le_max_left _ _) S)

/-- A 200-vbyte original paying 200, replaced at 250 vbytes. -/
theorem estimateFeeRate_getFee_ge_sample :
    0 ≤ (200 : Int) ∧ 0 < sampleWallet.getVirtualTransactionSize sampleWalletTx.tx ∧
      0 ≤ sampleWallet.chain.relayIncrementalFee.nSatoshisPerK ∧
      sampleWallet.getVirtualTransactionSize sampleWalletTx.tx ≤ 250 ∧
      200 + (max sampleWallet.chain.relayIncrementalFee
          sampleWallet.walletIncrementalRelayFee).getFee 250 ≤
        (estimateFeeRate sampleWallet sampleWalletTx 200 sampleCoinControl).getFee 250 :=
  ⟨by decide, by decide, by decide, by decide,
    estimateFeeRate_getFee_ge sampleCoinControl (by decide) (by decide) (by decide) (by decide)⟩

/-- `sampleWallet` bumping a 2000-vbyte transaction. -/
def largeTxWallet : CWallet := { sampleWallet with getVirtualTransactionSize := fun _ => 2000 }

/-- An old fee of 2001 at 2000 vbytes truncates to 1000 sat/kvB, which re-projects to 2000 at
the same size: `CheckFeeRate` admits 6000 sat/kvB, whose 12000 satoshi fall one short of the
old fee plus the 10000 satoshi increment. -/
theorem checkFeeRate_accepts_short :
    checkFeeRate largeTxWallet sampleWalletTx ⟨6000⟩ 2000 2001 = .ok () ∧
      (⟨6000⟩ : CFeeRate).getFee 2000 < 2001 +
        (max largeTxWallet.chain.relayIncrementalFee
          largeTxWallet.walletIncrementalRelayFee).getFee 2000 :=
  ⟨rfl, by decide⟩

/-- `sampleWallet` on a node whose incremental relay fee is 5001 sat/kvB, bumping a
140-vbyte transaction. -/
def oddIncrementWallet : CWallet :=
  { sampleWallet with
    chain := { sampleWallet.chain with relayIncrementalFee := ⟨5001⟩ }
    getVirtualTransactionSize := fun _ => 140 }

/-- An old fee of 186 at 140 vbytes: the wallet's estimate, 6330 sat/kvB, pays 893 at 141
vbytes, and `CheckFeeRate` demands 188 + 706 = 894 there. -/
theorem checkFeeRate_rejects_estimate :
    estimateFeeRate oddIncrementWallet sampleWalletTx 186 sampleCoinControl = ⟨6330⟩ ∧
      checkFeeRate oddIncrementWallet sampleWalletTx
          (estimateFeeRate oddIncrementWallet sampleWalletTx 186 sampleCoinControl) 141 186 =
        .error (.reject .INVALID_PARAMETER [.insufficientTotalFee 893 894 188 706]) :=
  ⟨rfl, rfl⟩

end ParticlCore.Wallet.FeeBumper
