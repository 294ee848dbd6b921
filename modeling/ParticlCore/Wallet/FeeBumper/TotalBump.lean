import ParticlCore.Wallet.FeeBumper.FeeRatePolicy
import Mathlib.Data.List.Forall2

/-!
# FeeBumper — the total bump

`CreateTotalBumpTransaction` (lines 224-349), the legacy strategy that pays the fee increase
out of the original's single change output. The model follows the source's own seams:

* `scanChange` is the loop at lines 246-254 that finds the change output;
* `totalBumpFee` is lines 268-292, the new fee rate and fee;
* `shrinkChange` is lines 319-344, which lowers the change output, discards it as dust, and
  drops the opt-in signal when asked.

`totalBumpFee_eq_estimate` shows the pricing is the rate bump's `EstimateFeeRate` at the new
size. `ReachesShrink` collects everything checked before line 319, and
`createTotalBumpTransaction_reaches` says once that a call which returns OK or hits the
`assert` got there; the properties of a built replacement then come from `shrinkChange`.
-/

namespace ParticlCore.Wallet.FeeBumper

open ParticlCore.Wallet

/-! ## The change scan -/

/-- The loop at lines 246-254 from position `i` on, with the change output found so far. -/
def scanChange (isChange : CTxOut → Bool) :
    List CTxOut → Nat → Option (Nat × CTxOut) → Except Failure (Option (Nat × CTxOut))
  | [], _, nOutput => .ok nOutput
  | o :: os, i, nOutput =>
    if isChange o then
      if nOutput.isSome then .error (.reject .WALLET_ERROR [.multipleChangeOutputs])
      else scanChange isChange os (i + 1) (some (i, o))
    else scanChange isChange os (i + 1) nOutput

theorem scanChange_error {f : CTxOut → Bool} {l : List CTxOut} {i : Nat}
    {acc : Option (Nat × CTxOut)} {e : Failure} (h : scanChange f l i acc = .error e) :
    e = .reject .WALLET_ERROR [.multipleChangeOutputs] := by
  induction l generalizing i acc with
  | nil => cases h
  | cons o os ih =>
    simp only [scanChange] at h
    split_ifs at h
    · cases h; rfl
    · exact ih h
    · exact ih h

/-- Once a change output is found, the scan keeps it exactly when no other follows. -/
theorem scanChange_some {f : CTxOut → Bool} {l : List CTxOut} {i : Nat} {a : Nat × CTxOut}
    {r : Option (Nat × CTxOut)} :
    scanChange f l i (some a) = .ok r ↔ r = some a ∧ ∀ o ∈ l, f o = false := by
  induction l generalizing i with
  | nil => simp only [scanChange, Except.ok.injEq, List.not_mem_nil]; exact ⟨fun h => ⟨h.symm, nofun⟩, fun h => h.1.symm⟩
  | cons o os ih => cases h : f o <;> simp [scanChange, h, ih]

/-- The scan from position `i` returns output `c` at `k` exactly when `c` is the only change
output, at `k - i`. -/
theorem scanChange_none {f : CTxOut → Bool} {l : List CTxOut} {i k : Nat} {c : CTxOut} :
    scanChange f l i none = .ok (some (k, c)) ↔
      ∃ j, k = i + j ∧ l[j]? = some c ∧ f c = true ∧
        ∀ j' c', l[j']? = some c' → f c' = true → j' = j := by
  induction l generalizing i with
  | nil => simp [scanChange]
  | cons o os ih =>
    cases h : f o
    · -- `o` is not change: the scan goes on from the next position
      simp only [scanChange, h, Bool.false_eq_true, if_false, ih]
      constructor
      · rintro ⟨j, rfl, hj, hc, hu⟩
        refine ⟨j + 1, by omega, by rwa [List.getElem?_cons_succ], hc, fun j' c' hj' hc' => ?_⟩
        cases j' with
        | zero =>
          rw [List.getElem?_cons_zero, Option.some.injEq] at hj'
          rw [← hj', h] at hc'
          cases hc'
        | succ j' => rw [hu j' c' (by rwa [List.getElem?_cons_succ] at hj') hc']
      · rintro ⟨j, rfl, hj, hc, hu⟩
        cases j with
        | zero =>
          rw [List.getElem?_cons_zero, Option.some.injEq] at hj
          rw [← hj, h] at hc
          cases hc
        | succ j =>
          refine ⟨j, by omega, by rwa [List.getElem?_cons_succ] at hj, hc, fun j' c' hj' hc' => ?_⟩
          have := hu (j' + 1) c' (by rwa [List.getElem?_cons_succ]) hc'
          omega
    · -- `o` is change: it is the answer exactly when no change output follows
      simp only [scanChange, h, if_true, Option.isSome_none, Bool.false_eq_true, if_false,
        scanChange_some, Option.some.injEq, Prod.mk.injEq]
      constructor
      · rintro ⟨⟨rfl, rfl⟩, hos⟩
        refine ⟨0, by omega, List.getElem?_cons_zero, h, fun j' c' hj' hc' => ?_⟩
        cases j' with
        | zero => rfl
        | succ j' =>
          rw [List.getElem?_cons_succ] at hj'
          rw [hos c' (List.getElem?_mem hj')] at hc'
          cases hc'
      · rintro ⟨j, rfl, hj, hc, hu⟩
        have hj0 : j = 0 := (hu 0 o List.getElem?_cons_zero h).symm
        subst hj0
        rw [List.getElem?_cons_zero, Option.some.injEq] at hj
        refine ⟨⟨by omega, hj.symm⟩, fun o' ho' => ?_⟩
        obtain ⟨m, hm⟩ := List.getElem?_of_mem ho'
        cases ho : f o'
        · rfl
        · exact absurd (hu (m + 1) o' (by rwa [List.getElem?_cons_succ]) ho) (by omega)

/-! ## Pricing, lines 268-292 -/

/-- Line 269: the fee of the original, from the wallet's own debit. -/
def totalBumpOldFee (w : CWallet) (wtx : CWalletTx) : Int :=
  w.cachedTxGetDebit wtx - getValueOut wtx.tx

/-- Line 262, as the `uint32_t` size the fee arithmetic receives. -/
def totalBumpSize (w : CWallet) (wtx : CWalletTx) : Nat :=
  toUInt32Size (w.calculateMaximumSignedTxSize wtx.tx none)

/-- Lines 268-292: the minimum fee at the new size, raised to the old rate plus one satoshi
per kvB plus the larger incremental relay fee when its rate falls short. Returns
`nNewFeeRate` and `new_fee`. -/
def totalBumpFee (w : CWallet) (wtx : CWalletTx) (cc : CCoinControl) (oldFee : Int)
    (maxNewTxSize : Nat) : CFeeRate × Int :=
  let txSize := w.getVirtualTransactionSize wtx.tx
  let nOldFeeRate := CFeeRate.ofFee oldFee txSize
  let nodeIncrementalRelayFee := w.chain.relayIncrementalFee
  let walletIncrementalRelayFee :=
    if w.walletIncrementalRelayFee < nodeIncrementalRelayFee then nodeIncrementalRelayFee
    else w.walletIncrementalRelayFee
  let newFee := w.getMinimumFee maxNewTxSize cc
  let nNewFeeRate := CFeeRate.ofFee newFee maxNewTxSize
  if nNewFeeRate.getFeePerK < nOldFeeRate.getFeePerK + 1 + walletIncrementalRelayFee.getFeePerK
  then
    let nNewFeeRate : CFeeRate :=
      ⟨nOldFeeRate.getFeePerK + 1 + walletIncrementalRelayFee.getFeePerK⟩
    (nNewFeeRate, nNewFeeRate.getFee maxNewTxSize)
  else (nNewFeeRate, newFee)

/-- The two outcomes of the pricing: the floor rate when the minimum fee's own rate is below
it, else the minimum fee unchanged. -/
theorem totalBumpFee_eq (w : CWallet) (wtx : CWalletTx) (cc : CCoinControl) (oldFee : Int)
    (n : Nat) :
    totalBumpFee w wtx cc oldFee n =
      if (CFeeRate.ofFee (w.getMinimumFee n cc) n).nSatoshisPerK < bumpFloor w wtx oldFee
      then (⟨bumpFloor w wtx oldFee⟩, (⟨bumpFloor w wtx oldFee⟩ : CFeeRate).getFee n)
      else (CFeeRate.ofFee (w.getMinimumFee n cc) n, w.getMinimumFee n cc) := by
  have hinc : (if w.walletIncrementalRelayFee < w.chain.relayIncrementalFee
      then w.chain.relayIncrementalFee else w.walletIncrementalRelayFee).nSatoshisPerK =
      max w.chain.relayIncrementalFee.nSatoshisPerK w.walletIncrementalRelayFee.nSatoshisPerK := by
    split <;> rename_i h <;> rw [CFeeRate.lt_iff] at h <;> omega
  simp only [totalBumpFee, CFeeRate.getFeePerK_eq, hinc, bumpFloor]

/-- The legacy total bump prices a replacement exactly as the rate bump's `EstimateFeeRate`
does at the new size: comparing the minimum fee's truncated rate with the floor picks the
same fee as comparing the minimum rate itself, because truncating the rounded-up fee back
to a rate lands between the rate and a rate with the same fee. -/
theorem totalBumpFee_eq_estimate (w : CWallet) (wtx : CWalletTx) (cc : CCoinControl)
    (oldFee : Int) (n : Nat) (hm : 0 ≤ (w.getMinimumFeeRate cc).nSatoshisPerK) :
    (totalBumpFee w wtx cc oldFee n).2 = (estimateFeeRate w wtx oldFee cc).getFee n := by
  have hest : (estimateFeeRate w wtx oldFee cc).getFee n =
      (⟨max (bumpFloor w wtx oldFee) (w.getMinimumFeeRate cc).nSatoshisPerK⟩ : CFeeRate).getFee n :=
    CFeeRate.getFee_congr (estimateFeeRate_nSatoshisPerK w wtx oldFee cc) n
  rw [totalBumpFee_eq, hest]
  simp only [CWallet.getMinimumFee]
  rcases Nat.eq_zero_or_pos n with rfl | hn
  · split <;> simp
  obtain ⟨hmq, hqg⟩ := CFeeRate.le_ofFee_getFee hm hn
  split
  · -- the floor wins on both sides: the minimum rate is below the truncated rate
    rw [max_eq_left (by omega)]
  · by_cases hLm : bumpFloor w wtx oldFee ≤ (w.getMinimumFeeRate cc).nSatoshisPerK
    · rw [max_eq_right hLm]
    · -- the floor lies between the minimum rate and the truncated rate, so its fee is theirs
      rw [max_eq_left (by omega)]
      have h1 := CFeeRate.getFee_mono (a := w.getMinimumFeeRate cc)
        (b := ⟨bumpFloor w wtx oldFee⟩) (by show _ ≤ bumpFloor w wtx oldFee; omega) n
      have h2 := CFeeRate.getFee_mono (a := ⟨bumpFloor w wtx oldFee⟩)
        (b := CFeeRate.ofFee ((w.getMinimumFeeRate cc).getFee n) n) (by show bumpFloor w wtx oldFee ≤ _; omega) n
      omega

/-- `sampleWallet` prices its 200-vbyte transaction, paying 1000, at 200 vbytes. -/
theorem totalBumpFee_eq_estimate_sample :
    0 ≤ (sampleWallet.getMinimumFeeRate sampleCoinControl).nSatoshisPerK ∧
      (totalBumpFee sampleWallet sampleWalletTx sampleCoinControl 1000 200).2 =
        (estimateFeeRate sampleWallet sampleWalletTx 1000 sampleCoinControl).getFee 200 :=
  ⟨by decide, totalBumpFee_eq_estimate _ _ _ _ _ (by decide)⟩

/-- With the original at least `T ≥ 1` vbytes, the replacement sized no smaller, and the node's
rates and the new rate non-negative, the new fee exceeds the old one. -/
theorem oldFee_lt_totalBumpFee {w : CWallet} {wtx : CWalletTx} {cc : CCoinControl}
    {oldFee : Int} {n : Nat} (hT : 0 < w.getVirtualTransactionSize wtx.tx)
    (hTn : w.getVirtualTransactionSize wtx.tx ≤ n)
    (hinc : 0 ≤ w.chain.relayIncrementalFee.nSatoshisPerK)
    (hm : 0 ≤ (w.getMinimumFeeRate cc).nSatoshisPerK)
    (hrate : 0 ≤ (totalBumpFee w wtx cc oldFee n).1.nSatoshisPerK) :
    oldFee < (totalBumpFee w wtx cc oldFee n).2 := by
  have hg : 0 ≤ w.getMinimumFee n cc := CFeeRate.getFee_nonneg hm n
  rw [totalBumpFee_eq] at hrate ⊢
  by_cases hq : (CFeeRate.ofFee (w.getMinimumFee n cc) n).nSatoshisPerK < bumpFloor w wtx oldFee
  · -- priced at the floor
    rw [if_pos hq] at hrate ⊢
    rcases lt_or_le oldFee 0 with ho | ho
    · exact lt_of_lt_of_le ho (CFeeRate.getFee_nonneg hrate n)
    have hlt := oldFee_mul_lt_bumpFloor_mul ho hT hinc hTn
    have hup := CFeeRate.le_getFee_mul (r := ⟨bumpFloor w wtx oldFee⟩) hrate n
    simp only at hup
    omega
  · -- the minimum fee stands: its truncated rate is at least the floor
    rw [if_neg hq]
    rcases lt_or_le oldFee 0 with ho | ho
    · omega
    have hlt := oldFee_mul_lt_bumpFloor_mul ho hT hinc hTn
    have hq' := CFeeRate.ofFee_mul_le hg (by omega : 0 < n)
    have hmul : bumpFloor w wtx oldFee * n ≤
        (CFeeRate.ofFee (w.getMinimumFee n cc) n).nSatoshisPerK * n :=
      Int.mul_le_mul_of_nonneg_right (by omega) (by omega)
    omega

/-! ## The change output, lines 319-344 -/

/-- Line 341: an input whose sequence number is below `0xfffffffe` is raised to it. -/
def raiseSequence (txin : CTxIn) : CTxIn :=
  if txin.nSequence < 0xfffffffe then { txin with nSequence := 0xfffffffe } else txin

/-- Raising touches nothing but the sequence number. -/
@[simp] theorem raiseSequence_outpoint_scripts (txin : CTxIn) :
    ((raiseSequence txin).prevout, (raiseSequence txin).scriptSig,
      (raiseSequence txin).scriptWitness) = (txin.prevout, txin.scriptSig, txin.scriptWitness) := by
  unfold raiseSequence; split <;> rfl

theorem le_raiseSequence (txin : CTxIn) : txin.nSequence ≤ (raiseSequence txin).nSequence := by
  unfold raiseSequence
  split
  · rename_i h
    by_contra hc
    exact UInt32.lt_asymm h (UInt32.not_le.mp hc)
  · exact UInt32.le_refl _

/-- A raised input no longer signals opt-in replaceability, whatever it held before. -/
theorem raiseSequence_not_signals (txin : CTxIn) :
    ¬(raiseSequence txin).nSequence ≤ MAX_BIP125_RBF_SEQUENCE := by
  unfold raiseSequence
  split
  · show ¬(0xfffffffe : UInt32) ≤ MAX_BIP125_RBF_SEQUENCE; decide
  · rename_i h
    exact fun hle => absurd (UInt32.le_trans (UInt32.not_lt.mp h) hle) (by decide)

/-- Lowering output `k` from `c` to `c'` lowers the value out by the difference. -/
theorem valueOut_set {l : List CTxOut} {k : Nat} {c : CTxOut} (h : l[k]? = some c)
    (c' : CTxOut) :
    ((l.set k c').map (·.nValue)).sum + c.nValue = (l.map (·.nValue)).sum + c'.nValue := by
  induction l generalizing k with
  | nil => simp at h
  | cons o os ih =>
    cases k with
    | zero =>
      rw [List.getElem?_cons_zero, Option.some.injEq] at h
      subst h
      simp only [List.set, List.map_cons, List.sum_cons]
      omega
    | succ k =>
      have := ih (by rwa [List.getElem?_cons_succ] at h)
      simp only [List.set, List.map_cons, List.sum_cons]
      omega

/-- Dropping output `k` lowers the value out by its value. -/
theorem valueOut_eraseIdx {l : List CTxOut} {k : Nat} {c : CTxOut} (h : l[k]? = some c) :
    ((l.eraseIdx k).map (·.nValue)).sum + c.nValue = (l.map (·.nValue)).sum := by
  induction l generalizing k with
  | nil => simp at h
  | cons o os ih =>
    cases k with
    | zero =>
      rw [List.getElem?_cons_zero, Option.some.injEq] at h
      subst h
      simp only [List.eraseIdx_cons_zero, List.map_cons, List.sum_cons]
      omega
    | succ k =>
      have := ih (by rwa [List.getElem?_cons_succ] at h)
      simp only [List.eraseIdx_cons_succ, List.map_cons, List.sum_cons]
      omega

/-- Lines 319-344: take `nDelta = new_fee - old_fee` out of change output `nOutput`
(`change`), discard it into the fee when it falls to its dust threshold, and mark the
replacement not replaceable when the coin control (or the wallet) asks for no signal. -/
def shrinkChange (w : CWallet) (cc : CCoinControl) (tx : CTransaction) (nOutput : Nat)
    (change : CTxOut) (oldFee newFee : Int) : Except Failure BumpResult := do
  let nDelta := newFee - oldFee
  if ¬nDelta > 0 then throw .abort
  if change.nValue < nDelta then throw (.reject .WALLET_ERROR [.changeTooSmall])
  let shrunk := { change with nValue := change.nValue - nDelta }
  let (vout, newFee) := if shrunk.nValue ≤ w.getDustThreshold shrunk
    then (tx.vout.eraseIdx nOutput, newFee + shrunk.nValue)
    else (tx.vout.set nOutput shrunk, newFee)
  let vin := if cc.m_signal_bip125_rbf.getD w.m_signal_rbf then tx.vin
    else tx.vin.map raiseSequence
  pure ⟨oldFee, newFee, ⟨vin, vout⟩⟩

/-- What `shrinkChange` returns when it succeeds: the increase `d` is positive and covered by
the change, the inputs are raised or kept as the signal asks, and the change output is either
lowered by `d` or, at or below its dust threshold, dropped with its value added to the fee. -/
theorem shrinkChange_ok {w : CWallet} {cc : CCoinControl} {tx : CTransaction} {nOutput : Nat}
    {change : CTxOut} {oldFee newFee : Int} {b : BumpResult}
    (h : shrinkChange w cc tx nOutput change oldFee newFee = .ok b) :
    0 < newFee - oldFee ∧ newFee - oldFee ≤ change.nValue ∧ b.oldFee = oldFee ∧
      b.mtx.vin = (if cc.m_signal_bip125_rbf.getD w.m_signal_rbf then tx.vin
        else tx.vin.map raiseSequence) ∧
      let c' := { change with nValue := change.nValue - (newFee - oldFee) }
      (w.getDustThreshold c' < c'.nValue ∧ b.mtx.vout = tx.vout.set nOutput c' ∧
          b.newFee = newFee) ∨
        (c'.nValue ≤ w.getDustThreshold c' ∧ b.mtx.vout = tx.vout.eraseIdx nOutput ∧
          b.newFee = newFee + c'.nValue) := by
  simp only [shrinkChange, guard_bind_eq_ok] at h
  simp only [not_not, not_lt, pure, Except.pure, Except.ok.injEq] at h
  obtain ⟨h1, h2, rfl⟩ := h
  refine ⟨by omega, h2, rfl, rfl, ?_⟩
  dsimp only
  split_ifs with hdust
  · exact .inr ⟨hdust, rfl, rfl⟩
  · exact .inl ⟨by omega, rfl, rfl⟩

/-- `shrinkChange` stops at the `assert` exactly when the fee does not rise. -/
theorem shrinkChange_abort {w : CWallet} {cc : CCoinControl} {tx : CTransaction}
    {nOutput : Nat} {change : CTxOut} {oldFee newFee : Int} :
    shrinkChange w cc tx nOutput change oldFee newFee = .error .abort ↔ newFee ≤ oldFee := by
  simp only [shrinkChange, guard_bind_eq_error]
  simp only [pure, Except.pure, reduceCtorEq, and_false, or_false, and_true, not_lt]
  omega

/-- `feebumper::CreateTotalBumpTransaction(wallet, txid, coin_control, errors, old_fee,
new_fee, mtx)`. -/
def createTotalBumpTransaction (w : CWallet) (txid : Uint256) (cc : CCoinControl) :
    Except Failure BumpResult := do
  if !w.isParticlWallet then throw (.reject .WALLET_ERROR [])
  let some wtx := w.mapWallet txid | throw (.reject .INVALID_ADDRESS_OR_KEY [.invalidTxid])
  preconditionChecks w txid wtx true
  let some (nOutput, change) ← scanChange w.isChange wtx.tx.vout 0 none
    | throw (.reject .WALLET_ERROR [.noChangeOutput])
  if w.calculateMaximumSignedTxSize wtx.tx none < 0 then
    throw (.reject .INVALID_ADDRESS_OR_KEY [.unsignableInputs])
  let maxNewTxSize := totalBumpSize w wtx
  let oldFee := totalBumpOldFee w wtx
  let (nNewFeeRate, newFee) := totalBumpFee w wtx cc oldFee maxNewTxSize
  let maxTxFee := w.m_default_max_tx_fee
  if newFee > maxTxFee then throw (.reject .WALLET_ERROR [.aboveMaxTxFee newFee maxTxFee])
  let minMempoolFeeRate := w.chain.mempoolMinFee
  if nNewFeeRate.getFeePerK < minMempoolFeeRate.getFeePerK then
    throw (.reject .WALLET_ERROR [.totalBumpBelowMempoolMinFee nNewFeeRate.getFeePerK
      minMempoolFeeRate.getFeePerK (minMempoolFeeRate.getFee maxNewTxSize)
      minMempoolFeeRate.getFeePerK])
  shrinkChange w cc wtx.tx nOutput change oldFee newFee

/-- Everything `CreateTotalBumpTransaction` checks before line 319, where it starts on the
change output: the call got there with record `wtx` and change output `change` at
`nOutput`. -/
structure ReachesShrink (w : CWallet) (txid : Uint256) (cc : CCoinControl) (wtx : CWalletTx)
    (nOutput : Nat) (change : CTxOut) : Prop where
  particl : w.isParticlWallet = true
  found : w.mapWallet txid = some wtx
  bumpable : Bumpable w txid wtx true
  onlyChange : scanChange w.isChange wtx.tx.vout 0 none = .ok (some (nOutput, change))
  sizable : 0 ≤ w.calculateMaximumSignedTxSize wtx.tx none
  underMaxTxFee :
    (totalBumpFee w wtx cc (totalBumpOldFee w wtx) (totalBumpSize w wtx)).2 ≤
      w.m_default_max_tx_fee
  aboveMempoolMin : w.chain.mempoolMinFee.nSatoshisPerK ≤
    (totalBumpFee w wtx cc (totalBumpOldFee w wtx) (totalBumpSize w wtx)).1.nSatoshisPerK

/-- A call that returns OK, or stops at the `assert`, got to line 319, and what it does from
there is `shrinkChange`. -/
theorem createTotalBumpTransaction_reaches {w : CWallet} {txid : Uint256} {cc : CCoinControl}
    (h : ∀ r es, createTotalBumpTransaction w txid cc ≠ .error (.reject r es)) :
    ∃ wtx nOutput change, ReachesShrink w txid cc wtx nOutput change ∧
      createTotalBumpTransaction w txid cc = shrinkChange w cc wtx.tx nOutput change
        (totalBumpOldFee w wtx) (totalBumpFee w wtx cc (totalBumpOldFee w wtx)
          (totalBumpSize w wtx)).2 := by
  have hp : w.isParticlWallet = true := by
    by_contra hp
    exact h .WALLET_ERROR [] (by simp [createTotalBumpTransaction, hp, bind, Except.bind, throw,
      throwThe, MonadExceptOf.throw])
  obtain ⟨wtx, hw⟩ : ∃ wtx, w.mapWallet txid = some wtx := by
    cases hw : w.mapWallet txid with
    | some wtx => exact ⟨wtx, rfl⟩
    | none => exact (h .INVALID_ADDRESS_OR_KEY [.invalidTxid] (by simp [createTotalBumpTransaction,
        hp, hw, bind, Except.bind, throw, throwThe, MonadExceptOf.throw, pure, Except.pure])).elim
  have hpc : preconditionChecks w txid wtx true = .ok () := by
    cases hpc : preconditionChecks w txid wtx true with
    | ok u => rfl
    | error f =>
      obtain ⟨r, d, -, rfl⟩ := preconditionChecks_rejects hpc
      exact (h r [d] (by simp [createTotalBumpTransaction, hp, hw, hpc, bind, Except.bind, pure,
        Except.pure])).elim
  obtain ⟨nOutput, change, hsc⟩ :
      ∃ nOutput change, scanChange w.isChange wtx.tx.vout 0 none = .ok (some (nOutput, change)) := by
    cases hsc : scanChange w.isChange wtx.tx.vout 0 none with
    | error f =>
      rw [scanChange_error hsc] at hsc
      exact (h .WALLET_ERROR [.multipleChangeOutputs] (by simp [createTotalBumpTransaction, hp, hw,
        hpc, hsc, bind, Except.bind, pure, Except.pure])).elim
    | ok r =>
      cases r with
      | some p => exact ⟨p.1, p.2, rfl⟩
      | none => exact (h .WALLET_ERROR [.noChangeOutput] (by simp [createTotalBumpTransaction, hp,
          hw, hpc, hsc, bind, Except.bind, pure, Except.pure, throw, throwThe,
          MonadExceptOf.throw])).elim
  have hsize : 0 ≤ w.calculateMaximumSignedTxSize wtx.tx none := by
    by_contra hs
    exact h .INVALID_ADDRESS_OR_KEY [.unsignableInputs] (by simp [createTotalBumpTransaction, hp, hw, hpc, hsc, bind,
      Except.bind, pure, Except.pure, throw, throwThe, MonadExceptOf.throw, lt_of_not_le hs])
  have hmax : (totalBumpFee w wtx cc (totalBumpOldFee w wtx) (totalBumpSize w wtx)).2 ≤
      w.m_default_max_tx_fee := by
    by_contra hm
    apply h
    simp [createTotalBumpTransaction, hp, hw, hpc, hsc, bind, Except.bind, pure,
      Except.pure, throw, throwThe, MonadExceptOf.throw, not_lt.mpr hsize, lt_of_not_le hm]
    exact ⟨rfl, rfl⟩
  have hmem : w.chain.mempoolMinFee.nSatoshisPerK ≤
      (totalBumpFee w wtx cc (totalBumpOldFee w wtx) (totalBumpSize w wtx)).1.nSatoshisPerK := by
    by_contra hm
    apply h
    simp [createTotalBumpTransaction, hp, hw, hpc, hsc, bind, Except.bind, pure,
      Except.pure, throw, throwThe, MonadExceptOf.throw, not_lt.mpr hsize, not_lt.mpr hmax,
      lt_of_not_le hm]
    exact ⟨rfl, rfl⟩
  refine ⟨wtx, nOutput, change, ⟨hp, hw, preconditionChecks_eq_ok.mp hpc, hsc, hsize, hmax, hmem⟩,
    ?_⟩
  simp [createTotalBumpTransaction, hp, hw, hpc, hsc, bind, Except.bind, pure, Except.pure,
    not_lt.mpr hsize, not_lt.mpr hmax, not_lt.mpr hmem]

/-- A call that returns OK got to line 319. -/
theorem createTotalBumpTransaction_reaches_of_ok {w : CWallet} {txid : Uint256}
    {cc : CCoinControl} {b : BumpResult} (h : createTotalBumpTransaction w txid cc = .ok b) :
    ∃ wtx nOutput change, ReachesShrink w txid cc wtx nOutput change ∧
      shrinkChange w cc wtx.tx nOutput change (totalBumpOldFee w wtx)
        (totalBumpFee w wtx cc (totalBumpOldFee w wtx) (totalBumpSize w wtx)).2 = .ok b := by
  obtain ⟨wtx, k, c, hr, heq⟩ :=
    createTotalBumpTransaction_reaches (fun r es e => by rw [h] at e; cases e)
  exact ⟨wtx, k, c, hr, heq ▸ h⟩

/-! ## What a built total bump is -/

/-- A total bump that returns OK rebuilt the original around its one change output: the
inputs are the original's (sequence numbers aside), the outputs are the original's in order
with output `k` lowered by `d = new_fee - old_fee` or, at or below its dust threshold,
removed; no output is negative; and the reported fee is what the replacement pays. -/
theorem createTotalBumpTransaction_ok_shape {w : CWallet} {txid : Uint256} {cc : CCoinControl}
    {b : BumpResult} (h : createTotalBumpTransaction w txid cc = .ok b)
    (hvalid : ∀ wtx, w.mapWallet txid = some wtx → ∀ o ∈ wtx.tx.vout, 0 ≤ o.nValue) :
    ∃ wtx k c, w.mapWallet txid = some wtx ∧ wtx.tx.vout[k]? = some c ∧ w.isChange c = true ∧
      (∀ j c', wtx.tx.vout[j]? = some c' → w.isChange c' = true → j = k) ∧
      b.oldFee = totalBumpOldFee w wtx ∧
      b.mtx.vin.map (fun i => (i.prevout, i.scriptSig, i.scriptWitness)) =
        wtx.tx.vin.map (fun i => (i.prevout, i.scriptSig, i.scriptWitness)) ∧
      (let c' := { c with nValue := c.nValue -
          ((totalBumpFee w wtx cc b.oldFee (totalBumpSize w wtx)).2 - b.oldFee) };
        (w.getDustThreshold c' < c'.nValue ∧ b.mtx.vout = wtx.tx.vout.set k c') ∨
          (c'.nValue ≤ w.getDustThreshold c' ∧ b.mtx.vout = wtx.tx.vout.eraseIdx k)) ∧
      (∀ o ∈ b.mtx.vout, 0 ≤ o.nValue) ∧
      b.newFee = b.oldFee + getValueOut wtx.tx - getValueOut b.mtx := by
  obtain ⟨wtx, k, c, hr, hs⟩ := createTotalBumpTransaction_reaches_of_ok h
  obtain ⟨hd, hdc, hold, hvin, hout⟩ := shrinkChange_ok hs
  obtain ⟨j, hkj, hk, hc, hu⟩ := scanChange_none.mp hr.onlyChange
  simp only [Nat.zero_add] at hkj
  subst hkj
  rw [hold]
  refine ⟨wtx, k, c, hr.found, hk, hc, hu, rfl, ?_, ?_, ?_, ?_⟩
  · rw [hvin]; split <;> simp [List.map_map, Function.comp_def]
  · rcases hout with ⟨h1, h2, -⟩ | ⟨h1, h2, -⟩
    · exact .inl ⟨h1, h2⟩
    · exact .inr ⟨h1, h2⟩
  · have hv := hvalid wtx hr.found
    rcases hout with ⟨-, h2, -⟩ | ⟨-, h2, -⟩ <;> rw [h2] <;> intro o ho
    · rcases List.mem_or_eq_of_mem_set ho with ho | rfl
      · exact hv o ho
      · show 0 ≤ c.nValue - _; omega
    · exact hv o (List.mem_of_mem_eraseIdx ho)
  · simp only [getValueOut]
    rcases hout with ⟨-, h2, h3⟩ | ⟨-, h2, h3⟩ <;> rw [h2, h3]
    · have := valueOut_set hk { c with nValue := c.nValue -
        ((totalBumpFee w wtx cc (totalBumpOldFee w wtx) (totalBumpSize w wtx)).2 -
          totalBumpOldFee w wtx) }
      simp only at this
      omega
    · have := valueOut_eraseIdx hk
      simp only
      omega

/-- `sampleWallet`'s total bump of `sampleWalletTx`: the fee rises from 1000 to 2001 and the
change output from 9000 falls to 7999. -/
def sampleBump : BumpResult :=
  ⟨1000, 2001, ⟨sampleTx.vin, [⟨90000, [0x00, 0x14]⟩, ⟨7999, [0x51]⟩]⟩⟩

/-- `sampleWallet` bumps `sampleWalletTx` by shrinking its change, and the fee accounting holds. -/
theorem createTotalBumpTransaction_ok_shape_sample :
    createTotalBumpTransaction sampleWallet ⟨"b2"⟩ sampleCoinControl = .ok sampleBump ∧
      (∀ wtx, sampleWallet.mapWallet ⟨"b2"⟩ = some wtx → ∀ o ∈ wtx.tx.vout, 0 ≤ o.nValue) ∧
      ∃ wtx, sampleWallet.mapWallet ⟨"b2"⟩ = some wtx ∧
        sampleBump.newFee = sampleBump.oldFee + getValueOut wtx.tx - getValueOut sampleBump.mtx := by
  have hvalid : ∀ wtx, sampleWallet.mapWallet ⟨"b2"⟩ = some wtx →
      ∀ o ∈ wtx.tx.vout, 0 ≤ o.nValue := by
    intro wtx h o ho
    simp only [sampleWallet, if_pos, Option.some.injEq] at h
    subst h
    simp only [sampleWalletTx, sampleTx, List.mem_cons, List.mem_singleton,
      List.not_mem_nil, or_false] at ho
    rcases ho with rfl | rfl <;> decide
  obtain ⟨wtx, -, -, hw, -, -, -, -, -, -, -, hfee⟩ :=
    @createTotalBumpTransaction_ok_shape sampleWallet ⟨"b2"⟩ sampleCoinControl sampleBump rfl hvalid
  exact ⟨rfl, hvalid, wtx, hw, hfee⟩

/-- A total bump that returns OK signals BIP125 replaceability exactly when the coin control
(or, when it says nothing, the wallet) asks for it, and raises no sequence number less. -/
theorem createTotalBumpTransaction_signals {w : CWallet} {txid : Uint256} {cc : CCoinControl}
    {b : BumpResult} (h : createTotalBumpTransaction w txid cc = .ok b) :
    ∃ wtx, w.mapWallet txid = some wtx ∧
      signalsOptInRBF b.mtx = cc.m_signal_bip125_rbf.getD w.m_signal_rbf ∧
      List.Forall₂ (fun i j : CTxIn => i.nSequence ≤ j.nSequence) wtx.tx.vin b.mtx.vin := by
  obtain ⟨wtx, k, c, hr, hs⟩ := createTotalBumpTransaction_reaches_of_ok h
  obtain ⟨-, -, -, hvin, -⟩ := shrinkChange_ok hs
  refine ⟨wtx, hr.found, ?_⟩
  have hsig : signalsOptInRBF wtx.tx = true := hr.bumpable.signalsRbf
  cases hflag : cc.m_signal_bip125_rbf.getD w.m_signal_rbf <;>
    simp only [hflag, if_true, Bool.false_eq_true, if_false] at hvin
  · refine ⟨?_, ?_⟩
    · simp [signalsOptInRBF, hvin, raiseSequence_not_signals]
    · rw [hvin, List.forall₂_map_right_iff, List.forall₂_same]
      exact fun x _ => le_raiseSequence x
  · refine ⟨?_, ?_⟩
    · rw [← hsig]; simp [signalsOptInRBF, hvin]
    · rw [hvin, List.forall₂_same]
      exact fun x _ => UInt32.le_refl _

/-- A coin control that asks for no opt-in signal. -/
def noSignalCoinControl : CCoinControl := { sampleCoinControl with m_signal_bip125_rbf := some false }

/-- `sampleWallet` signals replaceability by default, and its bump keeps the signal; asked for no
signal, the bump raises the input's sequence number from `0xfffffffd` to `0xfffffffe`. -/
theorem createTotalBumpTransaction_signals_sample :
    createTotalBumpTransaction sampleWallet ⟨"b2"⟩ sampleCoinControl = .ok sampleBump ∧
      signalsOptInRBF sampleBump.mtx =
        sampleCoinControl.m_signal_bip125_rbf.getD sampleWallet.m_signal_rbf ∧
      createTotalBumpTransaction sampleWallet ⟨"b2"⟩ noSignalCoinControl =
        .ok ⟨1000, 2001, ⟨[⟨⟨⟨"a1"⟩, 0⟩, [], [], 0xfffffffe⟩], sampleBump.mtx.vout⟩⟩ ∧
      signalsOptInRBF ⟨[⟨⟨⟨"a1"⟩, 0⟩, [], [], 0xfffffffe⟩], sampleBump.mtx.vout⟩ =
        noSignalCoinControl.m_signal_bip125_rbf.getD sampleWallet.m_signal_rbf := by
  obtain ⟨-, -, hs, -⟩ :=
    @createTotalBumpTransaction_signals sampleWallet ⟨"b2"⟩ sampleCoinControl sampleBump rfl
  obtain ⟨-, -, hs', -⟩ := @createTotalBumpTransaction_signals sampleWallet ⟨"b2"⟩
    noSignalCoinControl ⟨1000, 2001, ⟨[⟨⟨⟨"a1"⟩, 0⟩, [], [], 0xfffffffe⟩], sampleBump.mtx.vout⟩⟩
    rfl
  exact ⟨rfl, hs, rfl, hs'⟩

/-- A total bump that returns OK pays the old fee plus one incremental relay fee at its signed
size (BIP 125 rules 3 and 4) whenever that size is at least the original's and the old fee and
the node's rates are non-negative: the new fee is `EstimateFeeRate` at the signed size, and
folding dust change into the fee only adds to it. -/
theorem createTotalBumpTransaction_pays_increment {w : CWallet} {txid : Uint256}
    {cc : CCoinControl} {b : BumpResult} (h : createTotalBumpTransaction w txid cc = .ok b)
    (hinc : 0 ≤ w.chain.relayIncrementalFee.nSatoshisPerK)
    (hm : 0 ≤ (w.getMinimumFeeRate cc).nSatoshisPerK)
    (hsize : ∀ wtx, w.mapWallet txid = some wtx → 0 ≤ totalBumpOldFee w wtx ∧
      0 < w.getVirtualTransactionSize wtx.tx ∧
        w.getVirtualTransactionSize wtx.tx ≤ totalBumpSize w wtx) :
    ∃ wtx, w.mapWallet txid = some wtx ∧
      b.oldFee + (max w.chain.relayIncrementalFee w.walletIncrementalRelayFee).getFee
        (totalBumpSize w wtx) ≤ b.newFee := by
  obtain ⟨wtx, k, c, hr, hs⟩ := createTotalBumpTransaction_reaches_of_ok h
  obtain ⟨-, hcover, hold, -, hfold⟩ := shrinkChange_ok hs
  obtain ⟨h0, hT, hTS⟩ := hsize wtx hr.found
  -- priced at the estimate, which pays the increment at every size from the original's up
  have hprice := totalBumpFee_eq_estimate w wtx cc (totalBumpOldFee w wtx) (totalBumpSize w wtx) hm
  have hest := estimateFeeRate_getFee_ge cc h0 hT hinc hTS
  refine ⟨wtx, hr.found, ?_⟩
  rw [hold]
  rcases hfold with ⟨-, -, hnew⟩ | ⟨-, -, hnew⟩
  · omega
  · -- the folded change is what `nDelta` left of it, which the change check keeps non-negative
    dsimp only at hnew
    omega

/-- `sampleWallet` pays 2001 for its bump: the old fee 1000 plus 1001 at 200 vbytes. -/
theorem createTotalBumpTransaction_pays_increment_sample :
    createTotalBumpTransaction sampleWallet ⟨"b2"⟩ sampleCoinControl = .ok sampleBump ∧
      ∃ wtx, sampleWallet.mapWallet ⟨"b2"⟩ = some wtx ∧
        sampleBump.oldFee + (max sampleWallet.chain.relayIncrementalFee
          sampleWallet.walletIncrementalRelayFee).getFee (totalBumpSize sampleWallet wtx) ≤
          sampleBump.newFee :=
  ⟨rfl, @createTotalBumpTransaction_pays_increment sampleWallet ⟨"b2"⟩ sampleCoinControl sampleBump
    rfl (by decide) (by decide) fun wtx h => by
    obtain rfl : sampleWalletTx = wtx := Option.some.inj h
    decide⟩

/-! ## Where the total bump departs from its comments -/

/-- `sampleWallet` bumping a transaction whose change output holds 1500, under a `-maxtxfee`
of 2200. -/
def dustWallet : CWallet :=
  { sampleWallet with
    mapWallet := fun t => if t = ⟨"b2"⟩ then
      some ⟨{ sampleTx with vout := [⟨90000, [0x00, 0x14]⟩, ⟨1500, [0x51]⟩] }, 0, fun _ => none, []⟩
      else none
    cachedTxGetDebit := fun _ => 92500
    m_default_max_tx_fee := 2200 }

/-- The fee 2001 passes the ceiling of 2200 at line 296; the change then falls to 499, at or
below the dust threshold 546, and is folded into the fee after the check: the call returns OK
with a fee of 2500. -/
theorem createTotalBumpTransaction_exceeds_maxTxFee :
    createTotalBumpTransaction dustWallet ⟨"b2"⟩ sampleCoinControl =
        .ok ⟨1000, 2500, ⟨sampleTx.vin, [⟨90000, [0x00, 0x14]⟩]⟩⟩ ∧
      dustWallet.m_default_max_tx_fee < 2500 :=
  ⟨rfl, by decide⟩

/-- `sampleWallet` bumping a 1000-vbyte transaction, paying 10000, whose signed-size estimate is
100 vbytes. -/
def shrunkSizeWallet : CWallet :=
  { sampleWallet with
    getVirtualTransactionSize := fun _ => 1000
    calculateMaximumSignedTxSize := fun _ _ => 100
    cachedTxGetDebit := fun _ => 109000 }

/-- Priced at 100 vbytes the new fee is 1501, below the old fee of 10000: every check before
line 321 passes and `assert(nDelta > 0)` stops the process. -/
theorem createTotalBumpTransaction_aborts :
    createTotalBumpTransaction shrunkSizeWallet ⟨"b2"⟩ sampleCoinControl = .error .abort :=
  rfl

/-- The `assert(nDelta > 0)` at line 322 holds whenever the signed-size estimate is at least the
original's virtual size and the node's and wallet's rates are non-negative. -/
theorem createTotalBumpTransaction_ne_abort {w : CWallet} {txid : Uint256} {cc : CCoinControl}
    (hinc : 0 ≤ w.chain.relayIncrementalFee.nSatoshisPerK)
    (hmem : 0 ≤ w.chain.mempoolMinFee.nSatoshisPerK)
    (hm : 0 ≤ (w.getMinimumFeeRate cc).nSatoshisPerK)
    (hsize : ∀ wtx, w.mapWallet txid = some wtx →
      0 < w.getVirtualTransactionSize wtx.tx ∧
        w.getVirtualTransactionSize wtx.tx ≤ totalBumpSize w wtx) :
    createTotalBumpTransaction w txid cc ≠ .error .abort := by
  intro h
  obtain ⟨wtx, k, c, hr, heq⟩ :=
    createTotalBumpTransaction_reaches (fun r es e => by rw [h] at e; cases e)
  rw [h, eq_comm, shrinkChange_abort] at heq
  obtain ⟨hT, hTn⟩ := hsize wtx hr.found
  exact absurd heq (not_le.mpr
    (oldFee_lt_totalBumpFee hT hTn hinc hm (le_trans hmem hr.aboveMempoolMin)))

/-- `sampleWallet` sizes its transaction at 200 vbytes before and after signing. -/
theorem createTotalBumpTransaction_ne_abort_sample :
    0 ≤ sampleWallet.chain.relayIncrementalFee.nSatoshisPerK ∧
      0 ≤ sampleWallet.chain.mempoolMinFee.nSatoshisPerK ∧
      0 ≤ (sampleWallet.getMinimumFeeRate sampleCoinControl).nSatoshisPerK ∧
      createTotalBumpTransaction sampleWallet ⟨"b2"⟩ sampleCoinControl ≠ .error .abort :=
  ⟨by decide, by decide, by decide, createTotalBumpTransaction_ne_abort (by decide) (by decide)
    (by decide) (fun wtx h => by
      simp only [sampleWallet] at h
      simp [totalBumpSize, toUInt32Size, sampleWallet])⟩

end ParticlCore.Wallet.FeeBumper
