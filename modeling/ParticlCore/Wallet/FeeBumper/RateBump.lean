import ParticlCore.Wallet.FeeBumper.FeeRatePolicy

/-!
# FeeBumper — the rate bump

`CreateRateBumpTransaction` (lines 350-488): the strategy that hands the original's outputs
and inputs back to the wallet's transaction builder with a higher fee rate. The model
follows the function's loops:

* `harvestInputs` is lines 370-387, which looks up every spent coin, selects owned inputs and
  registers the others as external;
* `weighInputs` is lines 392-410, which overrides the weight of every externally selected
  input;
* `fillRecipients` is lines 422-433, which turns the non-change outputs into recipients and
  keeps the last change output's destination;
* `rateBumpRequest` is everything up to the `CreateTransaction` call at line 475, and
  `createRateBumpTransaction` adds that call.

Each loop gets one closed form (`harvestInputs_eq_ok`, `weighInputs_eq`, `fillRecipients_eq`),
and `rateBumpRequest_eq_ok` says once what a call that reaches the builder computed; the
request's properties are read off these.
-/

namespace ParticlCore.Wallet.FeeBumper

open ParticlCore.Wallet

/-! ## Coin control after a loop -/

/-- `coins.at(prevout)` after `wallet.chain().findCoins(coins)`: the node's coin, or the empty
`Coin` the map entry was created with, whose output is null. -/
def coinAt (w : CWallet) (prevout : COutPoint) : CTxOut :=
  (w.chain.findCoins prevout).getD CTxOut.null

/-- A coin that is not null is one the node found. -/
theorem findCoins_of_coinAt {w : CWallet} {prevout : COutPoint}
    (h : (coinAt w prevout).isNull = false) :
    w.chain.findCoins prevout = some (coinAt w prevout) := by
  unfold coinAt at *
  cases hf : w.chain.findCoins prevout with
  | none => simp [hf, CTxOut.null, CTxOut.isNull] at h
  | some c => rfl

/-- `cc` with every outpoint spent by `vin` added to the selected inputs. -/
def selectAllOf (cc : CCoinControl) (vin : List CTxIn) : CCoinControl :=
  { cc with m_selected_inputs := fun o => vin.any (o = ·.prevout) || cc.m_selected_inputs o }

theorem select_selectAllOf (cc : CCoinControl) (txin : CTxIn) (vin : List CTxIn) :
    selectAllOf (cc.select txin.prevout) vin = selectAllOf cc (txin :: vin) := by
  simp only [selectAllOf, CCoinControl.select, List.any_cons, Bool.or_assoc, Bool.or_left_comm]

/-- The loop at lines 466-468 selects every input of the original. -/
theorem foldl_select (vin : List CTxIn) (cc : CCoinControl) :
    vin.foldl (fun c txin => c.select txin.prevout) cc = selectAllOf cc vin := by
  induction vin generalizing cc with
  | nil => simp [selectAllOf]
  | cons txin vin ih =>
    rw [List.foldl_cons, ih, select_selectAllOf]

/-! ## The input harvest, lines 370-387 -/

/-- The loop at lines 374-387 from input `txin` on, with the coin control and the input value
so far. -/
def harvestInputs (w : CWallet) :
    List CTxIn → CCoinControl → Int → Except Failure (CCoinControl × Int)
  | [], newCoinControl, inputValue => .ok (newCoinControl, inputValue)
  | txin :: vin, newCoinControl, inputValue =>
    let coin := coinAt w txin.prevout
    if coin.isNull then .error (.reject .MISC_ERROR [.alreadySpent txin.prevout])
    else
      let newCoinControl := if w.isMine txin.prevout then newCoinControl.select txin.prevout
        else newCoinControl.selectExternal txin.prevout coin
      harvestInputs w vin newCoinControl (inputValue + coin.nValue)

/-- The coin control after the harvest: every spent outpoint selected, and every outpoint the
wallet does not own registered with its coin unless a `TxOut` is registered for it already. -/
def harvested (w : CWallet) (cc : CCoinControl) (vin : List CTxIn) : CCoinControl :=
  { selectAllOf cc vin with
    m_external_txouts := fun o =>
      if vin.any (o = ·.prevout) && !w.isMine o then (cc.m_external_txouts o).or (some (coinAt w o))
      else cc.m_external_txouts o }

theorem harvested_cons (w : CWallet) (cc : CCoinControl) (txin : CTxIn) (vin : List CTxIn) :
    harvested w (if w.isMine txin.prevout then cc.select txin.prevout
      else cc.selectExternal txin.prevout (coinAt w txin.prevout)) vin =
      harvested w cc (txin :: vin) := by
  simp only [harvested, ← select_selectAllOf]
  cases hm : w.isMine txin.prevout
  · simp only [CCoinControl.selectExternal, CCoinControl.select, selectAllOf, List.any_cons,
      Bool.false_eq_true, if_false, CCoinControl.mk.injEq, true_and, and_true]
    funext o
    by_cases ho : o = txin.prevout
    · subst ho
      simp only [hm, Bool.not_false, Bool.and_true, decide_True, Bool.true_or, if_true,
        Option.or_assoc, Option.or_self, ite_self]
    · simp only [ho, if_false, decide_False, Bool.false_or]
  · simp only [CCoinControl.select, selectAllOf, List.any_cons, if_true, CCoinControl.mk.injEq,
      true_and, and_true]
    funext o
    by_cases ho : o = txin.prevout
    · subst ho
      simp only [hm, Bool.not_true, Bool.and_false, Bool.false_eq_true, if_false]
    · simp only [ho, decide_False, Bool.false_or]

/-- An input the wallet does not own is registered with its coin, unless the caller registered
a `TxOut` for it already. -/
theorem harvested_external {w : CWallet} {cc : CCoinControl} {vin : List CTxIn} {txin : CTxIn}
    (htxin : txin ∈ vin) (hmine : w.isMine txin.prevout = false) :
    (harvested w cc vin).m_external_txouts txin.prevout =
      some ((cc.m_external_txouts txin.prevout).getD (coinAt w txin.prevout)) := by
  simp only [harvested, hmine, Bool.not_false, Bool.and_true, List.any_eq_true,
    decide_eq_true_eq]
  rw [if_pos ⟨txin, htxin, rfl⟩]
  cases cc.m_external_txouts txin.prevout <;> rfl

/-- The harvest succeeds exactly when the node holds a coin for every input; it then sums the
coins' values and leaves the coin control `harvested`. -/
theorem harvestInputs_eq_ok {w : CWallet} {vin : List CTxIn} {cc cc' : CCoinControl}
    {v v' : Int} :
    harvestInputs w vin cc v = .ok (cc', v') ↔
      (∀ txin ∈ vin, (coinAt w txin.prevout).isNull = false) ∧
        cc' = harvested w cc vin ∧ v' = v + (vin.map fun txin => (coinAt w txin.prevout).nValue).sum := by
  induction vin generalizing cc v with
  | nil =>
    simp only [harvestInputs, Except.ok.injEq, Prod.mk.injEq, List.not_mem_nil, false_implies,
      implies_true, List.map_nil, List.sum_nil, add_zero, true_and]
    constructor
    · rintro ⟨rfl, rfl⟩
      exact ⟨by simp [harvested, selectAllOf], rfl⟩
    · rintro ⟨rfl, rfl⟩
      exact ⟨by simp [harvested, selectAllOf], rfl⟩
  | cons txin vin ih =>
    simp only [harvestInputs]
    by_cases hn : (coinAt w txin.prevout).isNull
    · simp [hn]
    · simp only [hn, Bool.false_eq_true, if_false, ih, harvested_cons, List.mem_cons,
        forall_eq_or_imp, List.map_cons, List.sum_cons, Bool.not_eq_true, true_and]
      constructor <;> rintro ⟨h1, h2, h3⟩ <;> exact ⟨h1, h2, by rw [h3]; ring⟩

/-! ## Input weights, lines 392-410 -/

/-- The weight line 405 records for input `i` of `tx`: its current weight plus what its
signatures lack of the largest size. -/
def externalInputWeight (w : CWallet) (tx : CTransaction) (i : Nat) (txin : CTxIn) : Int :=
  w.getTransactionInputWeight txin + w.signatureWeightDiffToMax tx i (coinAt w txin.prevout)

/-- The loop at lines 392-410 over the inputs of `tx` from index `i` on. -/
def weighInputs (w : CWallet) (tx : CTransaction) :
    List CTxIn → Nat → CCoinControl → CCoinControl
  | [], _, newCoinControl => newCoinControl
  | txin :: vin, i, newCoinControl =>
    let newCoinControl := if newCoinControl.isExternalSelected txin.prevout then
        newCoinControl.setInputWeight txin.prevout (externalInputWeight w tx i txin)
      else newCoinControl
    weighInputs w tx vin (i + 1) newCoinControl

/-- The loop sets input weights and nothing else. -/
theorem weighInputs_eq (w : CWallet) (tx : CTransaction) (vin : List CTxIn) (i : Nat)
    (cc : CCoinControl) :
    weighInputs w tx vin i cc =
      { cc with m_input_weights := (weighInputs w tx vin i cc).m_input_weights } := by
  induction vin generalizing i cc with
  | nil => rfl
  | cons txin vin ih =>
    simp only [weighInputs]
    rw [ih]
    split <;> rfl

@[simp] theorem weighInputs_m_selected_inputs (w : CWallet) (tx : CTransaction)
    (vin : List CTxIn) (i : Nat) (cc : CCoinControl) :
    (weighInputs w tx vin i cc).m_selected_inputs = cc.m_selected_inputs := by
  rw [weighInputs_eq]

@[simp] theorem weighInputs_m_external_txouts (w : CWallet) (tx : CTransaction)
    (vin : List CTxIn) (i : Nat) (cc : CCoinControl) :
    (weighInputs w tx vin i cc).m_external_txouts = cc.m_external_txouts := by
  rw [weighInputs_eq]

@[simp] theorem weighInputs_destChange (w : CWallet) (tx : CTransaction) (vin : List CTxIn)
    (i : Nat) (cc : CCoinControl) : (weighInputs w tx vin i cc).destChange = cc.destChange := by
  rw [weighInputs_eq]

/-- An outpoint no input of the rest of the loop spends keeps its weight. -/
theorem weighInputs_weight_of_not_mem {w : CWallet} {tx : CTransaction} {vin : List CTxIn}
    {i : Nat} {cc : CCoinControl} {o : COutPoint} (h : ∀ txin ∈ vin, txin.prevout ≠ o) :
    (weighInputs w tx vin i cc).m_input_weights o = cc.m_input_weights o := by
  induction vin generalizing i cc with
  | nil => rfl
  | cons txin vin ih =>
    simp only [List.mem_cons, forall_eq_or_imp] at h
    simp only [weighInputs]
    rw [ih h.2]
    split
    · simp [CCoinControl.setInputWeight, Ne.symm h.1]
    · rfl

/-- Every externally selected outpoint that the loop meets gets the weight of an input that
spends it (the last one). -/
theorem weighInputs_weight {w : CWallet} {tx : CTransaction} {vin : List CTxIn} {i : Nat}
    {cc : CCoinControl} {o : COutPoint} (hmem : ∃ txin ∈ vin, txin.prevout = o)
    (hext : cc.isExternalSelected o = true) :
    ∃ j txin, vin[j]? = some txin ∧ txin.prevout = o ∧
      (weighInputs w tx vin i cc).m_input_weights o =
        some (externalInputWeight w tx (i + j) txin) := by
  induction vin generalizing i cc with
  | nil =>
    obtain ⟨_, h, _⟩ := hmem
    cases h
  | cons txin vin ih =>
    let cc' := if cc.isExternalSelected txin.prevout then
        cc.setInputWeight txin.prevout (externalInputWeight w tx i txin) else cc
    have hext' : cc'.isExternalSelected o = true := by
      simp only [cc']; split <;> exact hext
    by_cases hrest : ∃ t ∈ vin, t.prevout = o
    · -- a later input spends the outpoint: its weight is the one left
      obtain ⟨j, t, hj, ht, hw⟩ := @ih (i + 1) cc' hrest hext'
      refine ⟨j + 1, t, by rwa [List.getElem?_cons_succ], ht, ?_⟩
      rw [show i + (j + 1) = i + 1 + j by omega]
      exact hw
    · -- this is the last input that spends it
      push_neg at hrest
      obtain ⟨t, ht, rfl⟩ := hmem
      obtain rfl : t = txin := (List.mem_cons.mp ht).resolve_right fun ht => hrest t ht rfl
      refine ⟨0, t, List.getElem?_cons_zero, rfl, ?_⟩
      show (weighInputs w tx vin (i + 1) cc').m_input_weights t.prevout = _
      rw [weighInputs_weight_of_not_mem hrest]
      simp [cc', hext, CCoinControl.setInputWeight]

/-! ## Recipients, lines 422-433 -/

/-- `CRecipient recipient = {output.scriptPubKey, output.nValue, false}`. -/
def recipientOf (output : CTxOut) : CRecipient := ⟨output.scriptPubKey, output.nValue, false⟩

/-- The loop at lines 425-433 from `output` on, with the recipients, the output value and the
coin control so far. -/
def fillRecipients (w : CWallet) :
    List CTxOut → List CRecipient × Int × CCoinControl → List CRecipient × Int × CCoinControl
  | [], acc => acc
  | output :: vout, (recipients, outputValue, newCoinControl) =>
    let (recipients, newCoinControl) := if !w.outputIsChange output then
        (recipients ++ [recipientOf output], newCoinControl)
      else (recipients, { newCoinControl with
        destChange := w.extractDestination output.scriptPubKey })
    fillRecipients w vout (recipients, outputValue + output.nValue, newCoinControl)

/-- The destination of the last change output of `vout`, or `dest` when there is none. -/
def lastChangeDest (w : CWallet) (vout : List CTxOut) (dest : CTxDestination) : CTxDestination :=
  (((vout.filter w.outputIsChange).getLast?).map (w.extractDestination ·.scriptPubKey)).getD dest

/-- The loop appends the non-change outputs as recipients, adds up every output, and leaves
the destination of the last change output. -/
theorem fillRecipients_eq (w : CWallet) (vout : List CTxOut) (recipients : List CRecipient)
    (outputValue : Int) (cc : CCoinControl) :
    fillRecipients w vout (recipients, outputValue, cc) =
      (recipients ++ (vout.filter (!w.outputIsChange ·)).map recipientOf,
        outputValue + (vout.map (·.nValue)).sum,
        { cc with destChange := lastChangeDest w vout cc.destChange }) := by
  induction vout generalizing recipients outputValue cc with
  | nil => simp [fillRecipients, lastChangeDest]
  | cons output vout ih =>
    simp only [fillRecipients]
    cases hc : w.outputIsChange output
    · simp only [Bool.not_false, if_true, ih, List.filter_cons, hc, List.map_cons,
        List.append_assoc, List.singleton_append, List.sum_cons, Prod.mk.injEq, true_and]
      refine ⟨by ring, ?_⟩
      simp [lastChangeDest, List.filter_cons, hc]
    · simp only [Bool.not_true, Bool.false_eq_true, if_false, ih, List.filter_cons, hc,
        List.map_cons, List.sum_cons, Prod.mk.injEq, true_and]
      refine ⟨by ring, ?_⟩
      simp only [lastChangeDest, List.filter_cons, hc, if_true, List.getLast?_cons]
      cases (vout.filter w.outputIsChange).getLast? <;> rfl

/-! ## Up to the builder, lines 350-475 -/

/-- What `CreateRateBumpTransaction` hands to `CreateTransaction`, and the `old_fee` it
reports. -/
structure RateBumpRequest where
  recipients : List CRecipient
  coinControl : CCoinControl
  oldFee : Int

/-- The temporary transaction of lines 443-447: the original with every `scriptSig` cleared
and every witness set to null. -/
def stripSignatures (tx : CTransaction) : CTransaction :=
  { tx with vin := tx.vin.map fun txin => { txin with scriptSig := [], scriptWitness := [] } }

/-- `CreateRateBumpTransaction` up to its `CreateTransaction` call (lines 350-473). The
explicit-rate branch checks `*new_coin_control.m_feerate`, which is the caller's rate: no step
before it writes the field. -/
def rateBumpRequest (w : CWallet) (txid : Uint256) (coinControl : CCoinControl)
    (requireMine : Bool) : Except Failure RateBumpRequest := do
  let some wtx := w.mapWallet txid | throw (.reject .INVALID_ADDRESS_OR_KEY [.invalidTxid])
  let (newCoinControl, inputValue) ← harvestInputs w wtx.tx.vin coinControl 0
  let newCoinControl := weighInputs w wtx.tx wtx.tx.vin 0 newCoinControl
  preconditionChecks w txid wtx requireMine
  if w.isParticlWallet then throw .abort
  let (recipients, outputValue, newCoinControl) :=
    fillRecipients w wtx.tx.vout ([], 0, newCoinControl)
  let oldFee := inputValue - outputValue
  let newCoinControl ← match coinControl.m_feerate with
    | some feeRate => do
      let maxTxSize :=
        w.calculateMaximumSignedTxSize (stripSignatures wtx.tx) (some newCoinControl)
      checkFeeRate w wtx feeRate maxTxSize oldFee
      pure newCoinControl
    | none => pure { newCoinControl with
        m_feerate := some (estimateFeeRate w wtx oldFee newCoinControl) }
  let newCoinControl := wtx.tx.vin.foldl (fun c txin => c.select txin.prevout) newCoinControl
  pure ⟨recipients, { newCoinControl with m_allow_other_inputs := true, m_min_depth := 1 },
    oldFee⟩

/-- `CreateRateBumpTransaction(wallet, txid, coin_control, errors, old_fee, new_fee, mtx,
require_mine)`: the builder is asked for a transaction with the change at a random position
and no signatures. -/
def createRateBumpTransaction (w : CWallet) (txid : Uint256) (coinControl : CCoinControl)
    (requireMine : Bool) : Except Failure BumpResult := do
  let req ← rateBumpRequest w txid coinControl requireMine
  match w.createTransaction req.recipients (-1) req.coinControl with
  | .error e => throw (.reject .WALLET_ERROR [.unableToCreate e])
  | .ok (tx, fee) => pure ⟨req.oldFee, fee, tx⟩

/-- A rate bump returns OK exactly when it reaches the builder and the builder succeeds; the
fee and transaction are the builder's. -/
theorem createRateBumpTransaction_eq_ok {w : CWallet} {txid : Uint256} {cc : CCoinControl}
    {requireMine : Bool} {b : BumpResult} :
    createRateBumpTransaction w txid cc requireMine = .ok b ↔
      ∃ req, rateBumpRequest w txid cc requireMine = .ok req ∧
        w.createTransaction req.recipients (-1) req.coinControl = .ok (b.mtx, b.newFee) ∧
          b.oldFee = req.oldFee := by
  simp only [createRateBumpTransaction, bind_eq_ok]
  refine exists_congr fun req => and_congr_right fun _ => ?_
  cases w.createTransaction req.recipients (-1) req.coinControl with
  | error e => simp [throw, throwThe, MonadExceptOf.throw]
  | ok r =>
    obtain ⟨tx, fee⟩ := r
    cases b
    simp only [pure, Except.pure, Except.ok.injEq, BumpResult.mk.injEq]
    constructor
    · rintro ⟨rfl, rfl, rfl⟩; exact ⟨rfl, rfl⟩
    · rintro ⟨⟨rfl, rfl⟩, rfl⟩; exact ⟨rfl, rfl, rfl⟩

/-- What a rate bump that reaches `CreateTransaction` computed: the record, a successful
harvest, a passed eligibility check, a wallet that is not Particl's, the fee branch taken,
and the request built from them. -/
theorem rateBumpRequest_eq_ok {w : CWallet} {txid : Uint256} {cc : CCoinControl}
    {requireMine : Bool} {req : RateBumpRequest}
    (h : rateBumpRequest w txid cc requireMine = .ok req) :
    ∃ wtx ccH inputValue feerate, w.mapWallet txid = some wtx ∧
      harvestInputs w wtx.tx.vin cc 0 = .ok (ccH, inputValue) ∧
      Bumpable w txid wtx requireMine ∧ w.isParticlWallet = false ∧
      let filled := fillRecipients w wtx.tx.vout ([], 0, weighInputs w wtx.tx wtx.tx.vin 0 ccH);
      ((∃ r, cc.m_feerate = some r ∧ feerate = filled.2.2.m_feerate ∧
          checkFeeRate w wtx r (w.calculateMaximumSignedTxSize (stripSignatures wtx.tx)
            (some filled.2.2)) (inputValue - filled.2.1) = .ok ()) ∨
        (cc.m_feerate = none ∧
          feerate = some (estimateFeeRate w wtx (inputValue - filled.2.1) filled.2.2))) ∧
      req = ⟨filled.1,
        { selectAllOf { filled.2.2 with m_feerate := feerate } wtx.tx.vin with
          m_allow_other_inputs := true, m_min_depth := 1 },
        inputValue - filled.2.1⟩ := by
  simp only [rateBumpRequest] at h
  split at h
  · rename_i wtx hw
    obtain ⟨⟨ccH, inputValue⟩, hh, h⟩ := bind_eq_ok.mp h
    obtain ⟨⟨⟩, hp, h⟩ := bind_eq_ok.mp h
    obtain ⟨hnp, h⟩ := guard_bind_eq_ok.mp h
    refine ⟨wtx, ccH, inputValue, ?_⟩
    split at h
    · rename_i r hr
      obtain ⟨⟨⟩, hc, h⟩ := bind_eq_ok.mp h
      obtain ⟨y, hy, h⟩ := bind_eq_ok.mp h
      cases hy
      cases h
      refine ⟨_, hw, hh, preconditionChecks_eq_ok.mp hp, by simpa using hnp,
        .inl ⟨r, hr, rfl, hc⟩, ?_⟩
      simp only [foldl_select]
    · rename_i hr
      obtain ⟨y, hy, h⟩ := bind_eq_ok.mp h
      cases hy
      cases h
      refine ⟨_, hw, hh, preconditionChecks_eq_ok.mp hp, by simpa using hnp, .inr ⟨hr, rfl⟩, ?_⟩
      simp only [foldl_select]
  · cases h

/-! ## The request handed to the builder -/

/-- The request a rate bump hands to `CreateTransaction`: every spent outpoint selected and
the caller's selection kept; every outpoint the wallet does not own registered as external,
with its spent `TxOut` unless the caller registered one for it already (`SelectExternal`
emplaces), and weighed as an input that spends it; other inputs allowed but none unconfirmed;
the non-change outputs as recipients, in order; the last change output's destination; and as
`old_fee` the spent coins' value less the original's outputs. -/
theorem rateBumpRequest_spec {w : CWallet} {txid : Uint256} {cc : CCoinControl}
    {requireMine : Bool} {req : RateBumpRequest}
    (h : rateBumpRequest w txid cc requireMine = .ok req) :
    ∃ wtx, w.mapWallet txid = some wtx ∧
      (∀ txin ∈ wtx.tx.vin, req.coinControl.m_selected_inputs txin.prevout = true) ∧
      (∀ o, cc.m_selected_inputs o = true → req.coinControl.m_selected_inputs o = true) ∧
      (∀ txin ∈ wtx.tx.vin, w.isMine txin.prevout = false →
        ∃ coin, w.chain.findCoins txin.prevout = some coin ∧
          req.coinControl.m_external_txouts txin.prevout =
            some ((cc.m_external_txouts txin.prevout).getD coin) ∧
          ∃ i t, wtx.tx.vin[i]? = some t ∧ t.prevout = txin.prevout ∧
            req.coinControl.m_input_weights txin.prevout =
              some (w.getTransactionInputWeight t + w.signatureWeightDiffToMax wtx.tx i coin)) ∧
      req.coinControl.m_min_depth = 1 ∧ req.coinControl.m_allow_other_inputs = true ∧
      req.recipients = (wtx.tx.vout.filter (!w.outputIsChange ·)).map recipientOf ∧
      req.coinControl.destChange = lastChangeDest w wtx.tx.vout cc.destChange ∧
      req.oldFee =
        (wtx.tx.vin.map fun txin => (coinAt w txin.prevout).nValue).sum - getValueOut wtx.tx := by
  obtain ⟨wtx, ccH, inputValue, feerate, hw, hh, -, -, -, rfl⟩ := rateBumpRequest_eq_ok h
  obtain ⟨hcoins, rfl, rfl⟩ := harvestInputs_eq_ok.mp hh
  refine ⟨wtx, hw, ?_, ?_, ?_, rfl, rfl, ?_, ?_, ?_⟩
  · intro txin htxin
    simp only [fillRecipients_eq, selectAllOf, Bool.or_eq_true, List.any_eq_true,
      decide_eq_true_eq]
    exact .inl ⟨txin, htxin, rfl⟩
  · intro o ho
    simp only [fillRecipients_eq, selectAllOf, harvested, weighInputs_m_selected_inputs, ho,
      Bool.or_true]
  · intro txin htxin hmine
    have hcoin := findCoins_of_coinAt (hcoins txin htxin)
    have hreg := @harvested_external w cc wtx.tx.vin txin htxin hmine
    refine ⟨_, hcoin, by simpa only [fillRecipients_eq, selectAllOf,
      weighInputs_m_external_txouts] using hreg, ?_⟩
    · have hext : (harvested w cc wtx.tx.vin).isExternalSelected txin.prevout = true := by
        simp only [CCoinControl.isExternalSelected, hreg, Option.isSome_some]
      obtain ⟨i, t, hi, ht, hwt⟩ :=
        @weighInputs_weight w wtx.tx wtx.tx.vin 0 _ _ ⟨txin, htxin, rfl⟩ hext
      refine ⟨i, t, hi, ht, ?_⟩
      simpa only [fillRecipients_eq, selectAllOf, zero_add, externalInputWeight, ht] using hwt
  · simp only [fillRecipients_eq, List.nil_append]
  · simp only [fillRecipients_eq, selectAllOf, harvested, weighInputs_destChange]
  · simp only [fillRecipients_eq, zero_add, getValueOut]

/-- `sampleWallet` as a plain wallet that owns none of the original's inputs. -/
def watchOnlyWallet : CWallet :=
  { sampleWallet with isParticlWallet := false, isMine := fun _ => false }

/-- A plain wallet bumps the original without asking for ownership: the request allows other
inputs but no unconfirmed ones. -/
theorem rateBumpRequest_spec_sample :
    ∃ req, rateBumpRequest watchOnlyWallet ⟨"b2"⟩ sampleCoinControl false = .ok req ∧
      req.coinControl.m_min_depth = 1 ∧ req.coinControl.m_allow_other_inputs = true := by
  refine ⟨_, rfl, ?_⟩
  obtain ⟨-, -, -, -, -, hd, ha, -⟩ := rateBumpRequest_spec
    (rfl : rateBumpRequest watchOnlyWallet ⟨"b2"⟩ sampleCoinControl false = _)
  exact ⟨hd, ha⟩

/-- A coin control on which the caller registered a `TxOut` of its own for every outpoint. -/
def preRegisteredCoinControl : CCoinControl :=
  { sampleCoinControl with m_external_txouts := fun _ => some ⟨1, [0x6a]⟩ }

/-- `SelectExternal` keeps a `TxOut` the caller registered: the request carries the caller's
`⟨1, [0x6a]⟩` for the original's only input, not the coin that input spends. -/
theorem rateBumpRequest_keeps_registered_txout :
    watchOnlyWallet.chain.findCoins ⟨⟨"a1"⟩, 0⟩ = some ⟨100000, [0x00, 0x14]⟩ ∧
      (rateBumpRequest watchOnlyWallet ⟨"b2"⟩ preRegisteredCoinControl false).map
        (·.coinControl.m_external_txouts ⟨⟨"a1"⟩, 0⟩) = .ok (some ⟨1, [0x6a]⟩) :=
  ⟨rfl, rfl⟩

/-! ## The verdict on an original the checks reject

The inputs are harvested (lines 366-388) before `PreconditionChecks` runs (line 414), while the
total bump and the commit run the checks first. -/

/-- A harvest that fails names an input whose coin the node did not find. -/
theorem harvestInputs_eq_error {w : CWallet} {vin : List CTxIn} {cc : CCoinControl} {v : Int}
    {f : Failure} (h : harvestInputs w vin cc v = .error f) :
    ∃ txin ∈ vin, (coinAt w txin.prevout).isNull = true ∧
      f = .reject .MISC_ERROR [.alreadySpent txin.prevout] := by
  induction vin generalizing cc v with
  | nil => cases h
  | cons txin vin ih =>
    simp only [harvestInputs] at h
    by_cases hn : (coinAt w txin.prevout).isNull = true
    · rw [if_pos hn] at h
      cases h
      exact ⟨txin, List.mem_cons_self _ _, hn, rfl⟩
    · rw [if_neg hn] at h
      obtain ⟨t, ht, hnull, rfl⟩ := ih h
      exact ⟨t, List.mem_cons_of_mem _ ht, hnull, rfl⟩

/-- On a record the checks reject, the rate bump ends with the harvest's error if it has one,
and with the verdict otherwise. -/
theorem createRateBumpTransaction_of_rejected {w : CWallet} {txid : Uint256} {wtx : CWalletTx}
    {cc : CCoinControl} {requireMine : Bool} {f : Failure} (hw : w.mapWallet txid = some wtx)
    (hp : preconditionChecks w txid wtx requireMine = .error f) :
    createRateBumpTransaction w txid cc requireMine =
      (harvestInputs w wtx.tx.vin cc 0).bind fun _ => .error f := by
  cases hh : harvestInputs w wtx.tx.vin cc 0 <;>
    simp [createRateBumpTransaction, rateBumpRequest, hw, hh, hp, bind, Except.bind]

/-- The rate bump returns the verdict of `PreconditionChecks` on a record it rejects exactly when
the node finds every coin the record spends; otherwise it returns MISC_ERROR "already spent"
for one of them. -/
theorem createRateBumpTransaction_verdict {w : CWallet} {txid : Uint256} {wtx : CWalletTx}
    {cc : CCoinControl} {requireMine : Bool} {f : Failure} (hw : w.mapWallet txid = some wtx)
    (hp : preconditionChecks w txid wtx requireMine = .error f) :
    (createRateBumpTransaction w txid cc requireMine = .error f ↔
      ∀ txin ∈ wtx.tx.vin, (coinAt w txin.prevout).isNull = false) ∧
    (createRateBumpTransaction w txid cc requireMine = .error f ∨
      ∃ txin ∈ wtx.tx.vin, (coinAt w txin.prevout).isNull = true ∧
        createRateBumpTransaction w txid cc requireMine =
          .error (.reject .MISC_ERROR [.alreadySpent txin.prevout])) := by
  rw [createRateBumpTransaction_of_rejected hw hp]
  obtain ⟨r, d, hr, rfl⟩ := preconditionChecks_error hp
  cases hh : harvestInputs w wtx.tx.vin cc 0 with
  | ok a =>
    -- every coin was found, and the verdict comes out
    obtain ⟨ccH, v⟩ := a
    exact ⟨⟨fun _ => (harvestInputs_eq_ok.mp hh).1, fun _ => rfl⟩, .inl rfl⟩
  | error e =>
    -- a missing coin masks the verdict, which is never MISC_ERROR
    obtain ⟨txin, hin, hnull, rfl⟩ := harvestInputs_eq_error hh
    refine ⟨⟨fun h => ?_, fun hall => by simp [hall txin hin] at hnull⟩,
      .inr ⟨txin, hin, hnull, rfl⟩⟩
    simp only [Except.bind, Except.error.injEq, Failure.reject.injEq] at h
    rcases hr with rfl | rfl <;> cases h.1

/-- `sampleWallet` where a wallet transaction spends an output of the record. -/
def descendantWallet : CWallet := { sampleWallet with hasWalletSpend := fun _ => true }

/-- The record has a wallet descendant and its coin is still unspent: the rate bump returns the
checks' INVALID_PARAMETER. -/
theorem createRateBumpTransaction_verdict_sample :
    preconditionChecks descendantWallet ⟨"b2"⟩ sampleWalletTx true =
        .error (.reject .INVALID_PARAMETER [.hasWalletDescendants]) ∧
      createRateBumpTransaction descendantWallet ⟨"b2"⟩ sampleCoinControl true =
        .error (.reject .INVALID_PARAMETER [.hasWalletDescendants]) :=
  ⟨rfl, (@createRateBumpTransaction_verdict descendantWallet ⟨"b2"⟩ sampleWalletTx
    sampleCoinControl true _ rfl rfl).1.mpr fun _ _ => rfl⟩

/-- A mined record: depth 1, and the node no longer holds the coin its input spent. -/
def minedWallet : CWallet :=
  { sampleWallet with
    mapWallet := fun t => if t = ⟨"b2"⟩ then some { sampleWalletTx with depth := 1 } else none
    chain := { sampleWallet.chain with findCoins := fun _ => none } }

/-- On the mined record `PreconditionChecks` answers WALLET_ERROR "mined or conflicted", but every
rate bump of it, whatever the coin control and ownership demand, answers MISC_ERROR "already
spent". -/
theorem createRateBumpTransaction_masks_verdict :
    (∀ requireMine, preconditionChecks minedWallet ⟨"b2"⟩ { sampleWalletTx with depth := 1 }
      requireMine = .error (.reject .WALLET_ERROR [.minedOrConflicted])) ∧
    ∀ cc requireMine, createRateBumpTransaction minedWallet ⟨"b2"⟩ cc requireMine =
      .error (.reject .MISC_ERROR [.alreadySpent ⟨⟨"a1"⟩, 0⟩]) :=
  ⟨fun _ => rfl, fun _ _ => rfl⟩

/-! ## An original the wallet cannot size -/

/-- A plain wallet, of a node outside Particl mode, that owns the original's input but cannot
sign for it: it registers nothing as external, and `CalculateMaximumSignedTxSize` answers `-1`. -/
def unsizableWallet : CWallet :=
  { sampleWallet with
    fParticlMode := false, isParticlWallet := false, calculateMaximumSignedTxSize := fun _ _ => -1 }

/-- A coin control carrying the caller's fee rate, 20000 sat/kvB. -/
def explicitRateCoinControl : CCoinControl :=
  { sampleCoinControl with m_feerate := some ⟨20000⟩ }

/-- The explicit-rate branch prices an unsizable original at `(uint32_t)-1` vbytes: the rate that
passes `CheckFeeRate` at the original's 200 vbytes is turned away as a fee of 85899345900 above
`-maxtxfee`. The total bump tests the size for `-1` first (lines 262-266); this branch does not. -/
theorem createRateBumpTransaction_prices_unsizable :
    toUInt32Size (-1) = 4294967295 ∧ unsizableWallet.isMine ⟨⟨"a1"⟩, 0⟩ = true ∧
      checkFeeRate unsizableWallet sampleWalletTx ⟨20000⟩ 200 1000 = .ok () ∧
      createRateBumpTransaction unsizableWallet ⟨"b2"⟩ explicitRateCoinControl false =
        .error (.reject .WALLET_ERROR
          [.aboveMaxTxFeeOption ((⟨20000⟩ : CFeeRate).getFee 4294967295) 10000000]) ∧
      (⟨20000⟩ : CFeeRate).getFee 4294967295 = 85899345900 :=
  ⟨rfl, rfl, rfl, rfl, rfl⟩

end ParticlCore.Wallet.FeeBumper
