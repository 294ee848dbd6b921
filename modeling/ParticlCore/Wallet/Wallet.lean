import ParticlCore.Wallet.Transaction

/-!
# Wallet — records, coin control and `PreconditionChecks`

The wallet state the fee bumper runs against, and its eligibility check.

* `CWalletTx` is a record of `mapWallet`: the transaction, its depth in the main chain
  (`GetTxDepthInMainChain`: `0` unconfirmed, negative conflicted), the string-keyed
  `mapValue` that carries the `replaces_txid` / `replaced_by_txid` linkage, and the order form.
* `CCoinControl` holds the fields the fee bumper reads or writes; `select`,
  `selectExternal` and `setInputWeight` are its registration methods.
* `CWallet` bundles the store with the answers of the collaborators whose code is not under
  `src/` (spec §6): the chain view, ownership and change tests, size and fee estimates, the
  transaction builder. Each is a field, so every theorem holds for every answer they give.
* `Failure` is how a fee-bumper call ends other than with `Result::OK`: a `Result` with the
  diagnostics pushed onto `errors`, or an `assert` that stops the process.

`preconditionChecks_eq_ok` says once what the check accepts (`Bumpable`); every later
proof cites it instead of unfolding the check.
-/

namespace ParticlCore.Wallet

/-- `mapValue_t`: the record's string-keyed metadata. -/
def MapValue := String → Option String

namespace MapValue

/-- `mapValue[key] = value`. -/
def set (m : MapValue) (key value : String) : MapValue :=
  fun k => if k = key then some value else m k

@[simp] theorem set_self (m : MapValue) (key value : String) :
    m.set key value key = some value := by simp [set]

@[simp] theorem set_ne (m : MapValue) {key k : String} (value : String) (h : k ≠ key) :
    m.set key value k = m k := by simp [set, h]

end MapValue

/-- The metadata key a replacement records its original under. -/
def replacesTxid : String := "replaces_txid"

/-- The metadata key an original records its replacement under. -/
def replacedByTxid : String := "replaced_by_txid"

theorem replacedByTxid_ne_replacesTxid : replacedByTxid ≠ replacesTxid := by
  simp [replacedByTxid, replacesTxid]

/-- `CWalletTx`: one record of `mapWallet`. -/
structure CWalletTx where
  tx : CTransaction
  depth : Int
  mapValue : MapValue
  vOrderForm : List (String × String)

/-- `CTransactionRecord`: a record of Particl's `mapRecords`, by the one field its
precondition check reads before giving up. -/
structure CTransactionRecord where
  depth : Int

/-- `isminefilter` values the fee bumper passes. -/
inductive IsMineFilter
  | ISMINE_WATCH_ONLY
  | ISMINE_SPENDABLE
  deriving DecidableEq, Repr

/-- `CCoinControl`, by the fields the fee bumper reads or writes. -/
structure CCoinControl where
  destChange : CTxDestination
  m_allow_other_inputs : Bool
  m_feerate : Option CFeeRate
  m_signal_bip125_rbf : Option Bool
  m_min_depth : Int
  m_selected_inputs : COutPoint → Bool
  m_external_txouts : COutPoint → Option CTxOut
  m_input_weights : COutPoint → Option Int

namespace CCoinControl

/-- `Select(output)`: add to the selected inputs. -/
def select (cc : CCoinControl) (o : COutPoint) : CCoinControl :=
  { cc with m_selected_inputs := fun o' => o' = o || cc.m_selected_inputs o' }

/-- `SelectExternal(outpoint, txout)`: select, and register `txout` unless a `TxOut` is
already registered for the outpoint (`std::map::emplace` keeps the first). -/
def selectExternal (cc : CCoinControl) (o : COutPoint) (txout : CTxOut) : CCoinControl :=
  { cc with
    m_selected_inputs := fun o' => o' = o || cc.m_selected_inputs o'
    m_external_txouts := fun o' =>
      if o' = o then (cc.m_external_txouts o).or (some txout) else cc.m_external_txouts o' }

/-- `IsExternalSelected(output)`. -/
def isExternalSelected (cc : CCoinControl) (o : COutPoint) : Bool :=
  (cc.m_external_txouts o).isSome

/-- `SetInputWeight(outpoint, weight)`. -/
def setInputWeight (cc : CCoinControl) (o : COutPoint) (weight : Int) : CCoinControl :=
  { cc with m_input_weights := fun o' => if o' = o then some weight else cc.m_input_weights o' }

end CCoinControl

/-- The node services read through `wallet.chain()`. -/
structure Chain where
  relayIncrementalFee : CFeeRate
  mempoolMinFee : CFeeRate
  hasDescendantsInMempool : Uint256 → Bool
  /-- `findCoins`: the unspent output an outpoint names, if the node knows one. -/
  findCoins : COutPoint → Option CTxOut

/-- The wallet, with the answers of its collaborators. -/
structure CWallet where
  mapWallet : Uint256 → Option CWalletTx
  /-- Particl's `CHDWallet::mapRecords`. -/
  mapRecords : Uint256 → Option CTransactionRecord
  chain : Chain
  /-- `fParticlMode`: the node runs in Particl mode. -/
  fParticlMode : Bool
  /-- `IsParticlWallet(wallet)`: the wallet is a `CHDWallet`. -/
  isParticlWallet : Bool
  m_default_max_tx_fee : Int
  m_signal_rbf : Bool
  /-- `GetLegacyScriptPubKeyMan()` is non-null. -/
  hasLegacyScriptPubKeyMan : Bool
  /-- `WALLET_FLAG_DISABLE_PRIVATE_KEYS` is set. -/
  disablePrivateKeys : Bool
  /-- `CFeeRate(WALLET_INCREMENTAL_RELAY_FEE)`, a constant of `wallet/wallet.h`. -/
  walletIncrementalRelayFee : CFeeRate
  /-- `HasWalletSpend`: a wallet transaction spends an output of this one. -/
  hasWalletSpend : Uint256 → Bool
  /-- `IsMine(outpoint)` is not `ISMINE_NO`. -/
  isMine : COutPoint → Bool
  allInputsMine : CTransaction → IsMineFilter → Bool
  /-- `CHDWallet::IsChange` on an entry of `vpout`. -/
  isChange : CTxOut → Bool
  /-- `OutputIsChange` on an entry of `vout`. -/
  outputIsChange : CTxOut → Bool
  /-- `CachedTxGetDebit(wallet, wtx, ISMINE_SPENDABLE)`. -/
  cachedTxGetDebit : CWalletTx → Int
  getVirtualTransactionSize : CTransaction → Nat
  /-- `CalculateMaximumSignedTxSize(tx, wallet[, coin_control])`, `-1` when some input
  cannot be sized. -/
  calculateMaximumSignedTxSize : CTransaction → Option CCoinControl → Int
  getMinimumFeeRate : CCoinControl → CFeeRate
  getRequiredFeeRate : CFeeRate
  /-- `particl::GetDustThreshold(output, GetDiscardRate(wallet))`. -/
  getDustThreshold : CTxOut → Int
  extractDestination : CScript → CTxDestination
  getTransactionInputWeight : CTxIn → Int
  /-- `SignatureWeights::GetWeightDiffToMax()` after `VerifyScript` replays input `i` of `tx`
  against the output it spends under a `SignatureWeightChecker`. -/
  signatureWeightDiffToMax : CTransaction → Nat → CTxOut → Int
  /-- `CreateTransaction(wallet, recipients, change_pos, coin_control, sign = false)`:
  the built transaction and its fee, or the builder's error text. -/
  createTransaction : List CRecipient → Int → CCoinControl → Except String (CTransaction × Int)

namespace CWallet

/-- `GetMinimumFee(wallet, nTxBytes, coin_control)`: the minimum rate's fee at that size. -/
def getMinimumFee (w : CWallet) (nTxBytes : Nat) (cc : CCoinControl) : Int :=
  (w.getMinimumFeeRate cc).getFee nTxBytes

/-- `GetRequiredFee(wallet, nTxBytes)`. -/
def getRequiredFee (w : CWallet) (nTxBytes : Nat) : Int :=
  w.getRequiredFeeRate.getFee nTxBytes

/-- The ownership filter `PreconditionChecks` demands of every input. -/
def mineFilter (w : CWallet) : IsMineFilter :=
  if w.hasLegacyScriptPubKeyMan && w.disablePrivateKeys then .ISMINE_WATCH_ONLY
  else .ISMINE_SPENDABLE

end CWallet

/-- `feebumper::Result`. -/
inductive Result
  | OK
  | INVALID_ADDRESS_OR_KEY
  | INVALID_PARAMETER
  | WALLET_ERROR
  | MISC_ERROR
  deriving DecidableEq, Repr

/-- The diagnostics the fee bumper pushes onto `errors`, with the values it formats. -/
inductive Diagnostic
  /-- "Transaction has descendants in the wallet" -/
  | hasWalletDescendants
  /-- "Transaction has descendants in the mempool" -/
  | hasMempoolDescendants
  /-- "Transaction has been mined, or is conflicted with a mined transaction" -/
  | minedOrConflicted
  /-- "Transaction is not BIP 125 replaceable" -/
  | notReplaceable
  /-- "Cannot bump transaction %s which was already bumped by transaction %s" -/
  | alreadyBumped (txid : Uint256) (replacedBy : String)
  /-- "Transaction contains inputs that don't belong to this wallet" -/
  | foreignInputs
  /-- "TODO: mapRecord txn" -/
  | mapRecordTodo
  /-- "New fee rate (%s) is lower than the minimum fee rate (%s) to get into the mempool -- " -/
  | belowMempoolMinFee (newFeePerK minFeePerK : Int)
  /-- "Insufficient total fee %s, must be at least %s (oldFee %s + incrementalFee %s)" -/
  | insufficientTotalFee (newTotalFee minTotalFee oldFee incrementalFee : Int)
  /-- "Insufficient total fee (cannot be less than required fee %s)" -/
  | belowRequiredFee (requiredFee : Int)
  /-- "Specified or calculated fee %s is too high (cannot be higher than -maxtxfee %s)" -/
  | aboveMaxTxFeeOption (fee maxTxFee : Int)
  /-- "Transaction has multiple change outputs" -/
  | multipleChangeOutputs
  /-- "Transaction does not have a change output" -/
  | noChangeOutput
  /-- "Transaction contains inputs that cannot be signed" -/
  | unsignableInputs
  /-- "Specified or calculated fee %s is too high (cannot be higher than maxTxFee %s)" -/
  | aboveMaxTxFee (fee maxTxFee : Int)
  /-- "New fee rate (%s) is lower than the minimum fee rate (%s) to get into the mempool --
  the totalFee value should be at least %s or the settxfee value should be at least %s to add
  transaction" -/
  | totalBumpBelowMempoolMinFee (newFeePerK minFeePerK minFee minFeePerK' : Int)
  /-- "Change output is too small to bump the fee" -/
  | changeTooSmall
  /-- "Invalid or non-wallet transaction id" -/
  | invalidTxid
  /-- "%s:%u is already spent" -/
  | alreadySpent (prevout : COutPoint)
  /-- "Unable to create transaction." followed by a space and the builder's error. -/
  | unableToCreate (error : String)
  /-- "Created new bumpfee transaction but could not mark the original transaction as
  replaced" -/
  | markReplacedFailed
  deriving DecidableEq, Repr

/-- How a fee-bumper call ends when it does not return `Result::OK`. -/
inductive Failure
  /-- It returns `result`, having pushed `errors`. -/
  | reject (result : Result) (errors : List Diagnostic)
  /-- An `assert` fails and the process stops. -/
  | abort
  deriving DecidableEq, Repr

/-- The out-parameters `old_fee`, `new_fee` and `mtx` of a bump that returns `Result::OK`. -/
structure BumpResult where
  oldFee : Int
  newFee : Int
  mtx : CTransaction

theorem bind_eq_ok {ε α β : Type} {x : Except ε α} {f : α → Except ε β} {b : β} :
    x >>= f = .ok b ↔ ∃ a, x = .ok a ∧ f a = .ok b := by
  cases x <;> simp [bind, Except.bind]

/-! A guard `if c then throw e` in a `do` block elaborates to an `if` whose branches both run
the rest of the block; these lemmas peel one guard at a time. -/

theorem guard_bind_eq_ok {ε α : Type} {p : Prop} [Decidable p] {e : ε} {k : Except ε α} {a : α} :
    (if p then (throw e : Except ε PUnit) >>= (fun _ => k)
      else (pure PUnit.unit : Except ε PUnit) >>= fun _ => k) = .ok a ↔ ¬p ∧ k = .ok a := by
  by_cases hp : p <;> simp [hp, bind, Except.bind, throw, throwThe, MonadExceptOf.throw, pure,
    Except.pure]

theorem guard_eq_ok {ε : Type} {p : Prop} [Decidable p] {e : ε} {a : PUnit} :
    (if p then (throw e : Except ε PUnit) else pure PUnit.unit) = .ok a ↔ ¬p := by
  by_cases hp : p <;> simp [hp, throw, throwThe, MonadExceptOf.throw, pure, Except.pure]

theorem throw_bind_ne_ok {ε α : Type} {e : ε} {k : PUnit → Except ε α} {a : α} :
    (throw e : Except ε PUnit) >>= k ≠ .ok a := by
  simp [bind, Except.bind, throw, throwThe, MonadExceptOf.throw]

theorem guard_bind_eq_error {ε α : Type} {p : Prop} [Decidable p] {e f : ε} {k : Except ε α} :
    (if p then (throw e : Except ε PUnit) >>= (fun _ => k)
      else (pure PUnit.unit : Except ε PUnit) >>= fun _ => k) = .error f ↔
      (p ∧ e = f) ∨ (¬p ∧ k = .error f) := by
  by_cases hp : p <;> simp [hp, bind, Except.bind, throw, throwThe, MonadExceptOf.throw, pure,
    Except.pure]

theorem guard_eq_error {ε : Type} {p : Prop} [Decidable p] {e f : ε} :
    (if p then (throw e : Except ε PUnit) else pure PUnit.unit) = .error f ↔ p ∧ e = f := by
  by_cases hp : p <;> simp [hp, throw, throwThe, MonadExceptOf.throw, pure, Except.pure]

theorem throw_bind_eq_error {ε α : Type} {e f : ε} {k : PUnit → Except ε α} :
    (throw e : Except ε PUnit) >>= k = .error f ↔ e = f := by
  simp [bind, Except.bind, throw, throwThe, MonadExceptOf.throw]

/-! ## `PreconditionChecks` -/

/-- `PreconditionChecks(wallet, wtx, require_mine, errors)` for the record `wtx` of
`mapWallet` under `txid` (`wtx.GetHash()`). -/
def preconditionChecks (w : CWallet) (txid : Uint256) (wtx : CWalletTx) (requireMine : Bool) :
    Except Failure Unit := do
  if w.hasWalletSpend txid then throw (.reject .INVALID_PARAMETER [.hasWalletDescendants])
  if w.chain.hasDescendantsInMempool txid then
    throw (.reject .INVALID_PARAMETER [.hasMempoolDescendants])
  if wtx.depth ≠ 0 then throw (.reject .WALLET_ERROR [.minedOrConflicted])
  if !signalsOptInRBF wtx.tx then throw (.reject .WALLET_ERROR [.notReplaceable])
  if let some replacedBy := wtx.mapValue replacedByTxid then
    throw (.reject .WALLET_ERROR [.alreadyBumped txid replacedBy])
  if requireMine && !w.allInputsMine wtx.tx w.mineFilter then
    throw (.reject .WALLET_ERROR [.foreignInputs])

/-- What `PreconditionChecks` accepts (spec §4.1). -/
structure Bumpable (w : CWallet) (txid : Uint256) (wtx : CWalletTx) (requireMine : Bool) :
    Prop where
  noWalletSpend : w.hasWalletSpend txid = false
  noMempoolDescendants : w.chain.hasDescendantsInMempool txid = false
  unconfirmed : wtx.depth = 0
  signalsRbf : signalsOptInRBF wtx.tx = true
  notReplaced : wtx.mapValue replacedByTxid = none
  ownsInputs : requireMine = true → w.allInputsMine wtx.tx w.mineFilter = true

/-- A record bumpable with ownership asked for is bumpable without it. -/
theorem Bumpable.without_ownership {w : CWallet} {txid : Uint256} {wtx : CWalletTx}
    {requireMine : Bool} (h : Bumpable w txid wtx requireMine) : Bumpable w txid wtx false :=
  ⟨h.noWalletSpend, h.noMempoolDescendants, h.unconfirmed, h.signalsRbf, h.notReplaced, nofun⟩

theorem preconditionChecks_eq_ok {w : CWallet} {txid : Uint256} {wtx : CWalletTx}
    {requireMine : Bool} :
    preconditionChecks w txid wtx requireMine = .ok () ↔ Bumpable w txid wtx requireMine := by
  simp only [preconditionChecks, guard_bind_eq_ok]
  cases hv : wtx.mapValue replacedByTxid
  · simp only [pure_bind, guard_eq_ok, ne_eq, not_not, Bool.not_eq_true, Bool.not_eq_false',
      Bool.and_eq_false_imp, Bool.not_eq_true', Bool.not_eq_false]
    exact ⟨fun ⟨h1, h2, h3, h4, h5⟩ => ⟨h1, h2, h3, h4, hv, h5⟩,
      fun ⟨h1, h2, h3, h4, _, h6⟩ => ⟨h1, h2, h3, h4, h6⟩⟩
  · -- a stamped record is rejected, and is not bumpable
    simp only [throw_bind_ne_ok, and_false, false_iff]
    exact fun hb => by simp [hb.notReplaced] at hv

/-- Every verdict of `PreconditionChecks` is INVALID_PARAMETER (descendants) or WALLET_ERROR
(the rest), with the one diagnostic of the check that failed. -/
theorem preconditionChecks_error {w : CWallet} {txid : Uint256} {wtx : CWalletTx}
    {requireMine : Bool} {f : Failure} (h : preconditionChecks w txid wtx requireMine = .error f) :
    ∃ r d, (r = .INVALID_PARAMETER ∨ r = .WALLET_ERROR) ∧ f = .reject r [d] := by
  simp only [preconditionChecks, guard_bind_eq_error] at h
  cases hv : wtx.mapValue replacedByTxid <;>
    simp only [hv, pure_bind, guard_eq_error, throw_bind_eq_error] at h <;>
    rcases h with ⟨-, rfl⟩ | ⟨-, ⟨-, rfl⟩ | ⟨-, ⟨-, rfl⟩ | ⟨-, ⟨-, rfl⟩ | ⟨-, h⟩⟩⟩⟩ <;>
    first
    | exact ⟨_, _, by simp, rfl⟩
    | (obtain ⟨-, rfl⟩ := h; exact ⟨_, _, by simp, rfl⟩)

/-- The check never accepts with a diagnostic and never rejects without one: a rejection
carries exactly one. -/
theorem preconditionChecks_rejects {w : CWallet} {txid : Uint256} {wtx : CWalletTx}
    {requireMine : Bool} {f : Failure} (h : preconditionChecks w txid wtx requireMine = .error f) :
    ∃ r d, r ≠ .OK ∧ f = .reject r [d] := by
  obtain ⟨r, d, hr, rfl⟩ := preconditionChecks_error h
  exact ⟨r, d, by rcases hr with rfl | rfl <;> decide, rfl⟩

/-- A transaction spending one outpoint with an opt-in sequence number, paying `90000` to a
payee and `9000` to a change script. -/
def sampleTx : CTransaction where
  vin := [⟨⟨⟨"a1"⟩, 0⟩, [], [], 0xfffffffd⟩]
  vout := [⟨90000, [0x00, 0x14]⟩, ⟨9000, [0x51]⟩]

/-- `sampleTx` as an unconfirmed record with empty metadata. -/
def sampleWalletTx : CWalletTx := ⟨sampleTx, 0, fun _ => none, []⟩

/-- A coin control with nothing selected and no fee rate. -/
def sampleCoinControl : CCoinControl where
  destChange := .noDestination
  m_allow_other_inputs := false
  m_feerate := none
  m_signal_bip125_rbf := none
  m_min_depth := 0
  m_selected_inputs _ := false
  m_external_txouts _ := none
  m_input_weights _ := none

/-- A Particl wallet holding `sampleWalletTx` under `⟨"b2"⟩`, at the node's default fee
settings: relay increment and mempool minimum 1000 sat/kvB, `WALLET_INCREMENTAL_RELAY_FEE`
5000, minimum and required rate 1000, `-maxtxfee` 0.1 coin, dust threshold 546. Its node
holds the coin of 100000 the original spends. It owns every input, counts the `[0x51]` script
as change, sizes every transaction at 200 vbytes and every input at 272 weight units, one
short of its largest signature. -/
def sampleWallet : CWallet where
  mapWallet t := if t = ⟨"b2"⟩ then some sampleWalletTx else none
  mapRecords _ := none
  chain :=
    { relayIncrementalFee := ⟨1000⟩, mempoolMinFee := ⟨1000⟩,
      hasDescendantsInMempool := fun _ => false,
      findCoins := fun _ => some ⟨100000, [0x00, 0x14]⟩ }
  fParticlMode := true
  isParticlWallet := true
  m_default_max_tx_fee := 10000000
  m_signal_rbf := true
  hasLegacyScriptPubKeyMan := false
  disablePrivateKeys := false
  walletIncrementalRelayFee := ⟨5000⟩
  hasWalletSpend _ := false
  isMine _ := true
  allInputsMine _ _ := true
  isChange o := o.scriptPubKey = [0x51]
  outputIsChange o := o.scriptPubKey = [0x51]
  cachedTxGetDebit _ := 100000
  getVirtualTransactionSize _ := 200
  calculateMaximumSignedTxSize _ _ := 200
  getMinimumFeeRate _ := ⟨1000⟩
  getRequiredFeeRate := ⟨1000⟩
  getDustThreshold _ := 546
  extractDestination _ := .noDestination
  getTransactionInputWeight _ := 272
  signatureWeightDiffToMax _ _ _ := 1
  createTransaction _ _ _ := .error "Insufficient funds"

end ParticlCore.Wallet
