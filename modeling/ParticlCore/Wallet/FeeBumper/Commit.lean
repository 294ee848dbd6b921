import ParticlCore.Wallet.Wallet

/-!
# FeeBumper — committing a replacement

`feebumper::CommitTransaction` (lines 495-527) and the two wallet methods it calls to change
the store. Those two, `CWallet::CommitTransaction` and `CWallet::MarkReplaced`, live in
`wallet/wallet.cpp`, which is not part of the sources: they are modelled from the spec (§4.5),
and each says so.

* `CWallet.setTx` is the one store update, with its get/set lemmas;
* `CWallet.replacedBy` and `CWallet.replaces` read a record's linkage stamps;
* `commitTransaction_eq_ok` says once what a commit that returns OK did to the store, and
  `commitTransaction_linkage` reads the new stamps off it.
-/

namespace ParticlCore.Wallet

namespace CWallet

/-- `mapWallet[txid] = wtx`. -/
def setTx (w : CWallet) (txid : Uint256) (wtx : CWalletTx) : CWallet :=
  { w with mapWallet := fun t => if t = txid then some wtx else w.mapWallet t }

@[simp] theorem setTx_self (w : CWallet) (txid : Uint256) (wtx : CWalletTx) :
    (w.setTx txid wtx).mapWallet txid = some wtx := by simp [setTx]

@[simp] theorem setTx_ne (w : CWallet) {txid t : Uint256} (wtx : CWalletTx) (h : t ≠ txid) :
    (w.setTx txid wtx).mapWallet t = w.mapWallet t := by simp [setTx, h]

/-- Modelled from the spec: `CWallet::CommitTransaction(tx, mapValue, orderForm)` adds `tx` to
`mapWallet` under its hash as an unconfirmed record carrying the given metadata. A record the
wallet already holds under that hash keeps its transaction and depth and takes the metadata, as
`AddToWallet` updates an existing entry. -/
def commitTransaction (w : CWallet) (getHash : CTransaction → Uint256) (tx : CTransaction)
    (mapValue : MapValue) (orderForm : List (String × String)) : CWallet :=
  w.setTx (getHash tx) <| match w.mapWallet (getHash tx) with
    | some wtx => { wtx with mapValue := mapValue, vOrderForm := orderForm }
    | none => ⟨tx, 0, mapValue, orderForm⟩

/-- Modelled from the spec: `CWallet::MarkReplaced(originalHash, newHash)` stamps the original
record with `replaced_by_txid = newHash`; it fails, changing nothing, when the record is gone. -/
def markReplaced (w : CWallet) (originalHash newHash : Uint256) : Option CWallet :=
  (w.mapWallet originalHash).map fun wtx =>
    w.setTx originalHash { wtx with mapValue := wtx.mapValue.set replacedByTxid newHash.toString }

/-- Record `txid`'s `replaced_by_txid` stamp. -/
def replacedBy (w : CWallet) (txid : Uint256) : Option String :=
  (w.mapWallet txid).bind (·.mapValue replacedByTxid)

/-- Record `txid`'s `replaces_txid` stamp. -/
def replaces (w : CWallet) (txid : Uint256) : Option String :=
  (w.mapWallet txid).bind (·.mapValue replacesTxid)

theorem replacedBy_eq_none {w : CWallet} {txid : Uint256} {wtx : CWalletTx}
    (h : w.mapWallet txid = some wtx) (hb : Bumpable w txid wtx false) :
    w.replacedBy txid = none := by
  simp [replacedBy, h, hb.notReplaced]

end CWallet

namespace FeeBumper

/-- `feebumper::CommitTransaction(wallet, txid, mtx, errors, bumped_txid)`: the new wallet, the
replacement's hash and the diagnostics of a call that returns `Result::OK`. The original's
`GetHash()` is the `txid` it is stored under. -/
def commitTransaction (getHash : CTransaction → Uint256) (w : CWallet) (txid : Uint256)
    (mtx : CTransaction) (errors : List Diagnostic) :
    Except Failure (CWallet × Uint256 × List Diagnostic) := do
  if !errors.isEmpty then throw (.reject .MISC_ERROR errors)
  let some oldWtx := if txid.isNull then none else w.mapWallet txid
    | throw (.reject .MISC_ERROR (errors ++ [.invalidTxid]))
  preconditionChecks w txid oldWtx false
  let mapValue := oldWtx.mapValue.set replacesTxid txid.toString
  let w := w.commitTransaction getHash mtx mapValue oldWtx.vOrderForm
  let bumpedTxid := getHash mtx
  match w.markReplaced txid bumpedTxid with
  | some w => pure (w, bumpedTxid, errors)
  | none => pure (w, bumpedTxid, errors ++ [.markReplacedFailed])

/-- The store after a commit of `mtx` for the record `wtx` under `txid`. -/
def committed (getHash : CTransaction → Uint256) (w : CWallet) (txid : Uint256)
    (wtx : CWalletTx) (mtx : CTransaction) : CWallet :=
  let w := w.commitTransaction getHash mtx (wtx.mapValue.set replacesTxid txid.toString)
    wtx.vOrderForm
  match w.mapWallet txid with
  | some wtx => w.setTx txid
      { wtx with mapValue := wtx.mapValue.set replacedByTxid (getHash mtx).toString }
  | none => w

/-- The original is still in the store after `CWallet::CommitTransaction`, so `MarkReplaced`
succeeds. -/
theorem markReplaced_commitTransaction {getHash : CTransaction → Uint256} {w : CWallet}
    {txid : Uint256} {wtx : CWalletTx} (hw : w.mapWallet txid = some wtx) (mtx : CTransaction) :
    (w.commitTransaction getHash mtx (wtx.mapValue.set replacesTxid txid.toString)
      wtx.vOrderForm).markReplaced txid (getHash mtx) = some (committed getHash w txid wtx mtx) := by
  obtain ⟨x, hx⟩ : ∃ x, (w.commitTransaction getHash mtx (wtx.mapValue.set replacesTxid
      txid.toString) wtx.vOrderForm).mapWallet txid = some x := by
    by_cases h : txid = getHash mtx
    · exact ⟨_, by rw [CWallet.commitTransaction, h, CWallet.setTx_self]⟩
    · exact ⟨wtx, by rw [CWallet.commitTransaction, CWallet.setTx_ne _ _ h, hw]⟩
  simp only [CWallet.markReplaced, committed, hx, Option.map_some']

/-- A commit returns OK exactly when the caller passed no diagnostics, the id names a record,
and the record still passes the checks without ownership; the original is then always found
again, so no diagnostic is added. -/
theorem commitTransaction_eq_ok {getHash : CTransaction → Uint256} {w : CWallet}
    {txid : Uint256} {mtx : CTransaction} {r : CWallet × Uint256 × List Diagnostic} :
    commitTransaction getHash w txid mtx [] = .ok r ↔
      ∃ wtx, txid.isNull = false ∧ w.mapWallet txid = some wtx ∧ Bumpable w txid wtx false ∧
        r = (committed getHash w txid wtx mtx, getHash mtx, []) := by
  constructor
  · intro h
    simp only [commitTransaction, List.isEmpty_nil, Bool.not_true, Bool.false_eq_true,
      if_false] at h
    obtain ⟨-, -, h⟩ := bind_eq_ok.mp h
    split at h
    · rename_i wtx hw
      split at hw
      · cases hw
      rename_i hn
      obtain ⟨⟨⟩, hp, h⟩ := bind_eq_ok.mp h
      rw [markReplaced_commitTransaction hw] at h
      cases h
      exact ⟨wtx, by simpa using hn, hw, preconditionChecks_eq_ok.mp hp, rfl⟩
    · cases h
  · rintro ⟨wtx, hn, hw, hb, rfl⟩
    simp [commitTransaction, hn, hw, preconditionChecks_eq_ok.mpr hb,
      markReplaced_commitTransaction hw, bind, Except.bind, pure, Except.pure]

/-- A commit leaves every record but the original's as `CWallet::CommitTransaction` wrote it. -/
theorem committed_ne {getHash : CTransaction → Uint256} {w : CWallet} {txid : Uint256}
    {wtx : CWalletTx} {mtx : CTransaction} {X : Uint256} (hX : X ≠ txid) :
    (committed getHash w txid wtx mtx).mapWallet X =
      (w.commitTransaction getHash mtx (wtx.mapValue.set replacesTxid txid.toString)
        wtx.vOrderForm).mapWallet X := by
  dsimp only [committed]
  split
  · exact CWallet.setTx_ne _ _ hX
  · rfl

/-- The original's record after a commit is stamped replaced by the new hash. It is the
original, or, when the new hash is `txid` itself, the original with the copied metadata, which
says it replaces itself. -/
theorem committed_at_original {getHash : CTransaction → Uint256} {w : CWallet} {txid : Uint256}
    {wtx : CWalletTx} (hw : w.mapWallet txid = some wtx) (mtx : CTransaction) :
    (committed getHash w txid wtx mtx).mapWallet txid =
      let r := if getHash mtx = txid
        then { wtx with mapValue := wtx.mapValue.set replacesTxid txid.toString } else wtx
      some { r with mapValue := r.mapValue.set replacedByTxid (getHash mtx).toString } := by
  by_cases hne : getHash mtx = txid
  · simp only [committed, CWallet.commitTransaction, hne, hw, CWallet.setTx_self, if_true]
  · simp only [committed, CWallet.commitTransaction, CWallet.setTx_ne _ _ (Ne.symm hne), hw,
      CWallet.setTx_self, if_neg hne]

theorem committed_replacedBy {getHash : CTransaction → Uint256} {w : CWallet} {txid : Uint256}
    {wtx : CWalletTx} {mtx : CTransaction} (hw : w.mapWallet txid = some wtx) (X : Uint256) :
    (committed getHash w txid wtx mtx).replacedBy X =
      if X = txid then some (getHash mtx).toString
      else if X = getHash mtx then wtx.mapValue replacedByTxid else w.replacedBy X := by
  by_cases hX : X = txid
  · subst hX
    simp [CWallet.replacedBy, committed_at_original hw]
  rw [if_neg hX, CWallet.replacedBy, committed_ne hX, CWallet.commitTransaction]
  by_cases hB : X = getHash mtx
  · subst hB
    simp only [CWallet.setTx_self, if_true]
    split <;> simp [MapValue.set_ne _ _ replacedByTxid_ne_replacesTxid]
  · simp [hB, CWallet.replacedBy]

theorem committed_replaces {getHash : CTransaction → Uint256} {w : CWallet} {txid : Uint256}
    {wtx : CWalletTx} {mtx : CTransaction} (hw : w.mapWallet txid = some wtx) (Y : Uint256) :
    (committed getHash w txid wtx mtx).replaces Y =
      if Y = getHash mtx then some txid.toString else w.replaces Y := by
  by_cases hY : Y = txid
  · subst hY
    by_cases hne : getHash mtx = Y
    · simp [CWallet.replaces, committed_at_original hw, hne,
        MapValue.set_ne _ _ replacedByTxid_ne_replacesTxid.symm]
    · simp [CWallet.replaces, committed_at_original hw, hne, Ne.symm hne, hw,
        MapValue.set_ne _ _ replacedByTxid_ne_replacesTxid.symm]
  rw [CWallet.replaces, committed_ne hY, CWallet.commitTransaction]
  by_cases hB : Y = getHash mtx
  · subst hB
    simp only [CWallet.setTx_self, if_true]
    split <;> simp
  · simp [hB, CWallet.replaces]

/-- After a commit the original is still stored under `txid` with its transaction and depth,
and is stamped replaced by the replacement's hash, also when that hash is `txid` itself. -/
theorem committed_original {getHash : CTransaction → Uint256} {w : CWallet} {txid : Uint256}
    {wtx : CWalletTx} (hw : w.mapWallet txid = some wtx) (mtx : CTransaction) :
    ∃ wtx', (committed getHash w txid wtx mtx).mapWallet txid = some wtx' ∧ wtx'.tx = wtx.tx ∧
      wtx'.depth = wtx.depth ∧ wtx'.mapValue replacedByTxid = some (getHash mtx).toString := by
  rw [committed_at_original hw]
  refine ⟨_, rfl, ?_, ?_, by simp⟩ <;> split <;> rfl

/-- The stamps after a commit that returns OK: the original had no `replaced_by_txid`, and now
names the replacement, which names it back; the replacement's record carries no
`replaced_by_txid` unless it is the original itself. -/
theorem commitTransaction_linkage {getHash : CTransaction → Uint256} {w w' : CWallet}
    {txid b : Uint256} {mtx : CTransaction} {es : List Diagnostic}
    (h : commitTransaction getHash w txid mtx [] = .ok (w', b, es)) :
    b = getHash mtx ∧ w.replacedBy txid = none ∧
      (∀ X, w'.replacedBy X = if X = txid then some b.toString
        else if X = b then none else w.replacedBy X) ∧
      (∀ Y, w'.replaces Y = if Y = b then some txid.toString else w.replaces Y) := by
  obtain ⟨wtx, -, hw, hb, hr⟩ := commitTransaction_eq_ok.mp h
  simp only [Prod.mk.injEq] at hr
  obtain ⟨rfl, rfl, -⟩ := hr
  refine ⟨rfl, CWallet.replacedBy_eq_none hw hb, fun X => ?_, committed_replaces hw⟩
  rw [committed_replacedBy hw, hb.notReplaced]

end FeeBumper

end ParticlCore.Wallet
