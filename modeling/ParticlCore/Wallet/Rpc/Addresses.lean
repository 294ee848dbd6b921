import ParticlCore.Rpc.Protocol
import ParticlCore.Wallet.Transaction
import Mathlib.Data.List.Nodup

/-!
# Wallet RPC — the address handlers

The handlers of `wallet/rpc/addresses.cpp` that create addresses and read the address book:
`getnewaddress`, `getrawchangeaddress`, `setlabel`, `getaddressesbylabel`, `listlabels` and
`keypoolrefill`. Each reads its arguments, runs its checks and hands the work to a wallet method
whose code is not under `src/`: key derivation (`CHDWallet::NewKeyFromAccount`,
`GetNewDestination`), the address book (`SetAddressBook`, `ForEachAddrBookEntry`,
`ListAddrBookLabels`) and the key pool. `AddressWallet` carries those methods' answers, so every
result holds for every answer they give.

`getnewaddress` runs in two parts, as its comment "Parse the label first so we don't generate a
key if there's an error" asks: `newAddressPlan` reads and checks the arguments, and
`newAddressOf` asks for the key. `getnewaddress_error_before_key` says every error but the key
source's own is raised before the key source is asked. The type argument is parsed by the same
block in `getnewaddress` and `getrawchangeaddress` (`outputTypeParam`); on a Particl wallet the
second never reaches it (`getrawchangeaddress_particl`).

`getaddressesbylabel_eq` says what the address-book loop of `getaddressesbylabel` returns: the
labelled entries that are not change, in the book's order, and the `CHECK_NONFATAL` on
duplicate addresses fires only when `EncodeDestination` sends two of them to one string.
-/

namespace ParticlCore.Wallet

open ParticlCore.Rpc

/-- `OutputType`. -/
inductive OutputType
  | LEGACY
  | P2SH_SEGWIT
  | BECH32
  | BECH32M
  deriving DecidableEq, Repr

/-- `ParseOutputType(type)` (`outputtype.cpp`, not under `src/`): the four names the handlers'
help offers. -/
def parseOutputType (type : String) : Option OutputType :=
  if type = "legacy" then some .LEGACY
  else if type = "p2sh-segwit" then some .P2SH_SEGWIT
  else if type = "bech32" then some .BECH32
  else if type = "bech32m" then some .BECH32M
  else none

/-- `LabelFromValue(value)` (`wallet/rpc/util.cpp`, not under `src/`): the string, except that
`"*"` is refused. -/
def labelFromValue (value : UniValue) : Except RPCFailure String := do
  let label ← value.getStr
  if label = "*" then throw (.error ⟨RPC_WALLET_INVALID_LABEL_NAME, "Invalid label name"⟩)
  pure label

/-- `IsValidDestination(dest)`: any destination but `CNoDestination`. -/
def isValidDestination : CTxDestination → Bool
  | .noDestination => false
  | _ => true

/-- `CPubKey`, by its bytes. -/
abbrev CPubKey := List UInt8

/-- A call of `CHDWallet::NewKeyFromAccount`. -/
inductive KeyRequest
  /-- `NewKeyFromAccount(newKey, false, fHardened, f256bit, fBech32, label.c_str(), output_type)`:
  the label as far as its first NUL. -/
  | receive (hardened f256bit bech32 : Bool) (plabel : String) (outputType : OutputType)
  /-- `NewKeyFromAccount(pkOut, true)`. -/
  | change
  deriving DecidableEq, Repr

/-- The address a handler returns, by the encoder the source applies. -/
inductive NewAddress
  /-- `EncodeDestination(GetDestinationForKey(newKey, output_type))`. -/
  | ofType (key : CPubKey) (outputType : OutputType)
  /-- `CBitcoinAddress(newKey.GetID256(), fBech32).ToString()`. -/
  | id256 (key : CPubKey) (bech32 : Bool)
  /-- `CBitcoinAddress(PKHash(newKey), fBech32).ToString()`. -/
  | pkHash (key : CPubKey) (bech32 : Bool)
  /-- `EncodeDestination(PKHash(pkOut.GetID()))`. -/
  | changeKey (key : CPubKey)
  /-- `EncodeDestination(dest)`. -/
  | destination (dest : CTxDestination)
  deriving DecidableEq, Repr

/-- `CAddressBookData`, by what `ForEachAddrBookEntry` passes on. -/
structure CAddressBookData where
  /-- `IsChange()`: an entry kept for a change address, which has no label. -/
  isChange : Bool
  label : String
  purpose : String
  deriving DecidableEq, Repr

/-- `CWallet::m_address_book` in the map's order: one entry per destination. -/
structure AddressBook where
  entries : List (CTxDestination × CAddressBookData)
  nodup : (entries.map Prod.fst).Nodup

/-- The wallet as the address handlers see it: its kind and flags, and the answers of the
methods they call. -/
structure AddressWallet where
  isParticlWallet : Bool
  /-- `CanGetAddresses(internal)`. -/
  canGetAddresses : Bool → Bool
  /-- `GetLegacyScriptPubKeyMan()` is non-null. -/
  hasLegacyScriptPubKeyMan : Bool
  /-- `IsLegacy()`. -/
  isLegacy : Bool
  /-- `WALLET_FLAG_DISABLE_PRIVATE_KEYS` is set. -/
  disablePrivateKeys : Bool
  /-- `CHDWallet::idDefaultAccount` is not null. -/
  hasDefaultAccount : Bool
  /-- `CHDWallet::pEKMaster` is set. -/
  hasMasterKey : Bool
  m_default_address_type : OutputType
  m_default_change_type : Option OutputType
  /-- `CHDWallet::NewKeyFromAccount`: the new key, or `none` when it returns non-zero. -/
  newKeyFromAccount : KeyRequest → Option CPubKey
  /-- `GetNewDestination(type, label)`: the destination, or the error's text. -/
  getNewDestination : OutputType → String → Except String CTxDestination
  /-- `GetNewChangeDestination(type)`. -/
  getNewChangeDestination : OutputType → Except String CTxDestination
  decodeDestination : String → CTxDestination
  encodeDestination : CTxDestination → String
  /-- `IsMine(dest)` is not `ISMINE_NO`. -/
  isMine : CTxDestination → Bool
  addressBook : AddressBook
  /-- `ListAddrBookLabels(purpose)`, sorted as its `std::set`. -/
  listAddrBookLabels : String → List String
  /-- `EnsureWalletIsUnlocked` passes. -/
  unlocked : Bool
  /-- `GetKeyPoolSize()` after `TopUpKeyPool(kpSize)`. -/
  keyPoolSizeAfterTopUp : Nat → Nat

/-- A call of `SetAddressBook(dest, label, purpose)`. -/
structure AddressBookUpdate where
  dest : CTxDestination
  label : String
  purpose : String
  deriving DecidableEq, Repr

/-! ## Creating addresses -/

/-- `JSONRPCError(RPC_WALLET_ERROR, "NewKeyFromAccount failed.")`. -/
def newKeyFromAccountFailed : JSONRPCError := ⟨RPC_WALLET_ERROR, "NewKeyFromAccount failed."⟩

/-- `JSONRPCError(RPC_WALLET_ERROR, "Error: This wallet has no available keys")`. -/
def noAvailableKeys : JSONRPCError := ⟨RPC_WALLET_ERROR, "Error: This wallet has no available keys"⟩

/-- The address-type argument, as `getnewaddress` (lines 58-67) and `getrawchangeaddress`
(lines 166-174) read it alike: the default when it is `null`, else the parsed type, refusing
an unknown name and, on a wallet with a legacy script manager, `bech32m`. -/
def outputTypeParam (w : AddressWallet) (dflt : OutputType) (value : UniValue) :
    Except RPCFailure OutputType := do
  if value.isNull then return dflt
  let type ← value.getStr
  match parseOutputType type with
  | none => throw (.error ⟨RPC_INVALID_ADDRESS_OR_KEY, "Unknown address type '" ++ type ++ "'"⟩)
  | some t =>
    if t = .BECH32M && w.hasLegacyScriptPubKeyMan then
      throw (.error ⟨RPC_INVALID_PARAMETER, "Legacy wallets cannot provide bech32m addresses"⟩)
    pure t

/-- What `getnewaddress` asks the wallet for once its arguments passed every check. -/
inductive NewAddressPlan
  /-- A Particl wallet derives a key of its default account. -/
  | key (hardened f256bit bech32 : Bool) (label : String) (outputType : OutputType)
  /-- Any other wallet draws a destination from its key pool. -/
  | destination (outputType : OutputType) (label : String)
  deriving DecidableEq, Repr

/-- Lines 43-96 of `getnewaddress`: the arguments read and checked, up to the key. In Particl
mode the type is argument 4, after the three flags; otherwise it is argument 1. `GetBool` is
Particl's reader of a flag argument (`rpc/util`, not under `src/`). -/
def newAddressPlan (fParticlMode : Bool) (getBool : UniValue → Except RPCFailure Bool)
    (w : AddressWallet) (params : List UniValue) : Except RPCFailure NewAddressPlan := do
  if !w.isParticlWallet && !w.canGetAddresses false then throw (.error noAvailableKeys)
  let label ← if (param params 0).isNull then pure "" else labelFromValue (param params 0)
  let typeOfs := if fParticlMode then 4 else 1
  let outputType ← outputTypeParam w w.m_default_address_type (param params typeOfs)
  if !w.isParticlWallet then return .destination outputType label
  let flag (i : Nat) := if params.length > i then getBool (param params i) else pure false
  let fBech32 ← flag 1
  let fHardened ← flag 2
  let f256bit ← flag 3
  if outputType = .P2SH_SEGWIT then
    throw (.error ⟨RPC_INVALID_PARAMETER, "p2sh-segwit is disabled"⟩)
  if f256bit && outputType ≠ .LEGACY then
    throw (.error ⟨RPC_INVALID_PARAMETER, "256bit must be used with address_type \"legacy\""⟩)
  if w.disablePrivateKeys then
    throw (.error ⟨RPC_WALLET_ERROR, "Error: Private keys are disabled for this wallet"⟩)
  if !w.hasDefaultAccount then
    if !w.hasMasterKey then throw (.error ⟨RPC_WALLET_ERROR, "Wallet has no active master key."⟩)
    throw (.error ⟨RPC_WALLET_ERROR, "No default account set."⟩)
  pure (.key fHardened f256bit fBech32 label outputType)

/-- Lines 97-123 of `getnewaddress`: the key or destination drawn, and the address made of it. -/
def newAddressOf (w : AddressWallet) : NewAddressPlan → Except RPCFailure NewAddress
  | .key hardened f256bit bech32 label outputType =>
    match w.newKeyFromAccount
      (.receive hardened f256bit bech32 (cString label) outputType) with
    | none => .error (.error newKeyFromAccountFailed)
    | some newKey =>
      if outputType ≠ .LEGACY then .ok (.ofType newKey outputType)
      else if f256bit then .ok (.id256 newKey bech32)
      else .ok (.pkHash newKey bech32)
  | .destination outputType label =>
    match w.getNewDestination outputType label with
    | .error e => .error (.error ⟨RPC_WALLET_KEYPOOL_RAN_OUT, e⟩)
    | .ok dest => .ok (.destination dest)

/-- `getnewaddress`. -/
def getnewaddress (fParticlMode : Bool) (getBool : UniValue → Except RPCFailure Bool)
    (w : AddressWallet) (params : List UniValue) : Except RPCFailure NewAddress :=
  newAddressPlan fParticlMode getBool w params >>= newAddressOf w

/-- `getrawchangeaddress`: a Particl wallet derives a change key of its account; any other
wallet parses the type argument and draws a change destination. -/
def getrawchangeaddress (w : AddressWallet) (params : List UniValue) :
    Except RPCFailure NewAddress := do
  if w.isParticlWallet then
    let some pkOut := w.newKeyFromAccount .change | throw (.error newKeyFromAccountFailed)
    return .changeKey pkOut
  if !w.canGetAddresses true then throw (.error noAvailableKeys)
  let outputType ← outputTypeParam w (w.m_default_change_type.getD w.m_default_address_type)
    (param params 0)
  match w.getNewChangeDestination outputType with
  | .error e => throw (.error ⟨RPC_WALLET_KEYPOOL_RAN_OUT, e⟩)
  | .ok dest => pure (.destination dest)

/-- `keypoolrefill`: `0` asks `TopUpKeyPool` for the default size. -/
def keypoolrefill (w : AddressWallet) (params : List UniValue) : Except RPCFailure Unit := do
  if w.isLegacy && w.disablePrivateKeys then
    throw (.error ⟨RPC_WALLET_ERROR, "Error: Private keys are disabled for this wallet"⟩)
  let kpSize ← if (param params 0).isNull then pure 0 else do
    let n ← (param params 0).getInt
    if n < 0 then throw (.error ⟨RPC_INVALID_PARAMETER, "Invalid parameter, expected valid size."⟩)
    pure n.toNat
  if !w.unlocked then
    throw (.error ⟨RPC_WALLET_UNLOCK_NEEDED,
      "Error: Please enter the wallet passphrase with walletpassphrase first."⟩)
  if w.keyPoolSizeAfterTopUp kpSize < kpSize then
    throw (.error ⟨RPC_WALLET_ERROR, "Error refreshing keypool."⟩)

/-! ## The address book -/

/-- `setlabel`: the `SetAddressBook` call it makes, filing an address the wallet owns under
`"receive"` and any other under `"send"`. -/
def setlabel (w : AddressWallet) (params : List UniValue) : Except RPCFailure AddressBookUpdate := do
  let dest := w.decodeDestination (← (param params 0).getStr)
  if !isValidDestination dest then
    throw (.error ⟨RPC_INVALID_ADDRESS_OR_KEY, "Invalid Particl address"⟩)
  let label ← labelFromValue (param params 1)
  pure ⟨dest, label, if w.isMine dest then "receive" else "send"⟩

/-- Lines 886-905: the lambda `ForEachAddrBookEntry` runs on each entry of the book, from one
entry on, with the set `addresses` of addresses met and the object `ret` built so far. -/
def collectByLabel (encode : CTxDestination → String) (label : String) :
    List (CTxDestination × CAddressBookData) → List String → List (String × String) →
      Except RPCFailure (List (String × String))
  | [], _, ret => .ok ret
  | (dest, entry) :: rest, addresses, ret =>
    if entry.isChange then collectByLabel encode label rest addresses ret
    else if entry.label = label then
      let address := encode dest
      if address ∈ addresses then .error .internalBug
      else collectByLabel encode label rest (address :: addresses) (ret ++ [(address, entry.purpose)])
    else collectByLabel encode label rest addresses ret

/-- `getaddressesbylabel`: the object of addresses carrying the label, each with its purpose. -/
def getaddressesbylabel (w : AddressWallet) (params : List UniValue) :
    Except RPCFailure (List (String × String)) := do
  let label ← labelFromValue (param params 0)
  let ret ← collectByLabel w.encodeDestination label w.addressBook.entries [] []
  if ret.isEmpty then
    throw (.error ⟨RPC_WALLET_INVALID_LABEL_NAME, "No addresses with label " ++ label⟩)
  pure ret

/-- `listlabels`: an empty purpose lists every label. -/
def listlabels (w : AddressWallet) (params : List UniValue) : Except RPCFailure (List String) := do
  let purpose ← if (param params 0).isNull then pure "" else (param params 0).getStr
  pure (w.listAddrBookLabels purpose)

/-! ## No key before the checks -/

/-- The key source fails only with its own two errors. -/
theorem newAddressOf_error {w : AddressWallet} {plan : NewAddressPlan} {e : RPCFailure}
    (h : newAddressOf w plan = .error e) :
    e = .error newKeyFromAccountFailed ∨ ∃ m, e = .error ⟨RPC_WALLET_KEYPOOL_RAN_OUT, m⟩ := by
  cases plan with
  | key hardened f256bit bech32 label outputType =>
    simp only [newAddressOf] at h
    split at h
    · cases h
      exact .inl rfl
    · split_ifs at h
  | destination outputType label =>
    simp only [newAddressOf] at h
    split at h
    · cases h
      exact .inr ⟨_, rfl⟩
    · cases h

/-- Every error of `getnewaddress` other than the key source's own is raised before a key is
asked for: it is the same whatever `NewKeyFromAccount` and `GetNewDestination` answer. -/
theorem getnewaddress_error_before_key (fParticlMode : Bool)
    (getBool : UniValue → Except RPCFailure Bool) (w : AddressWallet) (params : List UniValue)
    {e : RPCFailure} (h : getnewaddress fParticlMode getBool w params = .error e)
    (hkey : e ≠ .error newKeyFromAccountFailed)
    (hpool : ∀ m, e ≠ .error ⟨RPC_WALLET_KEYPOOL_RAN_OUT, m⟩)
    (keys : KeyRequest → Option CPubKey)
    (dests : OutputType → String → Except String CTxDestination) :
    getnewaddress fParticlMode getBool
      { w with newKeyFromAccount := keys, getNewDestination := dests } params = .error e := by
  -- the checks read neither key source
  have hplan : newAddressPlan fParticlMode getBool
      { w with newKeyFromAccount := keys, getNewDestination := dests } params =
      newAddressPlan fParticlMode getBool w params := rfl
  unfold getnewaddress at h ⊢
  rw [hplan]
  cases hp : newAddressPlan fParticlMode getBool w params with
  | error e' => rwa [hp] at h
  | ok plan =>
    rw [hp] at h
    rcases newAddressOf_error h with rfl | ⟨m, rfl⟩
    · exact absurd rfl hkey
    · exact absurd rfl (hpool m)

/-- On a Particl wallet `getrawchangeaddress` never reads its argument: any value, even a type
`getnewaddress` refuses, gives the change key's address. -/
theorem getrawchangeaddress_particl (w : AddressWallet) (hp : w.isParticlWallet = true)
    (params : List UniValue) : getrawchangeaddress w params = getrawchangeaddress w [] := by
  cases hk : w.newKeyFromAccount .change <;>
    simp [getrawchangeaddress, hp, hk, bind, Except.bind, throw, throwThe, MonadExceptOf.throw]

/-! ## The label lookup -/

/-- The entries of `l` that are not change and carry `label`, by address and purpose, in
order. -/
def labelledEntries (encode : CTxDestination → String) (label : String)
    (l : List (CTxDestination × CAddressBookData)) : List (String × String) :=
  (l.filter fun e => !e.2.isChange && e.2.label = label).map fun e => (encode e.1, e.2.purpose)

/-- The entries `getaddressesbylabel` is to list: those of the book that are not change and
carry `label`, in the book's order. -/
def labelledAddresses (w : AddressWallet) (label : String) : List (String × String) :=
  labelledEntries w.encodeDestination label w.addressBook.entries

@[simp] theorem labelledEntries_nil (encode : CTxDestination → String) (label : String) :
    labelledEntries encode label [] = [] := rfl

theorem labelledEntries_cons_change (encode : CTxDestination → String) (label : String)
    {dest : CTxDestination} {entry : CAddressBookData} (l : List (CTxDestination × CAddressBookData))
    (hc : entry.isChange = true) :
    labelledEntries encode label ((dest, entry) :: l) = labelledEntries encode label l := by
  simp [labelledEntries, List.filter_cons, hc]

theorem labelledEntries_cons_other (encode : CTxDestination → String) {label : String}
    {dest : CTxDestination} {entry : CAddressBookData} (l : List (CTxDestination × CAddressBookData))
    (hl : entry.label ≠ label) :
    labelledEntries encode label ((dest, entry) :: l) = labelledEntries encode label l := by
  simp [labelledEntries, List.filter_cons, hl]

theorem labelledEntries_cons_label (encode : CTxDestination → String) {label : String}
    {dest : CTxDestination} {entry : CAddressBookData} (l : List (CTxDestination × CAddressBookData))
    (hc : entry.isChange = false) (hl : entry.label = label) :
    labelledEntries encode label ((dest, entry) :: l) =
      (encode dest, entry.purpose) :: labelledEntries encode label l := by
  simp [labelledEntries, List.filter_cons, hc, hl]

/-- The loop appends the labelled entries of the rest of the book, unless one of their
addresses was met before or repeats, where `CHECK_NONFATAL` stops it. -/
theorem collectByLabel_eq (encode : CTxDestination → String) (label : String)
    (l : List (CTxDestination × CAddressBookData)) (addresses : List String)
    (ret : List (String × String)) :
    collectByLabel encode label l addresses ret =
      if ((labelledEntries encode label l).map Prod.fst).Nodup ∧
          ∀ a ∈ (labelledEntries encode label l).map Prod.fst, a ∉ addresses
      then .ok (ret ++ labelledEntries encode label l) else .error .internalBug := by
  induction l generalizing addresses ret with
  | nil => simp [collectByLabel]
  | cons e rest ih =>
    obtain ⟨dest, entry⟩ := e
    by_cases hc : entry.isChange = true
    · rw [collectByLabel, if_pos hc, ih, labelledEntries_cons_change _ _ _ hc]
    by_cases hl : entry.label = label
    · -- a labelled entry: its address must be new, to the set and to the rest of the book
      have hc' : entry.isChange = false := by simpa using hc
      rw [collectByLabel, if_neg hc, if_pos hl, labelledEntries_cons_label _ _ hc' hl]
      simp only [List.map_cons, List.nodup_cons, List.mem_cons, forall_eq_or_imp]
      by_cases hm : encode dest ∈ addresses
      · simp [hm]
      · rw [if_neg hm, ih]
        simp only [List.mem_cons, not_or, List.append_assoc, List.singleton_append]
        congr 1
        apply propext
        constructor
        · rintro ⟨hn, hall⟩
          exact ⟨⟨fun h => (hall _ h).1 rfl, hn⟩, hm, fun a ha => (hall a ha).2⟩
        · rintro ⟨⟨hn, hnd⟩, -, hall⟩
          exact ⟨hnd, fun a ha => ⟨fun h => hn (h ▸ ha), hall a ha⟩⟩
    · rw [collectByLabel, if_neg hc, if_neg hl, ih, labelledEntries_cons_other _ _ hl]

/-- `getaddressesbylabel` on a label other than `"*"` lists exactly the book's labelled entries
that are not change, in its order, with their purposes, and fails with "No addresses with label"
when there is none; `CHECK_NONFATAL` stops it only when two of them share an address. When
`EncodeDestination` tells the book's destinations apart it never does, as the book holds each
destination once. -/
theorem getaddressesbylabel_eq (w : AddressWallet) (label : String) (hL : label ≠ "*")
    (rest : List UniValue) :
    getaddressesbylabel w (.str label :: rest) =
      (if ((labelledAddresses w label).map Prod.fst).Nodup then
        if labelledAddresses w label = [] then
          .error (.error ⟨RPC_WALLET_INVALID_LABEL_NAME, "No addresses with label " ++ label⟩)
        else .ok (labelledAddresses w label)
      else .error .internalBug) ∧
    ((∀ d ∈ w.addressBook.entries.map Prod.fst, ∀ d' ∈ w.addressBook.entries.map Prod.fst,
        w.encodeDestination d = w.encodeDestination d' → d = d') →
      ((labelledAddresses w label).map Prod.fst).Nodup) := by
  refine ⟨?_, fun hinj => ?_⟩
  · have hcollect := collectByLabel_eq w.encodeDestination label w.addressBook.entries [] []
    simp only [List.not_mem_nil, not_false_eq_true, implies_true, and_true, List.nil_append]
      at hcollect
    rw [labelledAddresses]
    simp only [getaddressesbylabel, labelFromValue, param, List.getD_cons_zero, UniValue.getStr,
      hL, if_false, bind, Except.bind, pure, Except.pure, hcollect]
    split_ifs <;> simp_all [throw, throwThe, MonadExceptOf.throw]
  · -- the labelled destinations are distinct, and the encoding keeps them apart
    have hsub := (@List.filter_sublist _ (fun e => !e.2.isChange && e.2.label = label)
      w.addressBook.entries).map Prod.fst
    have hencoded : (labelledAddresses w label).map Prod.fst =
        ((w.addressBook.entries.filter fun e => !e.2.isChange && e.2.label = label).map
          Prod.fst).map w.encodeDestination := by
      simp [labelledAddresses, labelledEntries]
    rw [hencoded]
    exact (w.addressBook.nodup.sublist hsub).map_on fun d hd d' hd' =>
      hinj d (hsub.subset hd) d' (hsub.subset hd')

/-- An address book with two entries labelled `"rent"`, a change entry and a `"food"` entry. -/
def sampleAddressBook : AddressBook where
  entries := [(.pkHash [1], ⟨false, "rent", "receive"⟩), (.pkHash [2], ⟨true, "", "receive"⟩),
    (.scriptHash [3], ⟨false, "rent", "send"⟩), (.pkHash [4], ⟨false, "food", "send"⟩)]
  nodup := by decide

/-- A Particl wallet holding `sampleAddressBook`, whose encoder names each destination apart. -/
def sampleAddressWallet : AddressWallet where
  isParticlWallet := true
  canGetAddresses _ := true
  hasLegacyScriptPubKeyMan := false
  isLegacy := false
  disablePrivateKeys := false
  hasDefaultAccount := true
  hasMasterKey := true
  m_default_address_type := .LEGACY
  m_default_change_type := none
  newKeyFromAccount _ := some [2, 7]
  getNewDestination _ _ := .error "Error: Keypool ran out, please call keypoolrefill first"
  getNewChangeDestination _ := .error "Error: Keypool ran out, please call keypoolrefill first"
  decodeDestination a := if a = "pa1" then .pkHash [1] else .noDestination
  encodeDestination d :=
    if d = .pkHash [1] then "pa1" else if d = .pkHash [2] then "pa2"
    else if d = .scriptHash [3] then "sa3" else if d = .pkHash [4] then "pa4" else ""
  isMine d := d = .pkHash [1]
  addressBook := sampleAddressBook
  listAddrBookLabels _ := ["food", "rent"]
  unlocked := true
  keyPoolSizeAfterTopUp n := n

/-- The two `"rent"` entries that are not change, in the book's order. -/
theorem getaddressesbylabel_eq_sample :
    "rent" ≠ "*" ∧
      getaddressesbylabel sampleAddressWallet [.str "rent"] =
        .ok [("pa1", "receive"), ("sa3", "send")] ∧
      ((labelledAddresses sampleAddressWallet "rent").map Prod.fst).Nodup := by
  have h := getaddressesbylabel_eq sampleAddressWallet "rent" (by decide) []
  exact ⟨by decide, h.1.trans rfl, h.2 (by decide)⟩

end ParticlCore.Wallet
