import ParticlCore.Qt.SendConfirmationDialog
import ParticlCore.Wallet.Transaction

/-!
# Qt — the send flow of the send coins dialog

A press of the send button (`sendButtonClicked`, `qt/sendcoinsdialog.cpp` lines 631-833) clears
`fNewRecipientAllowed`, unlocks the wallet, and lets `PrepareSendText` (lines 287-555) validate
the entries, prepare the transaction and ask the RPC layer for its fee with a `sendtypeto ...
true` command. It then opens a `SendConfirmationDialog` and runs its `exec`. That is a nested
event loop: until the user answers, the dialog's timer ticks and payment requests arrive through
`pasteEntry`, which `fNewRecipientAllowed` turns away, while every other input is blocked by the
modal dialog. A Send or Create Unsigned answer issues `sendtypeto ... false`, adds each
recipient to the address book, and clears the form when the send succeeded.

The model splits the press at `exec`: `Event.input` runs it up to the confirmation, and
`Event.answer` runs the rest once the user answers. Each event carries what the wallet model,
the RPC layer and the user answer. An RPC command is a constructor carrying the values the
source formats into its text, and a reply is the one field the dialog reads. The dialog's
display texts, the fee section and coin control's other settings are left out.

What the runs keep (`Inv`): an open confirmation has cleared the flag and counts down from
`SEND_CONFIRM_DELAY` with buttons that follow its delay. From it:
* `pasteEntry_confirming`: a payment request that arrives while a confirmation is open changes
  nothing;
* `sends_le_timeouts`: every send waits out its own confirmation's countdown, so over any run
  `SEND_CONFIRM_DELAY` timeouts pass per send.

`invalidPress_drops_payment_requests` follows a press whose entries do not validate:
`PrepareSendText` returns without restoring `fNewRecipientAllowed`, so every payment request is
dropped until the next press.
-/

namespace ParticlCore.Qt

open ParticlCore.Wallet (COutPoint)

/-- `SendCoinsRecipient`, by the fields the send flow reads. -/
structure SendCoinsRecipient where
  address : String
  label : String
  amount : Int
  fSubtractFeeFromAmount : Bool
  narration : String
  m_coldstake : Bool
  stake_address : String
  spend_address : String
  deriving DecidableEq, Repr

/-- The value of an entry `SendCoinsEntry::clear()` has emptied, for a plain or a cold-stake
payment. -/
def SendCoinsRecipient.cleared (coldstake : Bool) : SendCoinsRecipient :=
  ⟨"", "", 0, false, "", coldstake, "", ""⟩

/-- `WalletModel::StatusCode`. -/
inductive StatusCode
  | OK
  | InvalidAmount
  | InvalidAddress
  | AmountExceedsBalance
  | AmountWithFeeExceedsBalance
  | DuplicateAddress
  | TransactionCreationFailed
  | AbsurdFee
  deriving DecidableEq, Repr

/-- The `CClientUIInterface` styles of the dialog's messages. -/
inductive MessageStyle
  | MSG_WARNING
  | MSG_ERROR
  deriving DecidableEq, Repr

/-- A `message(title, text, style)` signal. -/
structure Message where
  title : String
  text : String
  style : MessageStyle
  deriving DecidableEq, Repr

/-- `processSendCoinsReturn`, lines 1037-1076. `msgArg` is the formatted fee, `maxTxFee` the
formatted default maximum fee the absurd-fee text quotes. -/
def processSendCoinsReturn (status : StatusCode) (msgArg maxTxFee : String) : Option Message :=
  let warning (text : String) : Option Message := some ⟨"Send Coins", text, .MSG_WARNING⟩
  match status with
  | .InvalidAddress => warning "The recipient address is not valid. Please recheck."
  | .InvalidAmount => warning "The amount to pay must be larger than 0."
  | .AmountExceedsBalance => warning "The amount exceeds your balance."
  | .AmountWithFeeExceedsBalance =>
    warning ("The total exceeds your balance when the " ++ msgArg ++
      " transaction fee is included.")
  | .DuplicateAddress =>
    warning "Duplicate address found: addresses should only be used once each."
  | .TransactionCreationFailed => some ⟨"Send Coins", "Transaction creation failed!", .MSG_ERROR⟩
  | .AbsurdFee =>
    warning ("A fee higher than " ++ maxTxFee ++ " is considered an absurdly high fee.")
  | .OK => none

/-- The `sendtypeto` command `PrepareSendText` builds, lines 331-408: each recipient with the
script `buildscript` returned for a cold-stake one, and the selected inputs. -/
structure SendCommand where
  outputs : List (SendCoinsRecipient × Option String)
  inputs : List COutPoint
  deriving DecidableEq, Repr

/-- The commands the dialog gives to `tryCallRpc`. -/
inductive RpcCall
  /-- `buildscript` with the `ifcoinstake` recipe, line 349. -/
  | buildscript (addrstake addrspend : String)
  /-- The `sendtypeto` command with " true" (the fee query, line 411) or " false" (the send,
  line 664). -/
  | sendtypeto (command : SendCommand) (testFee : Bool)
  /-- `manageaddressbook newsend` with the address and label, lines 798-804. -/
  | manageaddressbook (address label : String)
  deriving DecidableEq, Repr

/-- The command that sends. -/
def RpcCall.isSend : RpcCall → Bool
  | .sendtypeto _ testFee => !testFee
  | _ => false

/-- What the wallet model, the node and the RPC layer answer while a press runs up to the
confirmation. -/
structure ClickAnswers where
  /-- `model && model->getOptionsModel()`. -/
  hasModel : Bool
  /-- `model->requestUnlock().isValid()`. -/
  unlocked : Bool
  /-- `SendCoinsEntry::validate(model->node())`. -/
  validate : SendCoinsRecipient → Bool
  /-- `model->prepareTransaction(...)`. -/
  prepareStatus : StatusCode
  /-- The formatted fee and default maximum fee the prepare message quotes. -/
  feeText : String
  maxTxFeeText : String
  /-- `model->tryCallRpc(command, rv)`: `none` when it fails, else the script `hex` of `rv`. -/
  tryCallRpc : RpcCall → Option String
  privateKeysDisabled : Bool
  hasExternalSigner : Bool
  enablePSBTControls : Bool

/-- A confirmation being answered: its dialog, and the command the press goes on to send. -/
structure Confirmation where
  dialog : SendConfirmationDialog
  command : SendCommand
  deriving DecidableEq, Repr

/-- `SendCoinsDialog`, by the state the send flow reads and writes. `setSelected` is coin
control's selection, `confirmation` the confirmation whose `exec` runs; `calls`, `messages` and
`coinsSent` are what the dialog has given to `tryCallRpc` and emitted, in order. -/
structure SendCoinsDialog where
  entries : List SendCoinsRecipient
  fNewRecipientAllowed : Bool
  m_current_transaction : Option (List SendCoinsRecipient)
  setSelected : List COutPoint
  confirmation : Option Confirmation
  calls : List RpcCall
  messages : List Message
  coinsSent : List String
  deriving DecidableEq, Repr

namespace SendCoinsDialog

/-- The constructor, lines 72-163: one empty entry, new recipients allowed. -/
def init : SendCoinsDialog :=
  ⟨[.cleared false], true, none, [], none, [], [], []⟩

/-- The sends the dialog has issued. -/
def sends (s : SendCoinsDialog) : Nat := s.calls.countP RpcCall.isSend

/-! ## A press, up to the confirmation -/

/-- Lines 343-373: the recipients' outputs, with a `buildscript` call for each cold-stake one;
`none` as soon as one call fails. Returns the calls made. -/
def scriptOutputs (tryCallRpc : RpcCall → Option String) :
    List SendCoinsRecipient → List RpcCall × Option (List (SendCoinsRecipient × Option String))
  | [] => ([], some [])
  | rcp :: rest =>
    if rcp.m_coldstake then
      let call := RpcCall.buildscript rcp.stake_address rcp.spend_address
      match tryCallRpc call with
      | none => ([call], none)
      | some hex =>
        let r := scriptOutputs tryCallRpc rest
        (call :: r.1, r.2.map ((rcp, some hex) :: ·))
    else
      let r := scriptOutputs tryCallRpc rest
      (r.1, r.2.map ((rcp, none) :: ·))

/-- `PrepareSendText`, lines 287-555: the state it leaves, and the command when it returns
true. -/
def prepareSendText (a : ClickAnswers) (s : SendCoinsDialog) :
    SendCoinsDialog × Option SendCommand :=
  let recipients := s.entries.filter a.validate
  if s.entries.all a.validate = false ∨ recipients = [] then (s, none)
  else
    let s := { s with m_current_transaction := some recipients }
    if a.prepareStatus ≠ .OK then
      ({ s with
          messages := s.messages ++ (processSendCoinsReturn a.prepareStatus a.feeText
            a.maxTxFeeText).toList,
          fNewRecipientAllowed := true }, none)
    else
      let r := scriptOutputs a.tryCallRpc recipients
      let s := { s with calls := s.calls ++ r.1 }
      match r.2 with
      | none => (s, none)
      | some outputs =>
        let command : SendCommand := ⟨outputs, s.setSelected⟩
        let s := { s with calls := s.calls ++ [.sendtypeto command true] }
        if (a.tryCallRpc (.sendtypeto command true)).isSome then (s, some command) else (s, none)

/-- The confirmation a press opens, lines 647-653, once `exec` has started. -/
def confirmationFor (a : ClickAnswers) : SendConfirmationDialog :=
  (SendConfirmationDialog.new SEND_CONFIRM_DELAY (!a.privateKeysDisabled || a.hasExternalSigner)
    a.enablePSBTControls).exec

/-- `sendButtonClicked`, lines 631-653: the press up to the confirmation. -/
def sendButtonClicked (a : ClickAnswers) (s : SendCoinsDialog) : SendCoinsDialog :=
  if a.hasModel = false then s
  else if a.unlocked = false then { s with fNewRecipientAllowed := true }
  else
    match prepareSendText a { s with fNewRecipientAllowed := false } with
    | (s, none) => s
    | (s, some command) => { s with confirmation := some ⟨confirmationFor a, command⟩ }

/-! ## A press, once the confirmation is answered -/

/-- `clear`, lines 835-857 (and `accept`, which only calls it). -/
def clear (s : SendCoinsDialog) : SendCoinsDialog :=
  { s with m_current_transaction := none, setSelected := [], entries := [.cleared false] }

/-- The address-book commands of lines 793-805: one per recipient that is not a cold stake. -/
def addressBookCalls (recipients : List SendCoinsRecipient) : List RpcCall :=
  (recipients.filter (!·.m_coldstake)).map fun rcp => .manageaddressbook rcp.address rcp.label

/-- Lines 655-832: the rest of the press once `exec` returned `retval`. -/
def confirmed (retval : StandardButton) (tryCallRpc : RpcCall → Option String)
    (command : SendCommand) (s : SendCoinsDialog) : SendCoinsDialog :=
  if retval ≠ .Yes ∧ retval ≠ .Save then { s with fNewRecipientAllowed := true }
  else
    let send := RpcCall.sendtypeto command false
    let sendStatus := if (tryCallRpc send).isSome then StatusCode.OK
      else .TransactionCreationFailed
    let s := { s with
      calls := s.calls ++ send :: addressBookCalls (s.m_current_transaction.getD []),
      messages := s.messages ++ (processSendCoinsReturn sendStatus "" "").toList }
    let s := match tryCallRpc send with
      | some hashSent => { clear s with coinsSent := s.coinsSent ++ [hashSent] }
      | none => s
    { s with fNewRecipientAllowed := true, m_current_transaction := none }

/-! ## The entries -/

/-- `addEntry`, lines 869-890: a new, empty entry. -/
def addEntry (entries : List SendCoinsRecipient) : List SendCoinsRecipient :=
  entries ++ [.cleared false]

/-- `useAvailableBalance`, lines 1099-1125, on the entry at `k`, with the balance the wallet
reports for the coin type sent from: what the other entries leave of it, or zero. A positive
amount also checks subtract-fee-from-amount. -/
def useAvailableBalance (available : Int) (k : Nat) (entries : List SendCoinsRecipient) :
    List SendCoinsRecipient :=
  let amount := available - ((entries.eraseIdx k).map (·.amount)).sum
  entries.modify (fun e => if 0 < amount then { e with fSubtractFeeFromAmount := true, amount }
    else { e with amount := 0 }) k

/-- `removeEntry`, lines 928-939: the last entry left is replaced by a new one. -/
def removeEntry (i : Nat) (entries : List SendCoinsRecipient) : List SendCoinsRecipient :=
  if entries.length = 1 then [.cleared false] else entries.eraseIdx i

section Entries

-- `SendCoinsEntry::isClear()`, whose code is not under src/.
variable (isClear : SendCoinsRecipient → Bool)

/-- `addEntryCS`, lines 892-920: a new cold-stake entry, in place of the only entry if that one
is a clear plain entry. -/
def addEntryCS (entries : List SendCoinsRecipient) : List SendCoinsRecipient :=
  (match entries with
    | [first] => if isClear first && !first.m_coldstake then [] else [first]
    | entries => entries) ++ [.cleared true]

/-- The entry `setAddress` and `pasteEntry` fill, lines 959-970 and 982-993: the only entry if it
is still clear, else a new one `addEntry` appends; `fill` rewrites it. -/
def fillEntry (fill : SendCoinsRecipient → SendCoinsRecipient) :
    List SendCoinsRecipient → List SendCoinsRecipient
  | [first] => if isClear first then [fill first] else [first, fill (.cleared false)]
  | entries => entries ++ [fill (.cleared false)]

/-- `setAddress`, lines 957-975. -/
def setAddress (address : String) (s : SendCoinsDialog) : SendCoinsDialog :=
  { s with entries := fillEntry isClear (fun e => { e with address := address }) s.entries }

/-- `pasteEntry`, lines 977-999, and `handlePaymentRequest`, which only calls it. -/
def pasteEntry (rv : SendCoinsRecipient) (s : SendCoinsDialog) : SendCoinsDialog :=
  if s.fNewRecipientAllowed then { s with entries := fillEntry isClear (fun _ => rv) s.entries }
  else s

end Entries

end SendCoinsDialog

/-! ## Runs -/

/-- What the user does in the dialog. -/
inductive Input
  | sendButtonClicked (a : ClickAnswers)
  | setAddress (address : String)
  | addEntry
  | addEntryCS
  | removeEntry (i : Nat)
  | clear
  /-- The entry at `k` asks for the available balance; `available` is the wallet's answer. -/
  | useAvailableBalance (k : Nat) (available : Int)

/-- What happens to the dialog: a user input, which the modal confirmation blocks; a timeout of
the confirmation's timer; the user's answer to the confirmation, with the RPC layer's answers to
the send; a payment request, which nothing blocks. -/
inductive Event
  | input (i : Input)
  | timeout
  | answer (retval : StandardButton) (tryCallRpc : RpcCall → Option String)
  | pasteEntry (rv : SendCoinsRecipient)

namespace Event

def isPress : Event → Bool
  | .input (.sendButtonClicked _) => true
  | _ => false

def isPaste : Event → Bool
  | .pasteEntry _ => true
  | _ => false

def isTimeout : Event → Bool
  | .timeout => true
  | _ => false

end Event

namespace SendCoinsDialog

section Machine

variable (isClear : SendCoinsRecipient → Bool)

/-- What a user input does. -/
def input (s : SendCoinsDialog) : Input → SendCoinsDialog
  | .sendButtonClicked a => sendButtonClicked a s
  | .setAddress address => setAddress isClear address s
  | .addEntry => { s with entries := addEntry s.entries }
  | .addEntryCS => { s with entries := addEntryCS isClear s.entries }
  | .removeEntry i => { s with entries := removeEntry i s.entries }
  | .clear => clear s
  | .useAvailableBalance k available =>
    { s with entries := useAvailableBalance available k s.entries }

/-- One event. An answer the confirmation's buttons do not allow changes nothing. -/
def step (s : SendCoinsDialog) : Event → SendCoinsDialog
  | .input i => if s.confirmation.isSome then s else input isClear s i
  | .timeout =>
    match s.confirmation with
    | some c => { s with confirmation := some { c with dialog := c.dialog.tick } }
    | none => s
  | .answer retval tryCallRpc =>
    match s.confirmation with
    | some c =>
      if c.dialog.clickable retval then
        confirmed retval tryCallRpc c.command { s with confirmation := none }
      else s
    | none => s
  | .pasteEntry rv => pasteEntry isClear rv s

/-- A run of events. -/
def run (s : SendCoinsDialog) (evs : List Event) : SendCoinsDialog := evs.foldl (step isClear) s

@[simp] theorem run_nil (s : SendCoinsDialog) : run isClear s [] = s := rfl

@[simp] theorem run_cons (s : SendCoinsDialog) (ev : Event) (evs : List Event) :
    run isClear s (ev :: evs) = run isClear (step isClear s ev) evs := rfl

/-! ## What one step can do -/

theorem countP_scriptOutputs (tryCallRpc : RpcCall → Option String)
    (rs : List SendCoinsRecipient) : (scriptOutputs tryCallRpc rs).1.countP RpcCall.isSend = 0 := by
  induction rs with
  | nil => rfl
  | cons rcp rest ih =>
    dsimp only [scriptOutputs]
    split
    · split
      · rfl
      · rw [List.countP_cons, ih]
        rfl
    · exact ih

theorem countP_addressBookCalls (rs : List SendCoinsRecipient) :
    (addressBookCalls rs).countP RpcCall.isSend = 0 := by
  rw [addressBookCalls, List.countP_map]
  exact List.countP_eq_zero.mpr fun _ _ => by simp [RpcCall.isSend]

/-- `PrepareSendText` opens no confirmation, sends nothing, and touches the flag only on a path
that returns false. -/
theorem prepareSendText_frame (a : ClickAnswers) (s : SendCoinsDialog) :
    (prepareSendText a s).1.confirmation = s.confirmation ∧
      (prepareSendText a s).1.sends = s.sends ∧
      ((prepareSendText a s).2.isSome →
        (prepareSendText a s).1.fNewRecipientAllowed = s.fNewRecipientAllowed) := by
  have hr := countP_scriptOutputs a.tryCallRpc (s.entries.filter a.validate)
  dsimp only [prepareSendText]
  split
  · exact ⟨rfl, rfl, nofun⟩
  split
  · exact ⟨rfl, by simp [sends], nofun⟩
  split
  · exact ⟨rfl, by simp [sends, hr], nofun⟩
  · split
    · exact ⟨rfl, by simp [sends, hr, RpcCall.isSend], fun _ => rfl⟩
    · exact ⟨rfl, by simp [sends, hr, RpcCall.isSend], nofun⟩

/-- The confirmation a press opens starts its countdown at `SEND_CONFIRM_DELAY`. -/
theorem confirmationFor_secDelay (a : ClickAnswers) :
    (confirmationFor a).secDelay = SEND_CONFIRM_DELAY := by
  simp [confirmationFor, SendConfirmationDialog.exec, SendConfirmationDialog.new]

/-- A press, up to the confirmation, sends nothing; a confirmation it opens has cleared the flag
and is a fresh one. -/
theorem sendButtonClicked_spec (a : ClickAnswers) (s : SendCoinsDialog)
    (hc : s.confirmation = none) :
    (sendButtonClicked a s).sends = s.sends ∧
      ∀ c, (sendButtonClicked a s).confirmation = some c →
        (sendButtonClicked a s).fNewRecipientAllowed = false ∧ c.dialog = confirmationFor a := by
  unfold sendButtonClicked
  split
  · exact ⟨rfl, by simp [hc]⟩
  split
  · exact ⟨rfl, by simp [hc]⟩
  obtain ⟨hconf, hsends, hflag⟩ := prepareSendText_frame a { s with fNewRecipientAllowed := false }
  split
  · rename_i p heq
    rw [heq] at hconf hsends
    exact ⟨hsends, by simp_all⟩
  · rename_i p command heq
    rw [heq] at hconf hsends hflag
    refine ⟨hsends, fun c hc' => ?_⟩
    cases hc'
    exact ⟨hflag rfl, rfl⟩

/-- The rest of a press restores the flag, leaves the confirmation as it finds it, and issues the
send and the address-book commands exactly when the answer was Send or Create Unsigned. -/
theorem confirmed_frame (retval : StandardButton) (tryCallRpc : RpcCall → Option String)
    (command : SendCommand) (s : SendCoinsDialog) :
    (confirmed retval tryCallRpc command s).confirmation = s.confirmation ∧
      (confirmed retval tryCallRpc command s).fNewRecipientAllowed = true ∧
      (confirmed retval tryCallRpc command s).calls =
        if retval = .Yes ∨ retval = .Save then
          s.calls ++ .sendtypeto command false :: addressBookCalls (s.m_current_transaction.getD [])
        else s.calls := by
  dsimp only [confirmed]
  split
  · rename_i h
    exact ⟨rfl, rfl, by rw [if_neg (by tauto)]⟩
  · rename_i h
    rw [if_pos (show retval = .Yes ∨ retval = .Save by tauto)]
    cases tryCallRpc (.sendtypeto command false) <;> exact ⟨rfl, rfl, rfl⟩

theorem sends_confirmed (retval : StandardButton) (tryCallRpc : RpcCall → Option String)
    (command : SendCommand) (s : SendCoinsDialog) :
    (confirmed retval tryCallRpc command s).sends =
      s.sends + if retval = .Yes ∨ retval = .Save then 1 else 0 := by
  rw [sends, (confirmed_frame retval tryCallRpc command s).2.2]
  split <;> simp [sends, countP_addressBookCalls, RpcCall.isSend]

/-- Every input but a press changes only the entries, the selection and the prepared
transaction. -/
theorem input_frame (s : SendCoinsDialog) (i : Input) (hi : (Event.input i).isPress = false) :
    (input isClear s i).confirmation = s.confirmation ∧
      (input isClear s i).fNewRecipientAllowed = s.fNewRecipientAllowed ∧
      (input isClear s i).calls = s.calls := by
  cases i <;> first | exact ⟨rfl, rfl, rfl⟩ | cases hi

theorem isPress_input {i : Input} (h : (Event.input i).isPress = true) :
    ∃ a, i = .sendButtonClicked a := by
  cases i <;> simp_all [Event.isPress]

theorem pasteEntry_frame (rv : SendCoinsRecipient) (s : SendCoinsDialog) :
    (pasteEntry isClear rv s).confirmation = s.confirmation ∧
      (pasteEntry isClear rv s).fNewRecipientAllowed = s.fNewRecipientAllowed ∧
      (pasteEntry isClear rv s).calls = s.calls := by
  unfold pasteEntry; split <;> exact ⟨rfl, rfl, rfl⟩

theorem pasteEntry_of_not_allowed (rv : SendCoinsRecipient) (s : SendCoinsDialog)
    (h : s.fNewRecipientAllowed = false) : pasteEntry isClear rv s = s := by
  simp [pasteEntry, h]

/-! ## The invariant -/

/-- What every state a run reaches keeps: an open confirmation has cleared the flag, and its
buttons follow a delay that has only counted down from `SEND_CONFIRM_DELAY`. -/
def Inv (s : SendCoinsDialog) : Prop :=
  ∀ c, s.confirmation = some c →
    s.fNewRecipientAllowed = false ∧ c.dialog.Refreshed ∧ c.dialog.secDelay ≤ SEND_CONFIRM_DELAY

theorem inv_init : Inv init := fun _ h => nomatch h

theorem Inv.step {s : SendCoinsDialog} (h : Inv s) (ev : Event) :
    Inv (SendCoinsDialog.step isClear s ev) := by
  cases ev with
  | input i =>
    simp only [SendCoinsDialog.step]
    split
    · exact h
    · rename_i hn
      have hc : s.confirmation = none := Option.not_isSome_iff_eq_none.mp hn
      intro c hc'
      cases hi : (Event.input i).isPress
      · rw [(input_frame isClear s i hi).1, hc] at hc'
        cases hc'
      · obtain ⟨a, rfl⟩ := isPress_input hi
        obtain ⟨hf, hd⟩ := (sendButtonClicked_spec a s hc).2 c hc'
        rw [hd]
        exact ⟨hf, SendConfirmationDialog.exec_refreshed _, (confirmationFor_secDelay a).le⟩
  | timeout =>
    simp only [SendCoinsDialog.step]
    split
    · rename_i c hc
      obtain ⟨hf, hr, hd⟩ := h c hc
      obtain ⟨hr', hd', -⟩ := hr.tick
      intro c' hc'
      cases hc'
      exact ⟨hf, hr', hd'.trans hd⟩
    · exact h
  | answer retval tryCallRpc =>
    simp only [SendCoinsDialog.step]
    split
    · split
      · intro c' hc'
        simp [(confirmed_frame retval tryCallRpc _ _).1] at hc'
      · exact h
    · exact h
  | pasteEntry rv =>
    intro c hc
    obtain ⟨h1, h2, -⟩ := pasteEntry_frame isClear rv s
    rw [SendCoinsDialog.step, h1] at hc
    rw [SendCoinsDialog.step, h2]
    exact h c hc

theorem Inv.run {s : SendCoinsDialog} (h : Inv s) (evs : List Event) :
    Inv (run isClear s evs) := by
  induction evs generalizing s with
  | nil => exact h
  | cons ev evs ih => exact ih (h.step isClear ev)

/-! ## Samples -/

/-- A payment of 0.001 PART to one address, with a label. -/
def sampleRecipient : SendCoinsRecipient := ⟨"pexample", "rent", 100000, false, "", false, "", ""⟩

/-- An entry is clear while no address has been typed into it. -/
def addressIsClear (r : SendCoinsRecipient) : Bool := r.address.isEmpty

/-- A wallet that validates every entry with an address and prepares the transaction, with an
RPC layer that accepts every command. -/
def sampleAnswers : ClickAnswers where
  hasModel := true
  unlocked := true
  validate := fun r => !r.address.isEmpty
  prepareStatus := .OK
  feeText := "0.0002 PART"
  maxTxFeeText := "0.1 PART"
  tryCallRpc := fun _ => some "txid"
  privateKeysDisabled := false
  hasExternalSigner := false
  enablePSBTControls := false

/-- A payment request fills the empty entry, and the send button is pressed. -/
def sampleRun (a : ClickAnswers) : List Event :=
  [.pasteEntry sampleRecipient, .input (.sendButtonClicked a)]

/-- A payment request that arrives while a confirmation is open changes nothing. -/
theorem pasteEntry_confirming (evs : List Event) (rv : SendCoinsRecipient)
    (hc : (run isClear init evs).confirmation.isSome) :
    SendCoinsDialog.step isClear (run isClear init evs) (.pasteEntry rv) = run isClear init evs := by
  obtain ⟨c, hc⟩ := Option.isSome_iff_exists.mp hc
  exact pasteEntry_of_not_allowed isClear rv _ ((inv_init.run isClear evs) c hc).1

theorem pasteEntry_confirming_sample :
    (run addressIsClear init (sampleRun sampleAnswers)).confirmation.isSome ∧
      SendCoinsDialog.step addressIsClear (run addressIsClear init (sampleRun sampleAnswers))
          (.pasteEntry sampleRecipient) =
        run addressIsClear init (sampleRun sampleAnswers) :=
  ⟨rfl, pasteEntry_confirming addressIsClear (sampleRun sampleAnswers) sampleRecipient rfl⟩

/-! ## Every send waits out its countdown -/

/-- The timeouts the open confirmation has counted. -/
def elapsed (s : SendCoinsDialog) : Int :=
  match s.confirmation with
  | some c => SEND_CONFIRM_DELAY - c.dialog.secDelay
  | none => 0

theorem elapsed_nonneg {s : SendCoinsDialog} (h : Inv s) : 0 ≤ elapsed s := by
  unfold elapsed
  split
  · rename_i c hc
    have := (h c hc).2.2
    omega
  · exact le_rfl

/-- One event: a send closes a confirmation that has counted `SEND_CONFIRM_DELAY` timeouts, and
only a timeout counts one. -/
theorem budget_step {s : SendCoinsDialog} (h : Inv s) (ev : Event) :
    SEND_CONFIRM_DELAY * (SendCoinsDialog.step isClear s ev).sends +
        elapsed (SendCoinsDialog.step isClear s ev) ≤
      SEND_CONFIRM_DELAY * s.sends + elapsed s + if ev.isTimeout then 1 else 0 := by
  cases ev with
  | input i =>
    simp only [SendCoinsDialog.step, Event.isTimeout]
    split
    · simp
    · rename_i hn
      have hc : s.confirmation = none := Option.not_isSome_iff_eq_none.mp hn
      have he : elapsed s = 0 := by simp [elapsed, hc]
      cases hi : (Event.input i).isPress
      · obtain ⟨h1, -, h3⟩ := input_frame isClear s i hi
        simp only [sends, elapsed, h1, h3]
        omega
      · obtain ⟨a, rfl⟩ := isPress_input hi
        obtain ⟨hs, hconf⟩ := sendButtonClicked_spec a s hc
        have he' : elapsed (sendButtonClicked a s) = 0 := by
          unfold elapsed
          split
          · rename_i c hc'
            rw [(hconf c hc').2, confirmationFor_secDelay]
            simp
          · rfl
        simp only [input, hs, he, he']
        omega
  | timeout =>
    simp only [SendCoinsDialog.step, Event.isTimeout]
    split
    · rename_i c hc
      have hd := (h c hc).2.1.tick.2.2
      simp only [elapsed, hc, sends]
      rw [if_pos trivial]
      omega
    · simp
  | answer retval tryCallRpc =>
    simp only [SendCoinsDialog.step, Event.isTimeout]
    split
    · rename_i c hc
      split
      · rename_i hcl
        have hd := (h c hc).2.2
        have he : elapsed (confirmed retval tryCallRpc c.command { s with confirmation := none }) = 0 := by
          simp [elapsed, (confirmed_frame retval tryCallRpc _ _).1]
        have hs : ({ s with confirmation := none } : SendCoinsDialog).sends = s.sends := rfl
        have hel : elapsed s = SEND_CONFIRM_DELAY - c.dialog.secDelay := by rw [elapsed, hc]
        rw [he, sends_confirmed, hs, hel, if_neg Bool.false_ne_true]
        simp only [SEND_CONFIRM_DELAY] at hd ⊢
        split
        · have := (h c hc).2.1.secDelay_nonpos hcl ‹_›
          push_cast
          omega
        · omega
      · simp
    · simp
  | pasteEntry rv =>
    obtain ⟨h1, -, h3⟩ := pasteEntry_frame isClear rv s
    simp only [SendCoinsDialog.step, Event.isTimeout, sends, elapsed, h1, h3]
    omega

theorem budget_run {s : SendCoinsDialog} (h : Inv s) (evs : List Event) :
    SEND_CONFIRM_DELAY * (run isClear s evs).sends + elapsed (run isClear s evs) ≤
      SEND_CONFIRM_DELAY * s.sends + elapsed s + evs.countP Event.isTimeout := by
  induction evs generalizing s with
  | nil => simp
  | cons ev evs ih =>
    have h1 := budget_step isClear h ev
    have h2 := ih (h.step isClear ev)
    rw [run_cons, List.countP_cons]
    by_cases ht : ev.isTimeout <;>
      simp only [ht, eq_self_iff_true, if_true, Bool.false_eq_true, if_false] at h1 ⊢ <;>
      push_cast <;> omega

/-- Over any run from a fresh dialog, each send has waited out its own confirmation's countdown:
`SEND_CONFIRM_DELAY` timeouts of the confirmation timer pass per send. -/
theorem sends_le_timeouts (evs : List Event) :
    SEND_CONFIRM_DELAY * (run isClear init evs).sends ≤ evs.countP Event.isTimeout := by
  have hb := budget_run isClear inv_init evs
  have he := elapsed_nonneg (inv_init.run isClear evs)
  have h0 : SEND_CONFIRM_DELAY * (init.sends : Int) + elapsed init = 0 := rfl
  omega

/-! ## A press that stops in `PrepareSendText` -/

/-- With the flag cleared and no confirmation open, no event but a press lets a payment request
in. -/
theorem quiet_step {s : SendCoinsDialog} (hf : s.fNewRecipientAllowed = false)
    (hc : s.confirmation = none) (ev : Event) (hp : ev.isPress = false) :
    (SendCoinsDialog.step isClear s ev).fNewRecipientAllowed = false ∧
      (SendCoinsDialog.step isClear s ev).confirmation = none ∧
      (ev.isPaste → SendCoinsDialog.step isClear s ev = s) := by
  cases ev with
  | input i =>
    obtain ⟨h1, h2, -⟩ := input_frame isClear s i hp
    simp only [SendCoinsDialog.step, hc, Option.isSome_none, Bool.false_eq_true, if_false]
    exact ⟨h2.trans hf, h1.trans hc, nofun⟩
  | timeout => simp [SendCoinsDialog.step, hc, hf]
  | answer => simp [SendCoinsDialog.step, hc, hf]
  | pasteEntry rv =>
    rw [SendCoinsDialog.step, pasteEntry_of_not_allowed isClear rv s hf]
    exact ⟨hf, hc, fun _ => rfl⟩

theorem quiet_run {s : SendCoinsDialog} (hf : s.fNewRecipientAllowed = false)
    (hc : s.confirmation = none) (evs : List Event) (hp : ∀ ev ∈ evs, ev.isPress = false) :
    run isClear s evs = run isClear s (evs.filter (!·.isPaste)) := by
  induction evs generalizing s with
  | nil => rfl
  | cons ev evs ih =>
    obtain ⟨hf', hc', hpaste⟩ := quiet_step isClear hf hc ev (hp ev (.head _))
    have hp' : ∀ e ∈ evs, e.isPress = false := fun e he => hp e (.tail _ he)
    by_cases hq : ev.isPaste
    · rw [List.filter_cons_of_neg (by simp [hq]), run_cons, hpaste hq]
      exact ih hf hc hp'
    · rw [List.filter_cons_of_pos (by simpa using hq), run_cons, run_cons]
      exact ih hf' hc' hp'

/-- A press whose entries do not all validate returns from `PrepareSendText` with
`fNewRecipientAllowed` still cleared and no message: the state is the one before, with the flag
cleared. From then on, until the next press, every payment request is dropped: a run without
presses ends where the same run without its payment requests ends. -/
theorem invalidPress_drops_payment_requests (s : SendCoinsDialog) (a : ClickAnswers)
    (hm : a.hasModel) (hu : a.unlocked) (hc : s.confirmation = none)
    (hv : s.entries.all a.validate = false) (evs : List Event)
    (hp : ∀ ev ∈ evs, ev.isPress = false) :
    SendCoinsDialog.step isClear s (.input (.sendButtonClicked a)) =
        { s with fNewRecipientAllowed := false } ∧
      run isClear (SendCoinsDialog.step isClear s (.input (.sendButtonClicked a))) evs =
        run isClear (SendCoinsDialog.step isClear s (.input (.sendButtonClicked a)))
          (evs.filter (!·.isPaste)) := by
  have hprep : prepareSendText a { s with fNewRecipientAllowed := false } =
      ({ s with fNewRecipientAllowed := false }, none) := by
    simp [prepareSendText, hv]
  have hpress : SendCoinsDialog.step isClear s (.input (.sendButtonClicked a)) =
      { s with fNewRecipientAllowed := false } := by
    rw [SendCoinsDialog.step, if_neg (by simp [hc]), input, sendButtonClicked,
      if_neg (by simp [hm]), if_neg (by simp [hu]), hprep]
  rw [hpress]
  exact ⟨rfl, @quiet_run isClear { s with fNewRecipientAllowed := false } rfl hc evs hp⟩

/-- The empty entry does not validate: after the press, a payment request is dropped. -/
theorem invalidPress_drops_payment_requests_sample :
    init.entries.all sampleAnswers.validate = false ∧
      run addressIsClear
          (SendCoinsDialog.step addressIsClear init (.input (.sendButtonClicked sampleAnswers)))
          [.pasteEntry sampleRecipient] =
        { init with fNewRecipientAllowed := false } := by
  obtain ⟨h1, h2⟩ := invalidPress_drops_payment_requests addressIsClear init sampleAnswers rfl rfl
    rfl rfl [.pasteEntry sampleRecipient] (by decide)
  rw [h2, h1]
  exact ⟨rfl, rfl⟩

end Machine

end SendCoinsDialog

end ParticlCore.Qt
