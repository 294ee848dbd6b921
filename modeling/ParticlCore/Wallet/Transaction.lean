import ParticlCore.Wallet.FeeRate

/-!
# Wallet — transactions

The transaction shapes the fee bumper reads and rebuilds: outpoints, inputs with their
sequence numbers, outputs with their values, and the BIP125 opt-in test. Hashes are
compared, tested for null and rendered into `mapValue`, never computed with, so a
`uint256` is modelled by its `GetHex()` rendering.

A Particl transaction keeps its outputs in `vpout`, a Bitcoin-format one in `vout`; the
total bump reads only the first (it runs only on Particl wallets) and the rate bump only the
second (it asserts it is not on one), so one output list models both. Outputs are the
standard kind (value and script): Particl's blinded and data outputs are outside the model.
-/

namespace ParticlCore.Wallet

/-- `uint256`, by its hex rendering. -/
structure Uint256 where
  hex : String
  deriving DecidableEq, Repr

namespace Uint256

/-- `uint256::IsNull()`: every byte zero. -/
def isNull (h : Uint256) : Bool := h.hex = String.mk (List.replicate 64 '0')

/-- `uint256::ToString()`, the text `mapValue` stores. -/
def toString (h : Uint256) : String := h.hex

theorem toString_inj {a b : Uint256} : a.toString = b.toString ↔ a = b := by
  cases a; cases b; simp [toString]

end Uint256

/-- `CScript`: the script bytes. -/
abbrev CScript := List UInt8

/-- `COutPoint`: a transaction id and an output index. -/
structure COutPoint where
  hash : Uint256
  n : UInt32
  deriving DecidableEq, Repr

/-- `CTxIn`. `scriptWitness` is the witness stack. -/
structure CTxIn where
  prevout : COutPoint
  scriptSig : CScript
  scriptWitness : List (List UInt8)
  nSequence : UInt32
  deriving DecidableEq, Repr

/-- `CTxOut` (and Particl's `CTxOutStandard`). -/
structure CTxOut where
  nValue : Int
  scriptPubKey : CScript
  deriving DecidableEq, Repr

/-- `CTxOut::SetNull()`: the value `-1` marks an empty coin slot. -/
def CTxOut.null : CTxOut := ⟨-1, []⟩

/-- `CTxOut::IsNull()`. -/
def CTxOut.isNull (o : CTxOut) : Bool := o.nValue = -1

/-- `CTransaction` / `CMutableTransaction`: inputs and outputs in order. -/
structure CTransaction where
  vin : List CTxIn
  vout : List CTxOut
  deriving DecidableEq, Repr

/-- `MAX_BIP125_RBF_SEQUENCE`. -/
def MAX_BIP125_RBF_SEQUENCE : UInt32 := 0xfffffffd

/-- `SignalsOptInRBF` (`util/rbf.cpp`): some input has a sequence number at most
`MAX_BIP125_RBF_SEQUENCE`. -/
def signalsOptInRBF (tx : CTransaction) : Bool :=
  tx.vin.any fun txin => txin.nSequence ≤ MAX_BIP125_RBF_SEQUENCE

/-- `CTransaction::GetValueOut()`. -/
def getValueOut (tx : CTransaction) : Int := (tx.vout.map (·.nValue)).sum

/-- `CTxDestination`: the closed sum of address kinds the wallet extracts from a script. -/
inductive CTxDestination
  | noDestination
  | pkHash (h : List UInt8)
  | scriptHash (h : List UInt8)
  | witnessV0KeyHash (h : List UInt8)
  | witnessV0ScriptHash (h : List UInt8)
  | witnessV1Taproot (h : List UInt8)
  | witnessUnknown (version : Nat) (program : List UInt8)
  deriving DecidableEq, Repr

/-- `CRecipient`: a payee the transaction builder must pay. -/
structure CRecipient where
  scriptPubKey : CScript
  nAmount : Int
  fSubtractFeeFromAmount : Bool
  deriving DecidableEq, Repr

end ParticlCore.Wallet
