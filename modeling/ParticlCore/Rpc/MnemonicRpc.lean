import ParticlCore.Rpc.Mnemonic
import Mathlib.Data.String.Basic

/-!
# Rpc — the branches of the mnemonic RPC

What `mnemonicrpc` (`rpc/mnemonic.cpp`, lines 72-255) does once the mode is chosen. The branches
read their arguments, call `key/mnemonic`, `CExtKey` and the random source, and put what these
answer into the result object. None of that library is under `src/`: `MnemonicLib` carries its
answers, so every result below holds whatever it answers.

* `new` draws entropy, writes it as words and derives a master key from the words and the
  password, for at most `MAX_DERIVE_TRIES` tries (`deriveTries`); the first valid key ends the
  loop, and when there is none the loop ends with the last try's words and key.
* `decode` derives the key from given words and password and refuses an invalid one.

`deriveTries_eq_ok` says which try the loop ends with, and `newMnemonic_ok` that `new` returns
whenever `Encode` and `ToSeed` do, however many keys are invalid.

`newMnemonic_decode` puts the two together: `decode`, given the words `new` returned with the
same password and `bip44` flag, gives back `new`'s master key, unless every try of `new` made
an invalid key. Then `new` still returns that key, and `decode` refuses its words with
"Invalid key.".
-/

namespace ParticlCore.Rpc

/-- `CChainParams::Base58Type` of the extended secret keys the handler prints. -/
inductive Base58Type
  | EXT_SECRET_KEY
  | EXT_SECRET_KEY_BTC
  deriving DecidableEq, Repr

/-- A `CExtKey`, by its bytes. -/
abbrev CExtKey := List UInt8

/-- The code `mnemonicrpc` calls that is not under `src/`: `key/mnemonic`, `CExtKey`,
`GetStrongRandBytes2`, `ParseInt32` and the chain parameters, each by the answers it gives. -/
structure MnemonicLib where
  /-- `mnemonic::WLL_ENGLISH`. -/
  WLL_ENGLISH : Int
  /-- `mnemonic::WLL_MAX`. -/
  WLL_MAX : Nat
  /-- `MAX_DERIVE_TRIES`. -/
  MAX_DERIVE_TRIES : Nat
  /-- `BIP44_PURPOSE`. -/
  BIP44_PURPOSE : UInt32
  /-- `Params().BIP44ID()`. -/
  BIP44ID : UInt32
  /-- `mnemonic::GetLanguageOffset(s)`: the language, or the text of what it throws. -/
  getLanguageOffset : String → Except String Int
  /-- `ParseInt32(s, &n)`. -/
  parseInt32 : String → Option Int
  /-- The `n` bytes `GetStrongRandBytes2` writes on try `i`. -/
  strongRandBytes : Nat → Nat → List UInt8
  /-- `mnemonic::Encode(nLanguage, vEntropy, sMnemonic, sError)`: the words, or `sError`. -/
  encode : Int → List UInt8 → Except String String
  /-- `mnemonic::Decode(nLanguage, sMnemonic, vEntropy, sError)` from `nLanguage = -1`: the
  language it finds and the entropy, or `sError`. -/
  decode : String → Except String (Int × List UInt8)
  /-- `mnemonic::ToSeed(sMnemonic, sPassword, vSeed)`: the seed, or `none` on a non-zero
  return. -/
  toSeed : String → String → Option (List UInt8)
  /-- `CExtKey::SetSeed(seed)`. -/
  setSeed : List UInt8 → CExtKey
  /-- `CExtKey::IsValid()`. -/
  isValid : CExtKey → Bool
  /-- A `CExtKey` as its default constructor leaves it. -/
  emptyKey : CExtKey
  /-- `CExtKey::Derive(out, n)`: the child, or `none` when it returns false. -/
  derive : CExtKey → UInt32 → Option CExtKey
  /-- `CExtKey58::SetKey(CExtKeyPair(key), type)`, then `ToString()`. -/
  toBase58 : CExtKey → Base58Type → String
  /-- `mnemonic::GetLanguage(nLanguage)`. -/
  getLanguage : Int → String
  /-- `mnemonic::AddChecksum(-1, sMnemonicIn, sMnemonicOut, sError)`: the output, or `sError`. -/
  addChecksum : String → Except String String
  /-- The words `mnemonic::GetWord(nLanguage, n, sWord, sError)` gives for `n = 0, 1, ...`
  until its first non-zero return. -/
  wordList : Int → List String
  /-- `mnemonic::HaveLanguage(k)`. -/
  haveLanguage : Nat → Bool
  /-- `mnemonic::mnLanguagesTag[k]`. -/
  mnLanguagesTag : Nat → String
  /-- `mnemonic::mnLanguagesDesc[k]`. -/
  mnLanguagesDesc : Nat → String

/-- The object `mnemonicrpc` returns, by branch, with the keys it pushes in their order. -/
inductive MnemonicResult
  /-- `"mnemonic"`, `"master"`. -/
  | new (mnemonic master : String)
  /-- `"master"`, `"derived"` (with `bip44` only), `"language"`. -/
  | decode (master : String) (derived : Option String) (language : String)
  /-- `"result"`. -/
  | addchecksum (result : String)
  /-- `"words"`, `"num_words"`. -/
  | dumpwords (words : List String) (num_words : Nat)
  /-- One key per enabled language: its tag, with its description. -/
  | listlanguages (languages : List (String × String))
  deriving DecidableEq, Repr

/-- The bytes of a string argument: its UTF-8 encoding. -/
def utf8 (s : String) : StdString := s.toUTF8.data.toList

/-- Lines 57-70 on the arguments as given: the first, read as a string, chooses the branch. -/
def modeParam (params : List UniValue) : Except RPCFailure Mode := do
  let args ← match params with
    | [] => pure []
    | p :: _ => (fun s => [utf8 s]) <$> p.getStr
  (mnemonicMode args).mapError .error

/-- `mnemonic::GetLanguageOffset(params[i].get_str())`. -/
def languageParam (lib : MnemonicLib) (value : UniValue) : Except RPCFailure Int := do
  match lib.getLanguageOffset (← value.getStr) with
  | .ok nLanguage => pure nLanguage
  | .error what => throw (.runtimeError what)

/-! ## `new` -/

/-- The arguments of `new` once read. -/
structure NewArgs where
  sPassword : String
  nLanguage : Int
  nBytesEntropy : Int
  fBip44 : Bool
  deriving DecidableEq, Repr

/-- Lines 75-101: the arguments of `new` read and checked, with their defaults: a blank
password, English, 32 bytes of entropy and `bip44`. -/
def newArgs (lib : MnemonicLib) (getBool : UniValue → Except RPCFailure Bool)
    (params : List UniValue) : Except RPCFailure NewArgs := do
  let sPassword ← if params.length > 1 then (param params 1).getStr else pure ""
  let nLanguage ← if params.length > 2 then languageParam lib (param params 2)
    else pure lib.WLL_ENGLISH
  let nBytesEntropy ← if params.length > 3 then do
      let some n := lib.parseInt32 (← (param params 3).getStr)
        | throw (.error ⟨RPC_INVALID_PARAMETER, "Invalid num bytes entropy"⟩)
      if n < 16 ∨ n > 64 then
        throw (.error ⟨RPC_INVALID_PARAMETER, "Num bytes entropy out of range [16,64]."⟩)
      pure n
    else pure 32
  let fBip44 ← if params.length > 4 then getBool (param params 4) else pure true
  if params.length > 5 then throw (.error ⟨RPC_INVALID_PARAMETER, "Too many parameters"⟩)
  pure ⟨sPassword, nLanguage, nBytesEntropy, fBip44⟩

/-- One try of the loop (lines 104-113): try `i`'s entropy written as words, and the key
set from the seed of the words and the password. -/
def deriveTry (lib : MnemonicLib) (nLanguage : Int) (nBytesEntropy : Nat) (sPassword : String)
    (i : Nat) : Except RPCFailure (String × CExtKey) :=
  match lib.encode nLanguage (lib.strongRandBytes i nBytesEntropy) with
  | .error sError =>
    .error (.error ⟨RPC_INTERNAL_ERROR, "mnemonic::Encode failed " ++ cString sError ++ "."⟩)
  | .ok sMnemonic =>
    match lib.toSeed sMnemonic sPassword with
    | none => .error (.error ⟨RPC_INTERNAL_ERROR, "mnemonic::ToSeed failed."⟩)
    | some vSeed => .ok (sMnemonic, lib.setSeed vSeed)

/-- Lines 103-118: `tries` more tries from try `i` on; a valid key breaks the loop, an invalid
one continues it. `last` holds the words and key of the try before, which the loop ends with
when no try is left. -/
def deriveTries (lib : MnemonicLib) (nLanguage : Int) (nBytesEntropy : Nat) (sPassword : String) :
    Nat → Nat → String × CExtKey → Except RPCFailure (String × CExtKey)
  | 0, _, last => .ok last
  | tries + 1, i, _ => do
    let (sMnemonic, ekMaster) ← deriveTry lib nLanguage nBytesEntropy sPassword i
    if lib.isValid ekMaster then pure (sMnemonic, ekMaster)
    else deriveTries lib nLanguage nBytesEntropy sPassword tries (i + 1) (sMnemonic, ekMaster)

/-- Lines 102-132: the loop from empty words and a default key, and the object made of what it
ends with. -/
def newMnemonic (lib : MnemonicLib) (a : NewArgs) : Except RPCFailure MnemonicResult := do
  let (sMnemonic, ekMaster) ← deriveTries lib a.nLanguage a.nBytesEntropy.toNat a.sPassword
    lib.MAX_DERIVE_TRIES 0 ("", lib.emptyKey)
  if a.fBip44 then pure (.new sMnemonic (lib.toBase58 ekMaster .EXT_SECRET_KEY_BTC))
  else pure (.new sMnemonic (lib.toBase58 ekMaster .EXT_SECRET_KEY))

/-- The `new` branch. -/
def mnemonicNew (lib : MnemonicLib) (getBool : UniValue → Except RPCFailure Bool)
    (params : List UniValue) : Except RPCFailure MnemonicResult :=
  newArgs lib getBool params >>= newMnemonic lib

/-! ## `decode`, `addchecksum`, `dumpwords`, `listlanguages` -/

/-- `JSONRPCError(RPC_INVALID_PARAMETER, "Invalid key.")`. -/
def invalidKey : JSONRPCError := ⟨RPC_INVALID_PARAMETER, "Invalid key."⟩

/-- Lines 164-203: the words checked, the master key set from their seed with the password, and
with `bip44` the key at `BIP44_PURPOSE / BIP44ID` below it. -/
def decodeMnemonic (lib : MnemonicLib) (sPassword sMnemonic : String) (fBip44 : Bool) :
    Except RPCFailure MnemonicResult := do
  let nLanguage ← match lib.decode sMnemonic with
    | .ok (nLanguage, _) => pure nLanguage
    | .error sError =>
      throw (.error ⟨RPC_INTERNAL_ERROR, "mnemonic::Decode failed " ++ cString sError ++ "."⟩)
  let some vSeed := lib.toSeed sMnemonic sPassword
    | throw (.error ⟨RPC_INTERNAL_ERROR, "mnemonic::ToSeed failed."⟩)
  let ekMaster := lib.setSeed vSeed
  if !lib.isValid ekMaster then throw (.error invalidKey)
  if fBip44 then
    let some ekPurpose := lib.derive ekMaster lib.BIP44_PURPOSE
      | throw (.error ⟨RPC_INTERNAL_ERROR, "Failed to derive master key"⟩)
    let some ekDerived := lib.derive ekPurpose lib.BIP44ID
      | throw (.error ⟨RPC_INTERNAL_ERROR, "Failed to derive bip44 key"⟩)
    pure (.decode (lib.toBase58 ekMaster .EXT_SECRET_KEY_BTC)
      (some (lib.toBase58 ekDerived .EXT_SECRET_KEY)) (lib.getLanguage nLanguage))
  else pure (.decode (lib.toBase58 ekMaster .EXT_SECRET_KEY) none (lib.getLanguage nLanguage))

/-- The `decode` branch: password and words are required, `bip44` defaults to true. -/
def mnemonicDecode (lib : MnemonicLib) (getBool : UniValue → Except RPCFailure Bool)
    (params : List UniValue) : Except RPCFailure MnemonicResult := do
  let sPassword ← if params.length > 1 then (param params 1).getStr
    else throw (.error ⟨RPC_INVALID_PARAMETER, "Must specify password."⟩)
  let sMnemonic ← if params.length > 2 then (param params 2).getStr
    else throw (.error ⟨RPC_INVALID_PARAMETER, "Must specify mnemonic."⟩)
  let fBip44 ← if params.length > 3 then getBool (param params 3) else pure true
  if params.length > 4 then throw (.error ⟨RPC_INVALID_PARAMETER, "Too many parameters"⟩)
  if sMnemonic.isEmpty then throw (.error ⟨RPC_INVALID_PARAMETER, "Mnemonic can't be blank."⟩)
  decodeMnemonic lib sPassword sMnemonic fBip44

/-- `decode` with a password, non-blank words and a `bip44` flag hands them on to
`decodeMnemonic`. -/
theorem mnemonicDecode_eq (lib : MnemonicLib) (getBool : UniValue → Except RPCFailure Bool)
    (mode : UniValue) (pw m : String) (b : UniValue) {fBip44 : Bool} (hb : getBool b = .ok fBip44)
    (hm : m ≠ "") :
    mnemonicDecode lib getBool [mode, .str pw, .str m, b] = decodeMnemonic lib pw m fBip44 := by
  have hblank : m.isEmpty = false := Bool.eq_false_iff.mpr fun h => hm ((String.isEmpty_iff m).mp h)
  simp [mnemonicDecode, param, UniValue.getStr, hb, hblank, bind, Except.bind, pure, Except.pure]

/-- The `addchecksum` branch: exactly one argument after the mode. -/
def mnemonicAddChecksum (lib : MnemonicLib) (params : List UniValue) :
    Except RPCFailure MnemonicResult := do
  if params.length ≠ 2 then
    throw (.error ⟨RPC_INVALID_PARAMETER, "Must provide input mnemonic."⟩)
  match lib.addChecksum (← (param params 1).getStr) with
  | .ok sMnemonicOut => pure (.addchecksum sMnemonicOut)
  | .error sError =>
    throw (.error ⟨RPC_INTERNAL_ERROR, "mnemonic::AddChecksum failed " ++ cString sError⟩)

/-- The `dumpwords` branch: the language's words, English by default, and how many. -/
def mnemonicDumpWords (lib : MnemonicLib) (params : List UniValue) :
    Except RPCFailure MnemonicResult := do
  let nLanguage ← if params.length > 1 then languageParam lib (param params 1)
    else pure lib.WLL_ENGLISH
  pure (.dumpwords (lib.wordList nLanguage) (lib.wordList nLanguage).length)

/-- The `listlanguages` branch: every enabled language from `1` below `WLL_MAX`. -/
def mnemonicListLanguages (lib : MnemonicLib) : MnemonicResult :=
  .listlanguages ((List.range' 1 (lib.WLL_MAX - 1)).filterMap fun k =>
    if lib.haveLanguage k then some (lib.mnLanguagesTag k, lib.mnLanguagesDesc k) else none)

/-- `mnemonicrpc`: the mode, then its branch. -/
def mnemonicrpc (lib : MnemonicLib) (getBool : UniValue → Except RPCFailure Bool)
    (params : List UniValue) : Except RPCFailure MnemonicResult := do
  match ← modeParam params with
  | .new => mnemonicNew lib getBool params
  | .decode => mnemonicDecode lib getBool params
  | .addchecksum => mnemonicAddChecksum lib params
  | .dumpwords => mnemonicDumpWords lib params
  | .listlanguages => pure (mnemonicListLanguages lib)

/-! ## The loop of `new` -/

section Loop

variable {lib : MnemonicLib} {nLanguage : Int} {n : Nat} {pw : String}

/-- A try that returns made its words from its entropy and its key from their seed. -/
theorem deriveTry_eq_ok {i : Nat} {r : String × CExtKey}
    (h : deriveTry lib nLanguage n pw i = .ok r) :
    lib.encode nLanguage (lib.strongRandBytes i n) = .ok r.1 ∧
      ∃ vSeed, lib.toSeed r.1 pw = some vSeed ∧ r.2 = lib.setSeed vSeed := by
  simp only [deriveTry] at h
  split at h
  · cases h
  · rename_i sMnemonic he
    split at h
    · cases h
    · rename_i vSeed hs
      cases h
      exact ⟨he, vSeed, hs, rfl⟩

/-- The loop ends with the words and key of one of its tries `j`: every try before `j` made an
invalid key, and try `j` made a valid one unless it was the last. -/
theorem deriveTries_eq_ok {tries i : Nat} {last r : String × CExtKey}
    (h : deriveTries lib nLanguage n pw (tries + 1) i last = .ok r) :
    ∃ j ≤ tries, deriveTry lib nLanguage n pw (i + j) = .ok r ∧
      (lib.isValid r.2 = true ∨ j = tries) ∧
      ∀ j' < j, ∃ r', deriveTry lib nLanguage n pw (i + j') = .ok r' ∧ lib.isValid r'.2 = false := by
  induction tries generalizing i last with
  | zero =>
    rw [deriveTries] at h
    cases ht : deriveTry lib nLanguage n pw i with
    | error e => simp [ht, bind, Except.bind] at h
    | ok r0 =>
      simp only [ht, bind, Except.bind] at h
      split at h <;> cases h <;> exact ⟨0, le_rfl, ht, .inr rfl, by simp⟩
  | succ tries ih =>
    rw [deriveTries] at h
    cases ht : deriveTry lib nLanguage n pw i with
    | error e => simp [ht, bind, Except.bind] at h
    | ok r0 =>
      simp only [ht, bind, Except.bind] at h
      split at h
      next hvalid =>
        -- a valid key breaks the loop at this try
        cases h
        exact ⟨0, Nat.zero_le _, ht, .inl hvalid, by simp⟩
      next hinvalid =>
        -- an invalid one: the rest of the loop, one try on
        obtain ⟨j, hj, hr, hv, hbefore⟩ := ih h
        refine ⟨j + 1, by omega, by rwa [show i + (j + 1) = i + 1 + j by omega],
          hv.imp_right (by omega), ?_⟩
        intro j' hj'
        cases j' with
        | zero => exact ⟨r0, ht, Bool.eq_false_iff.mpr hinvalid⟩
        | succ j' =>
          rw [show i + (j' + 1) = i + 1 + j' by omega]
          exact hbefore j' (by omega)

/-- When `Encode` and `ToSeed` never fail, the loop returns, with a valid key or without. -/
theorem deriveTries_ok (henc : ∀ vEntropy, ∃ m, lib.encode nLanguage vEntropy = .ok m)
    (hseed : ∀ m, ∃ vSeed, lib.toSeed m pw = some vSeed) (tries i : Nat)
    (last : String × CExtKey) : ∃ r, deriveTries lib nLanguage n pw tries i last = .ok r := by
  induction tries generalizing i last with
  | zero => exact ⟨last, rfl⟩
  | succ tries ih =>
    obtain ⟨m, hm⟩ := henc (lib.strongRandBytes i n)
    obtain ⟨vSeed, hs⟩ := hseed m
    have htry : deriveTry lib nLanguage n pw i = .ok (m, lib.setSeed vSeed) := by
      simp [deriveTry, hm, hs]
    rw [deriveTries]
    simp only [htry, bind, Except.bind]
    split
    · exact ⟨_, rfl⟩
    · exact ih _ _

end Loop

/-! ## `decode` of what `new` returned -/

/-- Every try of `new`'s loop returned, with an invalid key. -/
def AllTriesInvalid (lib : MnemonicLib) (a : NewArgs) : Prop :=
  ∀ j < lib.MAX_DERIVE_TRIES, ∃ r,
    deriveTry lib a.nLanguage a.nBytesEntropy.toNat a.sPassword j = .ok r ∧ lib.isValid r.2 = false

section RoundTrip

variable {lib : MnemonicLib}

/-- `new` returns the words and the key the loop ends with, the key printed as `bip44` asks. -/
theorem newMnemonic_eq_ok {a : NewArgs} {m s : String} (h : newMnemonic lib a = .ok (.new m s)) :
    ∃ k, deriveTries lib a.nLanguage a.nBytesEntropy.toNat a.sPassword lib.MAX_DERIVE_TRIES 0
        ("", lib.emptyKey) = .ok (m, k) ∧
      s = lib.toBase58 k (if a.fBip44 then .EXT_SECRET_KEY_BTC else .EXT_SECRET_KEY) := by
  simp only [newMnemonic, bind, Except.bind] at h
  split at h
  · cases h
  · rename_i r hr
    split at h <;> cases h <;> exact ⟨r.2, hr, by simp [*]⟩

/-- When `Encode` and `ToSeed` never fail, `new` returns words and a key, valid or not. -/
theorem newMnemonic_ok {a : NewArgs}
    (henc : ∀ vEntropy, ∃ m, lib.encode a.nLanguage vEntropy = .ok m)
    (hseed : ∀ m, ∃ vSeed, lib.toSeed m a.sPassword = some vSeed) :
    ∃ m s, newMnemonic lib a = .ok (.new m s) := by
  obtain ⟨r, h⟩ := @deriveTries_ok lib a.nLanguage a.nBytesEntropy.toNat a.sPassword henc hseed
    lib.MAX_DERIVE_TRIES 0 ("", lib.emptyKey)
  simp only [newMnemonic, h, bind, Except.bind]
  split <;> exact ⟨_, _, rfl⟩

/-- `decode` of words that `Decode` accepts and whose seed with the password is `vSeed`: "Invalid
key." when the key set from `vSeed` is invalid, else that key printed as `bip44` asks, provided
`Derive` turns a valid key into a valid child. -/
theorem decodeMnemonic_of_seed {pw m : String} (b : Bool) {r : Int × List UInt8}
    {vSeed : List UInt8} (hd : lib.decode m = .ok r) (hs : lib.toSeed m pw = some vSeed) :
    (lib.isValid (lib.setSeed vSeed) = false →
      decodeMnemonic lib pw m b = .error (.error invalidKey)) ∧
    (lib.isValid (lib.setSeed vSeed) = true →
      (∀ k n, lib.isValid k = true → ∃ k', lib.derive k n = some k' ∧ lib.isValid k' = true) →
      ∃ derived, decodeMnemonic lib pw m b = .ok (.decode
        (lib.toBase58 (lib.setSeed vSeed) (if b then .EXT_SECRET_KEY_BTC else .EXT_SECRET_KEY))
        derived (lib.getLanguage r.1))) := by
  refine ⟨fun hv => ?_, fun hv hderive => ?_⟩
  · simp [decodeMnemonic, hd, hs, hv, bind, Except.bind, pure, Except.pure, throw, throwThe,
      MonadExceptOf.throw]
  · cases b with
    | false => exact ⟨none, by simp [decodeMnemonic, hd, hs, hv, bind, Except.bind, pure, Except.pure]⟩
    | true =>
      obtain ⟨ekPurpose, h1, hv1⟩ := hderive _ lib.BIP44_PURPOSE hv
      obtain ⟨ekDerived, h2, -⟩ := hderive _ lib.BIP44ID hv1
      exact ⟨some (lib.toBase58 ekDerived .EXT_SECRET_KEY),
        by simp [decodeMnemonic, hd, hs, hv, h1, h2, bind, Except.bind, pure, Except.pure]⟩

/-- `decode`, given the words `new` returned with the same password and `bip44` flag, gives back
`new`'s master key, unless every one of the `MAX_DERIVE_TRIES` tries made an invalid key; then
`new` returned the last of them all the same, and `decode` refuses its words with "Invalid key.".
This holds for every library in which `Decode` accepts the words `Encode` writes and `Derive`
turns a valid key into a valid child. -/
theorem newMnemonic_decode {a : NewArgs} {m s : String} (h : newMnemonic lib a = .ok (.new m s))
    (htries : 0 < lib.MAX_DERIVE_TRIES)
    (hdecode : ∀ nLanguage vEntropy m, lib.encode nLanguage vEntropy = .ok m →
      ∃ r, lib.decode m = .ok r)
    (hderive : ∀ k n, lib.isValid k = true → ∃ k', lib.derive k n = some k' ∧ lib.isValid k' = true) :
    (AllTriesInvalid lib a ∧ decodeMnemonic lib a.sPassword m a.fBip44 = .error (.error invalidKey)) ∨
      (¬ AllTriesInvalid lib a ∧ ∃ derived language,
        decodeMnemonic lib a.sPassword m a.fBip44 = .ok (.decode s derived language)) := by
  obtain ⟨k, hloop, rfl⟩ := newMnemonic_eq_ok h
  obtain ⟨tries, htr⟩ : ∃ tries, lib.MAX_DERIVE_TRIES = tries + 1 :=
    ⟨_, (Nat.succ_pred_eq_of_pos htries).symm⟩
  rw [htr] at hloop
  obtain ⟨j, hj, htry, hlast, hbefore⟩ := deriveTries_eq_ok hloop
  rw [Nat.zero_add] at htry
  obtain ⟨hencode, vSeed, hseed, rfl⟩ := deriveTry_eq_ok htry
  obtain ⟨r, hd⟩ := hdecode _ _ _ hencode
  have hdec := decodeMnemonic_of_seed a.fBip44 hd hseed
  cases hv : lib.isValid (lib.setSeed vSeed) with
  | false =>
    -- the loop ran out: its key is the last try's, and every try before made an invalid one
    obtain rfl : j = tries := hlast.resolve_left (by simp [hv])
    refine .inl ⟨fun j' hj' => ?_, hdec.1 hv⟩
    rcases Nat.lt_succ_iff_lt_or_eq.mp (htr ▸ hj') with hlt | rfl
    · simpa using hbefore j' hlt
    · exact ⟨_, htry, hv⟩
  | true =>
    -- try `j` made a valid key, so not every try failed
    refine .inr ⟨fun hall => ?_, ?_⟩
    · obtain ⟨r', hr', hv'⟩ := hall j (by omega)
      rw [htry] at hr'
      cases hr'
      simp [hv] at hv'
    · obtain ⟨derived, hd'⟩ := hdec.2 hv hderive
      exact ⟨derived, _, hd'⟩

/-- A library in which no seed gives a valid key, with three tries. -/
def sampleMnemonicLib : MnemonicLib where
  WLL_ENGLISH := 1
  WLL_MAX := 3
  MAX_DERIVE_TRIES := 3
  BIP44_PURPOSE := 0x8000002C
  BIP44ID := 0x8000002C
  getLanguageOffset s := if s = "english" then .ok 1 else .error "Unknown language."
  parseInt32 s := s.toInt?
  strongRandBytes i n := List.replicate n i.toUInt8
  encode _ vEntropy := .ok ("word" ++ toString (vEntropy.headD 0))
  decode _ := .ok (1, [])
  toSeed sMnemonic sPassword := some (utf8 (sMnemonic ++ sPassword))
  setSeed vSeed := vSeed
  isValid _ := false
  emptyKey := []
  derive k n := some (k ++ [n.toUInt8])
  toBase58 k type :=
    (if type = .EXT_SECRET_KEY_BTC then "xprv" else "tprv") ++ toString k.length
  getLanguage _ := "english"
  addChecksum sMnemonic := .ok sMnemonic
  wordList _ := ["abandon", "ability"]
  haveLanguage k := k = 1
  mnLanguagesTag k := if k = 1 then "english" else ""
  mnLanguagesDesc k := if k = 1 then "English" else ""

/-- With no valid key in three tries, `new` returns the third try's words and key, and `decode`
refuses those words. -/
theorem newMnemonic_decode_sample :
    newMnemonic sampleMnemonicLib ⟨"", 1, 32, true⟩ = .ok (.new "word2" "xprv5") ∧
      AllTriesInvalid sampleMnemonicLib ⟨"", 1, 32, true⟩ ∧
      decodeMnemonic sampleMnemonicLib "" "word2" true = .error (.error invalidKey) := by
  have hd : decodeMnemonic sampleMnemonicLib "" "word2" true = .error (.error invalidKey) := rfl
  rcases @newMnemonic_decode sampleMnemonicLib ⟨"", 1, 32, true⟩ "word2" "xprv5" rfl (by decide)
      (fun _ _ _ _ => ⟨_, rfl⟩) (fun _ _ h => absurd h Bool.false_ne_true) with
    ⟨hall, -⟩ | ⟨-, _, _, hok⟩
  · exact ⟨rfl, hall, hd⟩
  · rw [hd] at hok
    cases hok

example :
    let lib := { sampleMnemonicLib with isValid := fun _ => true }
    newMnemonic lib ⟨"", 1, 32, true⟩ = .ok (.new "word0" "xprv5") ∧
      decodeMnemonic lib "" "word0" true = .ok (.decode "xprv5" (some "tprv7") "english") :=
  ⟨rfl, rfl⟩

end RoundTrip

end ParticlCore.Rpc
