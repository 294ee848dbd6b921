import ParticlCore.Rpc.Protocol
import Mathlib.Data.List.Basic

/-!
# Rpc — the mode of the mnemonic RPC

`mnemonicrpc` (`rpc/mnemonic.cpp`) reads its first parameter `s` as the mode: lines 57-70 lower
`" " + s + " "` and search for it with `strstr` in the space-separated list `pmodes`; a hit keeps
the lowered string with its spaces removed, a miss throws "Unknown mode.". The dispatch of
lines 72-255 then compares that string with each mode name and throws "Unknown mode." when
none matches.

A `std::string` is its list of bytes, NUL bytes included; `strstr` reads each buffer only up to
its first NUL. `toLower` (`util/strencodings`) and `strstr` (the C library) are not part of the
sources and are taken at their documented behaviour.

`mnemonicMode_exact` says what the search and the dispatch select together: the branch of the
mode whose name is `s` lowered, and "Unknown mode." for every other string. `strstr` finds a
needle `" " + L + " "` only at one of the finitely many runs of `pmodes` between two spaces
(`mem_spacedRuns`), and of those only the single mode names survive the space removal.
-/

namespace ParticlCore.Rpc

/-- A C++ `std::string`: its bytes, NUL bytes included. -/
abbrev StdString := List UInt8

/-- The bytes of an ASCII literal. -/
def ascii (s : String) : StdString := s.toList.map fun c => c.toNat.toUInt8

/-- `ToLower(char)` of `util/strencodings`: a 7-bit ASCII upper-case letter is lowered, every
other byte kept. -/
def toLowerByte (c : UInt8) : UInt8 := if 65 ≤ c ∧ c ≤ 90 then c + 32 else c

/-- `ToLower(std::string_view)`: byte by byte. -/
def toLower (s : StdString) : StdString := s.map toLowerByte

/-- What `strstr` reads of a buffer: the bytes before its first NUL. -/
def cStr (s : StdString) : StdString := s.takeWhile (· != 0)

/-- Whether `needle` occurs in `haystack`, as `strstr` searches it: at the first position, or
further on; the empty needle occurs everywhere. -/
def occursIn (needle : StdString) : StdString → Bool
  | [] => needle.isEmpty
  | c :: rest => needle.isPrefixOf (c :: rest) || occursIn needle rest

/-- `strstr(haystack, needle) != nullptr`. -/
def strstr (haystack needle : StdString) : Bool := occursIn (cStr needle) (cStr haystack)

/-- `pmodes`, line 63. -/
def pmodes : StdString := ascii " new decode addchecksum dumpwords listlanguages "

/-- The branches of the dispatch. -/
inductive Mode
  | new
  | decode
  | addchecksum
  | dumpwords
  | listlanguages
  deriving DecidableEq, Repr

/-- The string the dispatch compares `mode` with for each branch. -/
def Mode.name : Mode → StdString
  | .new => ascii "new"
  | .decode => ascii "decode"
  | .addchecksum => ascii "addchecksum"
  | .dumpwords => ascii "dumpwords"
  | .listlanguages => ascii "listlanguages"

/-- `JSONRPCError(RPC_INVALID_PARAMETER, "Unknown mode.")`. -/
def unknownMode : JSONRPCError := ⟨RPC_INVALID_PARAMETER, "Unknown mode."⟩

/-- Lines 57-70: the `mode` string the handler goes on with. With no parameter it stays empty. -/
def parseMode : List StdString → Except JSONRPCError StdString
  | [] => .ok []
  | s :: _ =>
    let st := toLower (ascii " " ++ s ++ ascii " ")
    if strstr pmodes st then .ok (st.filter (· != 32)) else .error unknownMode

/-- Lines 72-255: the branch `mode` selects. -/
def dispatch (mode : StdString) : Except JSONRPCError Mode :=
  if mode = Mode.new.name then .ok .new
  else if mode = Mode.decode.name then .ok .decode
  else if mode = Mode.addchecksum.name then .ok .addchecksum
  else if mode = Mode.dumpwords.name then .ok .dumpwords
  else if mode = Mode.listlanguages.name then .ok .listlanguages
  else .error unknownMode

/-- The branch `mnemonic` enters for its parameters, or the error it throws first. -/
def mnemonicMode (params : List StdString) : Except JSONRPCError Mode :=
  parseMode params >>= dispatch

/-! ## The dispatch -/

theorem dispatch_name (m : Mode) : dispatch m.name = .ok m := by
  cases m <;> rfl

theorem dispatch_eq_error {mode : StdString} (h : ∀ m : Mode, mode ≠ m.name) :
    dispatch mode = .error unknownMode := by
  rw [dispatch, if_neg (h .new), if_neg (h .decode), if_neg (h .addchecksum),
    if_neg (h .dumpwords), if_neg (h .listlanguages)]

theorem dispatch_eq_ok {mode : StdString} {m : Mode} : dispatch mode = .ok m ↔ mode = m.name := by
  refine ⟨fun h => ?_, fun h => h ▸ dispatch_name m⟩
  by_cases hx : ∃ x : Mode, mode = x.name
  · obtain ⟨x, rfl⟩ := hx
    rw [dispatch_name] at h
    cases h
    rfl
  · rw [dispatch_eq_error fun x hx' => hx ⟨x, hx'⟩] at h
    cases h

/-! ## The search

`strstr` is asked for `" " + L + " "`. Such a needle can only be found where a space of the
haystack is followed, some bytes on, by another space: `spacedRuns` lists the bytes between
every such pair, and `mem_spacedRuns` says that a found `L` is one of them. -/

/-- The byte strings `L` for which `L ++ [sp]` is a prefix of `u`. -/
def prefixesBefore (sp : UInt8) : StdString → List StdString
  | [] => []
  | c :: u => (if c = sp then [[]] else []) ++ (prefixesBefore sp u).map (c :: ·)

/-- The byte strings `L` for which `sp :: L ++ [sp]` occurs in `h`. -/
def spacedRuns (sp : UInt8) : StdString → List StdString
  | [] => []
  | c :: u => (if c = sp then prefixesBefore sp u else []) ++ spacedRuns sp u

theorem mem_prefixesBefore {sp : UInt8} {L u : StdString} (h : (L ++ [sp]).isPrefixOf u) :
    L ∈ prefixesBefore sp u := by
  induction u generalizing L with
  | nil => cases L <;> simp [List.isPrefixOf] at h
  | cons c u ih =>
    cases L with
    | nil =>
      simp only [List.nil_append, List.isPrefixOf, List.isPrefixOf_nil_left, Bool.and_true,
        beq_iff_eq] at h
      simp [prefixesBefore, h]
    | cons a L =>
      simp only [List.cons_append, List.isPrefixOf, Bool.and_eq_true, beq_iff_eq] at h
      obtain ⟨rfl, h⟩ := h
      simp [prefixesBefore, ih h]

theorem mem_spacedRuns {sp : UInt8} {L h : StdString} (hf : occursIn (sp :: (L ++ [sp])) h) :
    L ∈ spacedRuns sp h := by
  induction h with
  | nil => simp [occursIn] at hf
  | cons c u ih =>
    simp only [occursIn, List.isPrefixOf, Bool.or_eq_true, Bool.and_eq_true, beq_iff_eq] at hf
    rcases hf with ⟨rfl, hp⟩ | hf
    · simp [spacedRuns, mem_prefixesBefore hp]
    · simp [spacedRuns, ih hf]

/-- Of the runs of `pmodes` between two spaces, only the single mode names lose nothing but
their spaces to the dispatch: a run of several names joins them into no name. -/
theorem spacedRuns_pmodes (m : Mode) :
    ∀ L ∈ spacedRuns 32 pmodes, L.filter (· != 32) = m.name → L = m.name := by
  cases m <;> decide

/-- Each mode name, between spaces, is found in `pmodes`. -/
theorem occursIn_pmodes (m : Mode) : occursIn (32 :: (m.name ++ [32])) pmodes := by
  cases m <;> decide

/-- Mode names hold neither a NUL nor a space. -/
theorem not_mem_name (m : Mode) : 0 ∉ m.name ∧ 32 ∉ m.name := by
  cases m <;> decide

theorem cStr_pmodes : cStr pmodes = pmodes := by decide

theorem cStr_of_not_mem {s : StdString} (h : 0 ∉ s) : cStr s = s :=
  List.takeWhile_eq_self_iff.mpr fun x hx => by simpa using ne_of_mem_of_not_mem hx h

/-! ## The mode -/

theorem filter_name (m : Mode) : m.name.filter (· != 32) = m.name :=
  List.filter_eq_self.mpr fun x hx => by
    simpa using ne_of_mem_of_not_mem hx (not_mem_name m).2

theorem toLower_spaced (s : StdString) :
    toLower (ascii " " ++ s ++ ascii " ") = 32 :: (toLower s ++ [32]) := by
  have hspace : (ascii " ").map toLowerByte = [32] := by decide
  rw [toLower, List.map_append, List.map_append, hspace]
  rfl

/-- The mnemonic RPC enters the branch of mode `m` exactly when its first parameter, lowered, is
`m`'s name; on every other first parameter it throws "Unknown mode.". -/
theorem mnemonicMode_exact (s : StdString) (args : List StdString) :
    (∀ m : Mode, mnemonicMode (s :: args) = .ok m ↔ toLower s = m.name) ∧
      (mnemonicMode (s :: args) = .error unknownMode ∨ ∃ m : Mode, toLower s = m.name) := by
  have hcons : mnemonicMode (s :: args) =
      if occursIn (cStr (32 :: (toLower s ++ [32]))) pmodes
      then dispatch ((toLower s).filter (· != 32)) else .error unknownMode := by
    simp only [mnemonicMode, parseMode, strstr, toLower_spaced, cStr_pmodes]
    split <;> simp [bind, Except.bind, List.filter_append]
  rw [hcons]
  generalize toLower s = L
  by_cases h0 : (0 : UInt8) ∈ L
  · -- the NUL byte reaches the dispatch, and no name holds one
    have hL : ∀ m : Mode, L ≠ m.name := fun m h => (not_mem_name m).1 (h ▸ h0)
    have hF : ∀ m : Mode, L.filter (· != 32) ≠ m.name := fun m h =>
      (not_mem_name m).1 (h ▸ List.mem_filter.mpr ⟨h0, rfl⟩)
    have hu : (if occursIn (cStr (32 :: (L ++ [32]))) pmodes
        then dispatch (L.filter (· != 32)) else .error unknownMode) = .error unknownMode := by
      split
      · exact dispatch_eq_error hF
      · rfl
    rw [hu]
    exact ⟨fun m => by simp [hL m], .inl rfl⟩
  rw [cStr_of_not_mem (by simpa using h0)]
  by_cases hf : occursIn (32 :: (L ++ [32])) pmodes
  · -- a hit is a run of `pmodes`, and only a single name passes the dispatch
    rw [if_pos hf]
    have hiff : ∀ m : Mode, L.filter (· != 32) = m.name ↔ L = m.name := fun m =>
      ⟨spacedRuns_pmodes m L (mem_spacedRuns hf), fun h => h ▸ filter_name m⟩
    refine ⟨fun m => dispatch_eq_ok.trans (hiff m), ?_⟩
    by_cases hm : ∃ m : Mode, L = m.name
    · exact .inr hm
    · exact .inl (dispatch_eq_error fun m h => hm ⟨m, (hiff m).mp h⟩)
  · -- a miss: every mode name would have been found
    rw [if_neg hf]
    have hL : ∀ m : Mode, L ≠ m.name := fun m h => hf (h ▸ occursIn_pmodes m)
    exact ⟨fun m => by simp [hL m], .inl rfl⟩

example : mnemonicMode [ascii "DumpWords"] = .ok .dumpwords := rfl

example : mnemonicMode [ascii "new decode"] = .error unknownMode := rfl

example : mnemonicMode [ascii "new" ++ [0, 120]] = .error unknownMode := rfl

end ParticlCore.Rpc
