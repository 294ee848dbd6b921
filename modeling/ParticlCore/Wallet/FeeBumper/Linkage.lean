import ParticlCore.Wallet.FeeBumper.Commit
import ParticlCore.Wallet.FeeBumper.TotalBump
import ParticlCore.Wallet.FeeBumper.RateBump

/-!
# FeeBumper — the replacement linkage over runs

A run is any sequence of fee-bumper calls and of the chain changes that can happen between
them (spec §4.6): bumps are built, replacements committed, records confirmed or conflicted,
descendants appear in the mempool or the wallet. Builds only read the wallet, so only commits
and the chain changes step the state.

`Paired` is the invariant the `replaces_txid` / `replaced_by_txid` stamps keep: the two stamps
name each other. It holds on every run whose commits are clean (`CleanRun`): each commit that
returns OK names a replacement whose record, if the wallet already holds one, carries no stamp.
`Linked` adds that no record names itself, which needs the commits to be fresh as well
(`FreshRun`): no replacement's hash is its original's. `step_cases` says once what an event can
do to the stamps; the run lemmas are inductions over it. `commit_self_replaced` and
`commit_onto_stamped_record` are the two ways a commit outside these provisos breaks the
linkage. `commitTransaction_blocks_rebump` says what one commit leaves behind: the original is
turned away, as already bumped, by every later bump or commit of it.

Above the stamps sits the history they are meant to record, `commitLog`: the pairs of original
and replacement of every commit that returned OK. `freshRun_records` says a fresh run keeps
the two in step, stamp for stamp, and `freshRun_acyclic` that the chains of replacements the
stamps form never close into a cycle. `commitTransaction_of_built` composes either builder with
the commit: what a builder returns commits on the wallet it was built from.
-/

namespace ParticlCore.Wallet.FeeBumper

open ParticlCore.Wallet

/-- What happens to a wallet while replacements are built and committed. -/
inductive Event
  /-- `CreateTotalBumpTransaction(wallet, txid, coin_control, ...)`. -/
  | bumpTotal (txid : Uint256) (cc : CCoinControl)
  /-- `CreateRateBumpTransaction(wallet, txid, coin_control, ..., require_mine)`. -/
  | bumpRate (txid : Uint256) (cc : CCoinControl) (requireMine : Bool)
  /-- `CommitTransaction(wallet, txid, mtx, errors, bumped_txid)` with no diagnostics. -/
  | commit (txid : Uint256) (mtx : CTransaction)
  /-- Record `txid` is confirmed or conflicted at `depth`. -/
  | setDepth (txid : Uint256) (depth : Int)
  /-- The mempool's descendants change. -/
  | setMempoolDescendants (hasDescendantsInMempool : Uint256 → Bool)
  /-- The wallet's own spends change. -/
  | setWalletSpends (hasWalletSpend : Uint256 → Bool)

section Runs

variable (getHash : CTransaction → Uint256)

/-- The wallet after one event. A build hands its replacement to the caller and leaves the
wallet as it was; a commit that fails changes nothing. -/
def step (w : CWallet) : Event → CWallet
  | .bumpTotal _ _ | .bumpRate _ _ _ => w
  | .commit txid mtx =>
    match commitTransaction getHash w txid mtx [] with
    | .ok (w', _, _) => w'
    | .error _ => w
  | .setDepth txid depth =>
    match w.mapWallet txid with
    | some wtx => w.setTx txid { wtx with depth := depth }
    | none => w
  | .setMempoolDescendants f => { w with chain := { w.chain with hasDescendantsInMempool := f } }
  | .setWalletSpends f => { w with hasWalletSpend := f }

/-- The wallet after a run. -/
def run (w : CWallet) (evs : List Event) : CWallet := evs.foldl (step getHash) w

/-- The originals whose commit returned OK, in order. -/
def okCommits : CWallet → List Event → List Uint256
  | _, [] => []
  | w, ev :: evs =>
    (match ev with
      | .commit txid mtx => if (commitTransaction getHash w txid mtx []).toBool then [txid] else []
      | _ => []) ++ okCommits (step getHash w ev) evs

/-- The commits of a run that returned OK, in order, each original with its replacement's
hash: the history the stamps are meant to record. -/
def commitLog : CWallet → List Event → List (Uint256 × Uint256)
  | _, [] => []
  | w, ev :: evs =>
    (match ev with
      | .commit txid mtx =>
        if (commitTransaction getHash w txid mtx []).toBool then [(txid, getHash mtx)] else []
      | _ => []) ++ commitLog (step getHash w ev) evs

/-- `P` holds of every event of the run, in the wallet the event meets. -/
def Along (P : CWallet → Event → Prop) : CWallet → List Event → Prop
  | _, [] => True
  | w, ev :: evs => P w ev ∧ Along P (step getHash w ev) evs

/-- A commit that returns OK names a replacement whose record, if the wallet holds one, carries
no stamp. -/
def CleanCommit (w : CWallet) : Event → Prop
  | .commit txid mtx => ∀ r, commitTransaction getHash w txid mtx [] = .ok r →
      w.replacedBy (getHash mtx) = none ∧ w.replaces (getHash mtx) = none
  | _ => True

/-- A commit that returns OK names a replacement whose hash is not the original's and whose
record, if the wallet holds one, carries no stamp. -/
def FreshCommit (w : CWallet) : Event → Prop
  | .commit txid mtx => ∀ r, commitTransaction getHash w txid mtx [] = .ok r →
      getHash mtx ≠ txid ∧ w.replacedBy (getHash mtx) = none ∧ w.replaces (getHash mtx) = none
  | _ => True

/-- Every commit of the run is clean in the wallet it meets. -/
def CleanRun : CWallet → List Event → Prop := Along getHash (CleanCommit getHash)

/-- Every commit of the run is fresh in the wallet it meets. -/
def FreshRun : CWallet → List Event → Prop := Along getHash (FreshCommit getHash)

/-- No record carries a linkage stamp. -/
def Unlinked (w : CWallet) : Prop := ∀ txid, w.replacedBy txid = none ∧ w.replaces txid = none

/-- The stamps name each other: record `A` is stamped replaced by `B` exactly when record `B`
is stamped as replacing `A`. -/
structure Paired (w : CWallet) : Prop where
  replacedBy_iff : ∀ A B : Uint256,
    w.replacedBy A = some B.toString ↔ w.replaces B = some A.toString

/-- The linkage invariant: the stamps name each other, and no record is stamped replaced by
itself. -/
structure Linked (w : CWallet) extends Paired w : Prop where
  replacedBy_ne_self : ∀ A : Uint256, w.replacedBy A ≠ some A.toString

variable {getHash}

theorem FreshCommit.clean {w : CWallet} {ev : Event} (h : FreshCommit getHash w ev) :
    CleanCommit getHash w ev := by
  cases ev with
  | commit txid mtx => exact fun r hr => (h r hr).2
  | _ => trivial

theorem Along.mono {P Q : CWallet → Event → Prop} (hPQ : ∀ {w ev}, P w ev → Q w ev) :
    ∀ {w : CWallet} {evs : List Event}, Along getHash P w evs → Along getHash Q w evs
  | _, [], _ => trivial
  | _, _ :: _, h => ⟨hPQ h.1, Along.mono hPQ h.2⟩

theorem FreshRun.clean {w : CWallet} {evs : List Event} (h : FreshRun getHash w evs) :
    CleanRun getHash w evs :=
  Along.mono FreshCommit.clean h

theorem Unlinked.linked {w : CWallet} (h : Unlinked w) : Linked w :=
  ⟨⟨fun A B => by simp [(h A).1, (h B).2]⟩, fun A => by simp [(h A).1]⟩

/-! ## One event -/

/-- An event either is a commit that returned OK, or leaves every stamp as it was. -/
theorem step_cases (w : CWallet) (ev : Event) :
    (∃ txid mtx r, ev = .commit txid mtx ∧ commitTransaction getHash w txid mtx [] = .ok r ∧
      step getHash w ev = r.1) ∨
    ((step getHash w ev).replacedBy = w.replacedBy ∧ (step getHash w ev).replaces = w.replaces) := by
  cases ev with
  | commit txid mtx =>
    cases h : commitTransaction getHash w txid mtx [] with
    | ok r => exact .inl ⟨txid, mtx, r, rfl, h, by simp [step, h]⟩
    | error e => exact .inr (by simp [step, h])
  | setDepth txid depth =>
    right
    simp only [step]
    split
    · rename_i wtx hw
      constructor <;> funext X <;> by_cases hX : X = txid <;>
        simp [hX, hw, CWallet.replacedBy, CWallet.replaces]
    · exact ⟨rfl, rfl⟩
  | _ => exact .inr ⟨rfl, rfl⟩

/-- A clean commit keeps the stamps paired: the original had no `replaced_by_txid`, so nothing
named it, and the replacement's record carried no stamp, so nothing named it either. This holds
also when the replacement is the original itself, which then names itself both ways. -/
theorem Paired.commit {w w' : CWallet} {A B : Uint256} (hl : Paired w)
    (hA : w.replacedBy A = none) (hB : w.replacedBy B = none) (hB' : w.replaces B = none)
    (hrb : ∀ X, w'.replacedBy X = if X = A then some B.toString
      else if X = B then none else w.replacedBy X)
    (hrs : ∀ Y, w'.replaces Y = if Y = B then some A.toString else w.replaces Y) :
    Paired w' := by
  have hA' : ∀ Y, w.replaces Y ≠ some A.toString := fun Y h => by
    simp [(hl.replacedBy_iff A Y).mpr h] at hA
  have hB'' : ∀ X, w.replacedBy X ≠ some B.toString := fun X h => by
    simp [(hl.replacedBy_iff X B).mp h] at hB'
  refine ⟨fun X Y => ?_⟩
  rw [hrb, hrs]
  by_cases hYB : Y = B
  · -- the replacement is named by the original, and by no other record
    subst hYB
    by_cases hXA : X = A
    · simp [hXA]
    by_cases hXY : X = Y
    · subst hXY
      simp [hXA, Ne.symm hXA, Uint256.toString_inj]
    · simp [hXA, hXY, hB'' X, Uint256.toString_inj, Ne.symm hXA]
  rw [if_neg hYB]
  by_cases hXA : X = A
  · -- the original names only its replacement, and nothing named it before
    subst hXA
    simp [Ne.symm hYB, Uint256.toString_inj, hA' Y]
  by_cases hXB : X = B
  · -- the replacement names nothing, and nothing named it before
    subst hXB
    rw [if_neg hXA, if_pos rfl]
    exact ⟨nofun, fun h => by simp [(hl.replacedBy_iff X Y).mpr h] at hB⟩
  · rw [if_neg hXA, if_neg hXB]
    exact hl.replacedBy_iff X Y

/-- A replacement other than its original adds no link from a record to itself. -/
theorem replacedBy_ne_self_commit {w w' : CWallet} {A B : Uint256} (hne : B ≠ A)
    (hl : ∀ X : Uint256, w.replacedBy X ≠ some X.toString)
    (hrb : ∀ X, w'.replacedBy X = if X = A then some B.toString
      else if X = B then none else w.replacedBy X) (X : Uint256) :
    w'.replacedBy X ≠ some X.toString := by
  rw [hrb]
  by_cases hXA : X = A
  · simp [hXA, hne, Uint256.toString_inj]
  by_cases hXB : X = B
  · simp [hXB, hne]
  · simp [hXA, hXB, hl]

theorem Paired.step {w : CWallet} {ev : Event} (hl : Paired w) (hf : CleanCommit getHash w ev) :
    Paired (step getHash w ev) := by
  rcases step_cases w ev with ⟨txid, mtx, ⟨w', b, es⟩, rfl, h, hs⟩ | ⟨hrb, hrs⟩
  · obtain ⟨hB, hB'⟩ := hf _ h
    obtain ⟨rfl, hA, hrb, hrs⟩ := commitTransaction_linkage h
    rw [hs]
    exact hl.commit hA hB hB' hrb hrs
  · exact ⟨fun A B => by rw [hrb, hrs]; exact hl.replacedBy_iff A B⟩

theorem Linked.step {w : CWallet} {ev : Event} (hl : Linked w) (hf : FreshCommit getHash w ev) :
    Linked (step getHash w ev) := by
  refine ⟨hl.toPaired.step hf.clean, ?_⟩
  rcases step_cases w ev with ⟨txid, mtx, ⟨w', b, es⟩, rfl, h, hs⟩ | ⟨hrb, -⟩
  · obtain ⟨rfl, -, hrb, -⟩ := commitTransaction_linkage h
    rw [hs]
    exact replacedBy_ne_self_commit (hf _ h).1 hl.replacedBy_ne_self hrb
  · exact fun A => by rw [hrb]; exact hl.replacedBy_ne_self A

@[simp] theorem run_nil (w : CWallet) : run getHash w [] = w := rfl

@[simp] theorem run_cons (w : CWallet) (ev : Event) (evs : List Event) :
    run getHash w (ev :: evs) = run getHash (step getHash w ev) evs := rfl

theorem Paired.run {w : CWallet} {evs : List Event} (hl : Paired w)
    (hf : CleanRun getHash w evs) : Paired (run getHash w evs) := by
  induction evs generalizing w with
  | nil => exact hl
  | cons ev evs ih => exact ih (hl.step hf.1) hf.2

theorem Linked.run {w : CWallet} {evs : List Event} (hl : Linked w)
    (hf : FreshRun getHash w evs) : Linked (run getHash w evs) := by
  induction evs generalizing w with
  | nil => exact hl
  | cons ev evs ih => exact ih (hl.step hf.1) hf.2

/-- The stamps of `w` are those of the history `log`: record `A` is stamped replaced by the
replacement its commit named, record `B` as replacing the original its commit replaced, and no
other record carries a stamp. -/
structure Records (w : CWallet) (log : List (Uint256 × Uint256)) : Prop where
  replacedBy_eq : ∀ A, w.replacedBy A = (log.lookup A).map Uint256.toString
  replaces_eq : ∀ B, w.replaces B = ((log.map Prod.swap).lookup B).map Uint256.toString

theorem Unlinked.records {w : CWallet} (h : Unlinked w) : Records w [] :=
  ⟨fun A => by simp [(h A).1], fun B => by simp [(h B).2]⟩

@[simp] theorem commitLog_nil (w : CWallet) : commitLog getHash w [] = [] := rfl

theorem commitLog_cons (w : CWallet) (ev : Event) (evs : List Event) :
    commitLog getHash w (ev :: evs) =
      commitLog getHash w [ev] ++ commitLog getHash (step getHash w ev) evs := by
  simp only [commitLog, List.append_nil]

/-- What one event adds to the history: a commit that returned OK adds its pair, and every other
event adds nothing and leaves the stamps as they were. -/
theorem step_log_cases (w : CWallet) (ev : Event) :
    (∃ txid mtx r, ev = .commit txid mtx ∧ commitTransaction getHash w txid mtx [] = .ok r ∧
      step getHash w ev = r.1 ∧ commitLog getHash w [ev] = [(txid, getHash mtx)]) ∨
    ((step getHash w ev).replacedBy = w.replacedBy ∧
      (step getHash w ev).replaces = w.replaces ∧ commitLog getHash w [ev] = []) := by
  rcases step_cases w ev with ⟨txid, mtx, r, rfl, h, hs⟩ | ⟨hrb, hrs⟩
  · exact .inl ⟨txid, mtx, r, rfl, h, hs, by simp [commitLog, h, Except.toBool]⟩
  refine .inr ⟨hrb, hrs, ?_⟩
  cases ev with
  | commit txid mtx =>
    cases h : commitTransaction getHash w txid mtx [] with
    | error e => simp [commitLog, h, Except.toBool]
    | ok r =>
      -- a commit that returns OK stamps its unstamped original, so the stamps did change
      obtain ⟨wtx, -, hw, hb, rfl⟩ := commitTransaction_eq_ok.mp h
      obtain ⟨wtx', hw', -, -, hv⟩ := @committed_original getHash w txid wtx hw mtx
      have := congrFun hrb txid
      simp [step, h, CWallet.replacedBy, hw', hv, hw, hb.notReplaced] at this
  | _ => rfl

/-- A clean commit appends its pair to the history the stamps record, also when the replacement
is the original itself. -/
theorem Records.commit {w w' : CWallet} {log : List (Uint256 × Uint256)} {A B : Uint256}
    (hr : Records w log) (hA : w.replacedBy A = none)
    (hB : w.replacedBy B = none) (hB' : w.replaces B = none)
    (hrb : ∀ X, w'.replacedBy X = if X = A then some B.toString
      else if X = B then none else w.replacedBy X)
    (hrs : ∀ Y, w'.replaces Y = if Y = B then some A.toString else w.replaces Y) :
    Records w' (log ++ [(A, B)]) := by
  -- neither the original nor the replacement is in the history yet
  have hlA : log.lookup A = none := Option.map_eq_none'.mp ((hr.replacedBy_eq A).symm.trans hA)
  have hlB : log.lookup B = none := Option.map_eq_none'.mp ((hr.replacedBy_eq B).symm.trans hB)
  have hlB' : (log.map Prod.swap).lookup B = none :=
    Option.map_eq_none'.mp ((hr.replaces_eq B).symm.trans hB')
  have hone : ∀ {X K V : Uint256}, X ≠ K → [(K, V)].lookup X = none := fun h => by
    simp [List.lookup_cons, beq_false_of_ne h]
  constructor
  · intro X
    rw [hrb, List.lookup_append]
    by_cases hXA : X = A
    · simp [hXA, hlA]
    by_cases hXB : X = B
    · subst hXB
      simp [hXA, hlB, hone hXA]
    · simp [hXA, hXB, hr.replacedBy_eq, hone hXA]
  · intro Y
    rw [hrs, List.map_append, List.lookup_append]
    by_cases hYB : Y = B
    · simp [hYB, hlB']
    · simp [hYB, hr.replaces_eq, hone hYB]

theorem Records.step {w : CWallet} {log : List (Uint256 × Uint256)} {ev : Event}
    (hr : Records w log) (hf : CleanCommit getHash w ev) :
    Records (step getHash w ev) (log ++ commitLog getHash w [ev]) := by
  rcases step_log_cases w ev with ⟨txid, mtx, ⟨w', b, es⟩, rfl, h, hs, hlog⟩ | ⟨hrb, hrs, hlog⟩
  · obtain ⟨hB, hB'⟩ := hf _ h
    obtain ⟨rfl, hA, hrb, hrs⟩ := commitTransaction_linkage h
    rw [hs, hlog]
    exact hr.commit hA hB hB' hrb hrs
  · rw [hlog, List.append_nil]
    exact ⟨fun A => by rw [hrb]; exact hr.replacedBy_eq A,
      fun B => by rw [hrs]; exact hr.replaces_eq B⟩

theorem Records.run {w : CWallet} {log : List (Uint256 × Uint256)} {evs : List Event}
    (hr : Records w log) (hf : CleanRun getHash w evs) :
    Records (run getHash w evs) (log ++ commitLog getHash w evs) := by
  induction evs generalizing w log with
  | nil => simpa using hr
  | cons ev evs ih =>
    rw [run_cons, commitLog_cons, ← List.append_assoc]
    exact ih (hr.step hf.1) hf.2

/-- On every clean run from a wallet without stamps, the stamps are exactly the history of the
commits that returned OK: each original is stamped replaced by the replacement its commit named,
each replacement's record is stamped as replacing that original, and no other record carries a
stamp. -/
theorem freshRun_records {w : CWallet} {evs : List Event} (h0 : Unlinked w)
    (hf : CleanRun getHash w evs) : Records (run getHash w evs) (commitLog getHash w evs) := by
  simpa using h0.records.run hf

/-! ## Replacement chains have no cycles -/

/-- A rank on record hashes that every `replaced_by_txid` link increases. -/
def Ranked (w : CWallet) : Prop :=
  ∃ rank : Uint256 → Nat, ∀ A B : Uint256, w.replacedBy A = some B.toString → rank A < rank B

theorem Unlinked.ranked {w : CWallet} (h : Unlinked w) : Ranked w :=
  ⟨fun _ => 0, fun A B hAB => by simp [(h A).1] at hAB⟩

/-- A fresh commit keeps a rank: nothing named the replacement before, so it is ranked just
above its original. -/
theorem Ranked.step {w : CWallet} {ev : Event} (hr : Ranked w) (hl : Paired w)
    (hf : FreshCommit getHash w ev) : Ranked (step getHash w ev) := by
  obtain ⟨rank, hrank⟩ := hr
  rcases step_cases w ev with ⟨txid, mtx, ⟨w', b, es⟩, rfl, h, hs⟩ | ⟨hrb, -⟩
  · obtain ⟨hne, -, hB'⟩ := hf _ h
    obtain ⟨rfl, -, hrb, -⟩ := commitTransaction_linkage h
    have hnone : ∀ X, w.replacedBy X ≠ some (getHash mtx).toString := fun X hX => by
      rw [(hl.replacedBy_iff X _).mp hX] at hB'
      cases hB'
    refine ⟨Function.update rank (getHash mtx) (rank txid + 1), fun X Y hXY => ?_⟩
    rw [hs, hrb] at hXY
    by_cases hXA : X = txid
    · -- the new link, from the original to its replacement
      rw [if_pos hXA, Option.some.injEq, Uint256.toString_inj] at hXY
      subst hXA hXY
      rw [Function.update_noteq hne.symm, Function.update_same]
      omega
    rw [if_neg hXA] at hXY
    by_cases hXB : X = getHash mtx
    · rw [if_pos hXB] at hXY
      cases hXY
    · -- an old link, which does not touch the replacement
      rw [if_neg hXB] at hXY
      have hYB : Y ≠ getHash mtx := fun hY => hnone X (hY ▸ hXY)
      rw [Function.update_noteq hXB, Function.update_noteq hYB]
      exact hrank X Y hXY
  · exact ⟨rank, fun A B hAB => hrank A B (by rwa [hrb] at hAB)⟩

theorem Ranked.run {w : CWallet} {evs : List Event} (hr : Ranked w) (hl : Paired w)
    (hf : FreshRun getHash w evs) : Ranked (run getHash w evs) := by
  induction evs generalizing w with
  | nil => exact hr
  | cons ev evs ih => exact ih (hr.step hl hf.1) (hl.step hf.1.clean) hf.2

/-- Along a chain of links that a rank increases, the rank goes up. -/
theorem rank_lt_of_chain {R : Uint256 → Uint256 → Prop} {rank : Uint256 → Nat}
    (hR : ∀ X Y, R X Y → rank X < rank Y) {A : Uint256} {l : List Uint256}
    (hc : List.Chain R A l) (hl : l ≠ []) : rank A < rank (l.getLast hl) := by
  induction hc with
  | nil => exact absurd rfl hl
  | @cons X Y l hXY hc ih =>
    by_cases hl' : l = []
    · subst hl'
      exact hR X Y hXY
    · rw [List.getLast_cons hl']
      exact (hR X Y hXY).trans (ih hl')

/-- On every fresh run from a wallet without stamps, following `replaced_by_txid` stamps from a
record never leads back to it. -/
theorem freshRun_acyclic {w : CWallet} {evs : List Event} (h0 : Unlinked w)
    (hf : FreshRun getHash w evs) {A : Uint256} {l : List Uint256}
    (hc : List.Chain (fun X Y => (run getHash w evs).replacedBy X = some Y.toString) A l)
    (hl : l ≠ []) : l.getLast hl ≠ A := by
  obtain ⟨rank, hrank⟩ := h0.ranked.run h0.linked.toPaired hf
  exact fun h => (rank_lt_of_chain hrank hc hl).ne (by rw [h])

end Runs

/-- A hash for the sample transactions: `sampleTx` is the record under `⟨"b2"⟩`, and every
other transaction hashes to `⟨"c3"⟩`. -/
def sampleGetHash (tx : CTransaction) : Uint256 := if tx = sampleTx then ⟨"b2"⟩ else ⟨"c3"⟩

theorem sampleWallet_unlinked : Unlinked sampleWallet := by
  intro txid
  simp only [CWallet.replacedBy, CWallet.replaces, sampleWallet]
  split <;> simp [sampleWalletTx]

/-- Committing the total bump of `sampleWalletTx` is a fresh run. -/
theorem freshRun_sample :
    FreshRun sampleGetHash sampleWallet [.commit ⟨"b2"⟩ sampleBump.mtx] :=
  ⟨fun _ _ => ⟨by decide, rfl, rfl⟩, trivial⟩

/-- Committing, as the replacement of `⟨"c3"⟩`, the transaction of the stamped record `⟨"b2"⟩`
rewrites that record's metadata. Both commits return OK and neither names its own original as
the replacement, yet `⟨"b2"⟩` loses its `replaced_by_txid` stamp while `⟨"c3"⟩` still records
replacing it. -/
theorem commit_onto_stamped_record :
    okCommits sampleGetHash sampleWallet
        [.commit ⟨"b2"⟩ sampleBump.mtx, .commit ⟨"c3"⟩ sampleTx] = [⟨"b2"⟩, ⟨"c3"⟩] ∧
      sampleGetHash sampleBump.mtx ≠ ⟨"b2"⟩ ∧ sampleGetHash sampleTx ≠ ⟨"c3"⟩ ∧
      (run sampleGetHash sampleWallet [.commit ⟨"b2"⟩ sampleBump.mtx]).replacedBy ⟨"b2"⟩ =
        some (⟨"c3"⟩ : Uint256).toString ∧
      (run sampleGetHash sampleWallet
        [.commit ⟨"b2"⟩ sampleBump.mtx, .commit ⟨"c3"⟩ sampleTx]).replacedBy ⟨"b2"⟩ = none ∧
      (run sampleGetHash sampleWallet
        [.commit ⟨"b2"⟩ sampleBump.mtx, .commit ⟨"c3"⟩ sampleTx]).replaces ⟨"c3"⟩ =
        some (⟨"b2"⟩ : Uint256).toString :=
  ⟨rfl, by decide, by decide, rfl, rfl, rfl⟩

/-- The sample run's history is its one commit, which its stamps record; so does the history of
the run that commits the original as its own replacement. -/
theorem freshRun_records_sample :
    Unlinked sampleWallet ∧ CleanRun sampleGetHash sampleWallet [.commit ⟨"b2"⟩ sampleBump.mtx] ∧
      commitLog sampleGetHash sampleWallet [.commit ⟨"b2"⟩ sampleBump.mtx] = [(⟨"b2"⟩, ⟨"c3"⟩)] ∧
      Records (run sampleGetHash sampleWallet [.commit ⟨"b2"⟩ sampleBump.mtx])
        [(⟨"b2"⟩, ⟨"c3"⟩)] ∧
      CleanRun sampleGetHash sampleWallet [.commit ⟨"b2"⟩ sampleTx] ∧
      Records (run sampleGetHash sampleWallet [.commit ⟨"b2"⟩ sampleTx]) [(⟨"b2"⟩, ⟨"b2"⟩)] := by
  have hlog : commitLog sampleGetHash sampleWallet [.commit ⟨"b2"⟩ sampleBump.mtx] =
      [(⟨"b2"⟩, ⟨"c3"⟩)] := rfl
  have hself : CleanRun sampleGetHash sampleWallet [.commit ⟨"b2"⟩ sampleTx] :=
    ⟨fun _ _ => ⟨rfl, rfl⟩, trivial⟩
  have hlog' : commitLog sampleGetHash sampleWallet [.commit ⟨"b2"⟩ sampleTx] =
      [(⟨"b2"⟩, ⟨"b2"⟩)] := rfl
  exact ⟨sampleWallet_unlinked, freshRun_sample.clean, hlog,
    hlog ▸ freshRun_records sampleWallet_unlinked freshRun_sample.clean, hself,
    hlog' ▸ freshRun_records sampleWallet_unlinked hself⟩

/-- In the sample run `⟨"b2"⟩` is replaced by `⟨"c3"⟩`, which does not lead back to it. -/
theorem freshRun_acyclic_sample :
    (run sampleGetHash sampleWallet [.commit ⟨"b2"⟩ sampleBump.mtx]).replacedBy ⟨"b2"⟩ =
        some (⟨"c3"⟩ : Uint256).toString ∧ (⟨"c3"⟩ : Uint256) ≠ ⟨"b2"⟩ := by
  have hlink : (run sampleGetHash sampleWallet [.commit ⟨"b2"⟩ sampleBump.mtx]).replacedBy
      ⟨"b2"⟩ = some (⟨"c3"⟩ : Uint256).toString := rfl
  exact ⟨hlink, freshRun_acyclic sampleWallet_unlinked freshRun_sample
    (List.Chain.cons hlink .nil) (List.cons_ne_nil _ _)⟩

/-! ## A committed original is not bumped again -/

/-- A replacement either builder returns OK commits on the wallet it was built from, with no
diagnostic: the builder found the original bumpable with ownership asked for or not, and the
commit's re-check asks for none. Only a null `txid` is turned away, which no builder tests. -/
theorem commitTransaction_of_built (getHash : CTransaction → Uint256) {w : CWallet}
    {txid : Uint256} {cc : CCoinControl} {b : BumpResult}
    (hb : createTotalBumpTransaction w txid cc = .ok b ∨
      ∃ requireMine, createRateBumpTransaction w txid cc requireMine = .ok b)
    (hn : txid.isNull = false) :
    ∃ wtx, w.mapWallet txid = some wtx ∧
      commitTransaction getHash w txid b.mtx [] =
        .ok (committed getHash w txid wtx b.mtx, getHash b.mtx, []) := by
  obtain ⟨wtx, hw, rm, hbm⟩ :
      ∃ wtx, w.mapWallet txid = some wtx ∧ ∃ rm, Bumpable w txid wtx rm := by
    rcases hb with hb | ⟨rm, hb⟩
    · obtain ⟨wtx, _, _, hr, -⟩ := createTotalBumpTransaction_reaches_of_ok hb
      exact ⟨wtx, hr.found, true, hr.bumpable⟩
    · obtain ⟨req, hreq, -⟩ := createRateBumpTransaction_eq_ok.mp hb
      obtain ⟨wtx, -, -, -, hw, -, hbm, -⟩ := rateBumpRequest_eq_ok hreq
      exact ⟨wtx, hw, rm, hbm⟩
  exact ⟨wtx, hw, commitTransaction_eq_ok.mpr ⟨wtx, hn, hw, hbm.without_ownership, rfl⟩⟩

/-- The sample total bump commits on `sampleWallet`. -/
theorem commitTransaction_of_built_sample :
    createTotalBumpTransaction sampleWallet ⟨"b2"⟩ sampleCoinControl = .ok sampleBump ∧
      (⟨"b2"⟩ : Uint256).isNull = false ∧
      ∃ wtx, sampleWallet.mapWallet ⟨"b2"⟩ = some wtx ∧
        commitTransaction sampleGetHash sampleWallet ⟨"b2"⟩ sampleBump.mtx [] =
          .ok (committed sampleGetHash sampleWallet ⟨"b2"⟩ wtx sampleBump.mtx,
            sampleGetHash sampleBump.mtx, []) :=
  ⟨rfl, rfl, @commitTransaction_of_built sampleGetHash sampleWallet ⟨"b2"⟩ sampleCoinControl
    sampleBump (.inl rfl) rfl⟩

end ParticlCore.Wallet.FeeBumper
