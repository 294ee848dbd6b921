import Mathlib.Logic.Function.Iterate

/-!
# Qt — the send confirmation dialog

`SendConfirmationDialog` (`qt/sendcoinsdialog.cpp`, lines 1385-1443) asks the user to confirm a
send. Its Send button, and its Create Unsigned button when it has one, stay disabled for
`secDelay` seconds: `exec` starts a one-second timer, each timeout (`countDown`) lowers
`secDelay` and refreshes the buttons (`updateButtons`), and the timer stops once `secDelay` is
down to zero.

The dialog is modelled by the fields these functions read and write; its title and message
texts are only displayed and are left out. A disabled button cannot be clicked and Cancel is the
escape button, so `clickable` says which answers `exec` can return.

`tick_iterate` follows the timer from `exec`: after `n` timeouts Send is clickable exactly when
the wallet can send and `n` has reached the delay, Create Unsigned exactly when the dialog has
it and `n` has reached the delay, and the timer runs for `max secDelay 1` timeouts.
-/

namespace ParticlCore.Qt

/-- `SEND_CONFIRM_DELAY` of `qt/sendcoinsdialog.h` (not under src/): the seconds the buttons stay
disabled. -/
def SEND_CONFIRM_DELAY : Int := 3

/-- A button of the message box, by what `updateButtons` sets on it. -/
structure Button where
  enabled : Bool
  text : String
  deriving DecidableEq, Repr

/-- The buttons `exec` returns. -/
inductive StandardButton
  | Yes
  | Save
  | Cancel
  deriving DecidableEq, Repr

/-- `SendConfirmationDialog`. `m_psbt_button` is `none` when the Save button was not added;
`countDownTimer` is whether the timer runs. -/
structure SendConfirmationDialog where
  secDelay : Int
  m_enable_send : Bool
  confirmButtonText : String
  m_psbt_button_text : String
  yesButton : Button
  m_psbt_button : Option Button
  countDownTimer : Bool
  deriving DecidableEq, Repr

namespace SendConfirmationDialog

/-- `updateButtons`, lines 1423-1443. -/
def updateButtons (d : SendConfirmationDialog) : SendConfirmationDialog :=
  if 0 < d.secDelay then
    { d with
      yesButton := ⟨false, d.confirmButtonText ++
        if d.m_enable_send then " (" ++ toString d.secDelay ++ ")" else ""⟩,
      m_psbt_button := d.m_psbt_button.map fun _ =>
        ⟨false, d.m_psbt_button_text ++ " (" ++ toString d.secDelay ++ ")"⟩ }
  else
    { d with
      yesButton := ⟨d.m_enable_send, d.confirmButtonText⟩,
      m_psbt_button := d.m_psbt_button.map fun _ => ⟨true, d.m_psbt_button_text⟩ }

/-- The constructor, lines 1385-1403, with the button texts the header initialises ("Send" and
"Create Unsigned"). Save is added when unsigned transactions are always offered or the wallet
cannot send. The buttons' first states are Qt's and are overwritten by `updateButtons`. -/
def new (secDelay : Int) (enable_send always_show_unsigned : Bool) : SendConfirmationDialog :=
  updateButtons
    { secDelay := secDelay, m_enable_send := enable_send, confirmButtonText := "Send",
      m_psbt_button_text := "Create Unsigned", yesButton := ⟨true, "Send"⟩,
      m_psbt_button :=
        if always_show_unsigned || !enable_send then some ⟨true, "Create Unsigned"⟩ else none,
      countDownTimer := false }

/-- `exec`, lines 1405-1410, up to its event loop: the buttons are refreshed and the one-second
timer started. -/
def exec (d : SendConfirmationDialog) : SendConfirmationDialog :=
  { d.updateButtons with countDownTimer := true }

/-- `countDown`, lines 1412-1421. -/
def countDown (d : SendConfirmationDialog) : SendConfirmationDialog :=
  let d := updateButtons { d with secDelay := d.secDelay - 1 }
  if d.secDelay ≤ 0 then { d with countDownTimer := false } else d

/-- A timeout of `countDownTimer`: only a running timer times out. -/
def tick (d : SendConfirmationDialog) : SendConfirmationDialog :=
  if d.countDownTimer then d.countDown else d

/-- The answers `exec` can return: a disabled button cannot be clicked, and Cancel, the escape
button, always can. -/
def clickable (d : SendConfirmationDialog) : StandardButton → Bool
  | .Yes => d.yesButton.enabled
  | .Save => d.m_psbt_button.any (·.enabled)
  | .Cancel => true

/-! ## The buttons -/

section Buttons

variable (d : SendConfirmationDialog)

@[simp] theorem updateButtons_secDelay : d.updateButtons.secDelay = d.secDelay := by
  unfold updateButtons; split <;> rfl

@[simp] theorem updateButtons_m_enable_send : d.updateButtons.m_enable_send = d.m_enable_send := by
  unfold updateButtons; split <;> rfl

@[simp] theorem updateButtons_countDownTimer :
    d.updateButtons.countDownTimer = d.countDownTimer := by
  unfold updateButtons; split <;> rfl

@[simp] theorem updateButtons_isSome :
    d.updateButtons.m_psbt_button.isSome = d.m_psbt_button.isSome := by
  unfold updateButtons; split <;> simp

/-- What the refreshed buttons let the user answer. -/
@[simp] theorem clickable_updateButtons (b : StandardButton) :
    d.updateButtons.clickable b =
      match b with
      | .Yes => d.m_enable_send && decide (d.secDelay ≤ 0)
      | .Save => d.m_psbt_button.isSome && decide (d.secDelay ≤ 0)
      | .Cancel => true := by
  unfold updateButtons
  by_cases h : 0 < d.secDelay
  · have h' : ¬ d.secDelay ≤ 0 := by omega
    cases b <;> cases d.m_psbt_button <;> simp [h, h', clickable]
  · have h' : d.secDelay ≤ 0 := by omega
    cases b <;> cases d.m_psbt_button <;> simp [h, h', clickable]

/-- The buttons depend only on the delay, the send flag, the texts and whether Save exists. -/
theorem updateButtons_updateButtons : d.updateButtons.updateButtons = d.updateButtons := by
  unfold updateButtons; split <;> simp_all [Option.map_map, Function.comp_def]

theorem updateButtons_setTimer (b : Bool) :
    updateButtons { d with countDownTimer := b } = { d.updateButtons with countDownTimer := b } := by
  unfold updateButtons; split <;> rfl

end Buttons

/-! ## The countdown -/

/-- The buttons show what `updateButtons` sets for the current delay. -/
def Refreshed (d : SendConfirmationDialog) : Prop := d.updateButtons = d

theorem Refreshed.clickable {d : SendConfirmationDialog} (h : d.Refreshed) (b : StandardButton) :
    d.clickable b =
      match b with
      | .Yes => d.m_enable_send && decide (d.secDelay ≤ 0)
      | .Save => d.m_psbt_button.isSome && decide (d.secDelay ≤ 0)
      | .Cancel => true := by
  rw [← clickable_updateButtons, h]

/-- Send and Create Unsigned can be clicked only once the countdown is over. -/
theorem Refreshed.secDelay_nonpos {d : SendConfirmationDialog} (h : d.Refreshed)
    {b : StandardButton} (hb : d.clickable b) (hs : b = .Yes ∨ b = .Save) : d.secDelay ≤ 0 := by
  rcases hs with rfl | rfl <;> rw [h.clickable] at hb <;>
    simp only [Bool.and_eq_true, decide_eq_true_eq] at hb <;> exact hb.2

theorem exec_refreshed (d : SendConfirmationDialog) : d.exec.Refreshed := by
  rw [Refreshed, exec, updateButtons_setTimer, updateButtons_updateButtons]

/-- One timeout: the delay drops by one, the buttons follow it, and the timer stops at zero. -/
theorem countDown_spec (d : SendConfirmationDialog) :
    d.countDown.Refreshed ∧ d.countDown.m_enable_send = d.m_enable_send ∧
      d.countDown.m_psbt_button.isSome = d.m_psbt_button.isSome ∧
      d.countDown.secDelay = d.secDelay - 1 ∧
      d.countDown.countDownTimer = (d.countDownTimer && decide (0 < d.secDelay - 1)) := by
  dsimp only [countDown]
  generalize he : updateButtons { d with secDelay := d.secDelay - 1 } = e
  have hr : e.Refreshed := by rw [← he]; exact updateButtons_updateButtons _
  have hs : e.secDelay = d.secDelay - 1 := by rw [← he]; exact updateButtons_secDelay _
  have hm : e.m_enable_send = d.m_enable_send := by rw [← he]; exact updateButtons_m_enable_send _
  have hp : e.m_psbt_button.isSome = d.m_psbt_button.isSome := by
    rw [← he]; exact updateButtons_isSome _
  have ht : e.countDownTimer = d.countDownTimer := by
    rw [← he]; exact updateButtons_countDownTimer _
  split
  · refine ⟨by rw [Refreshed, updateButtons_setTimer, hr], hm, hp, hs, ?_⟩
    simp [show ¬ 0 < d.secDelay - 1 by omega]
  · exact ⟨hr, hm, hp, hs, by simp [ht, show 0 < d.secDelay - 1 by omega]⟩

/-- A timeout keeps the buttons refreshed and lowers the delay by at most one. -/
theorem Refreshed.tick {d : SendConfirmationDialog} (h : d.Refreshed) :
    d.tick.Refreshed ∧ d.tick.secDelay ≤ d.secDelay ∧ d.secDelay - 1 ≤ d.tick.secDelay := by
  unfold SendConfirmationDialog.tick
  split
  · obtain ⟨hr, -, -, hd, -⟩ := countDown_spec d
    exact ⟨hr, by omega, by omega⟩
  · exact ⟨h, Int.le_refl _, by omega⟩

/-- The dialog after `n` timeouts from `exec`. -/
theorem tick_iterate_fields (d : SendConfirmationDialog) (n : Nat) :
    (tick^[n] d.exec).Refreshed ∧ (tick^[n] d.exec).m_enable_send = d.m_enable_send ∧
      (tick^[n] d.exec).m_psbt_button.isSome = d.m_psbt_button.isSome ∧
      (tick^[n] d.exec).secDelay = d.secDelay - min (n : Int) (max d.secDelay 1) ∧
      (tick^[n] d.exec).countDownTimer = decide ((n : Int) < max d.secDelay 1) := by
  induction n with
  | zero =>
    rw [Function.iterate_zero, id]
    refine ⟨exec_refreshed d, updateButtons_m_enable_send d, updateButtons_isSome d, ?_, ?_⟩ <;>
      simp only [exec, updateButtons_secDelay, Int.Nat.cast_ofNat_Int, true_eq_decide_iff] <;> omega
  | succ n ih =>
    obtain ⟨hr, he, hs, hd, ht⟩ := ih
    rw [Function.iterate_succ_apply']
    generalize tick^[n] d.exec = t at *
    unfold tick
    by_cases hn : (n : Int) < max d.secDelay 1
    · obtain ⟨hr', he', hs', hd', ht'⟩ := countDown_spec t
      rw [if_pos (by simpa [hn] using ht)]
      refine ⟨hr', he'.trans he, hs'.trans hs, by rw [hd', hd]; omega, ?_⟩
      rw [ht', ht, hd]
      simp only [hn, decide_True, Bool.true_and, decide_eq_decide]
      omega
    · rw [if_neg (by simpa [hn] using ht)]
      refine ⟨hr, he, hs, by rw [hd]; omega, ?_⟩
      rw [ht]
      simp only [decide_eq_decide]
      omega

/-- The countdown of a dialog opened with delay `D`: after `n` timeouts Send is clickable exactly
when the wallet can send and `n ≥ D`, Create Unsigned exactly when the dialog has it and
`n ≥ D`, and the timer runs exactly while `n < max D 1`. -/
theorem tick_iterate (D : Int) (enable_send always_show_unsigned : Bool) (n : Nat) :
    ((tick^[n] (new D enable_send always_show_unsigned).exec).clickable .Yes ↔
        enable_send ∧ D ≤ n) ∧
      ((tick^[n] (new D enable_send always_show_unsigned).exec).clickable .Save ↔
        (always_show_unsigned ∨ enable_send = false) ∧ D ≤ n) ∧
      ((tick^[n] (new D enable_send always_show_unsigned).exec).countDownTimer ↔
        (n : Int) < max D 1) := by
  obtain ⟨hr, he, hs, hd, ht⟩ := tick_iterate_fields (new D enable_send always_show_unsigned) n
  have hS : (new D enable_send always_show_unsigned).m_psbt_button.isSome =
      (always_show_unsigned || !enable_send) := by
    rw [new, updateButtons_isSome]
    cases always_show_unsigned || !enable_send <;> rfl
  rw [hr.clickable, hr.clickable, ht, he, hs, hd, hS, new, updateButtons_secDelay,
    updateButtons_m_enable_send]
  simp only [Bool.and_eq_true, Bool.or_eq_true, Bool.not_eq_true', decide_eq_true_eq]
  exact ⟨and_congr_right fun _ => by omega, and_congr_right fun _ => by omega, trivial⟩

example : (tick^[2] (new 3 true false).exec).yesButton = ⟨false, "Send (1)"⟩ := by decide

end SendConfirmationDialog

end ParticlCore.Qt
