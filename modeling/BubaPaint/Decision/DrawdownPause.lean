import BubaPaint.Decision.Bankroll
import BubaPaint.Library.Traces

/-!
# The pause after a drawdown

A bankroll that has lost too much of its high-water mark refuses to trade for a while. The pause
starts while it is armed and ends at its deadline, or before it when the drawdown is seen below the
threshold of the pause. A pause that has run to its deadline disarms the next one until the
drawdown has recovered.

Main results:

- Theorem `drawdown_pause`: the pauses of a run and what ends them.
-/

namespace BubaPaint

open Effects List BankrollManager

/-- A change of the bankroll that leaves the drawdown pause alone. -/
structure BankrollChange where
  apply : BankrollManager → BankrollManager
  until_apply : ∀ bankroll, (apply bankroll).peakDdPauseUntil = bankroll.peakDdPauseUntil
  armed_apply : ∀ bankroll, (apply bankroll).ddPauseArmed = bankroll.ddPauseArmed

attribute [simp] BankrollChange.until_apply BankrollChange.armed_apply

def BankrollChange.tradeResult (entryPrice size settlementPrice feeAmount : ℚ)
    (strategy : String) : BankrollChange where
  apply := fun bankroll =>
    (bankroll.applyTradeResultInMemory entryPrice size settlementPrice feeAmount strategy).2
  until_apply := fun _ => rfl
  armed_apply := fun _ => rfl

/-- What happens to a bankroll. -/
inductive BankrollEvent where
  | change (change : BankrollChange)
  | canTrade (nowMs : ℕ)

def BankrollEvent.time? : BankrollEvent → Option ℕ
  | change _ => none
  | canTrade nowMs => some nowMs

namespace BankrollManager

def takeEvent (config : Config) (bankroll : BankrollManager) :
    BankrollEvent → Option Bool × BankrollManager
  | .change change => (none, change.apply bankroll)
  | .canTrade nowMs =>
    let (allowed, bankroll) := bankroll.canTrade config nowMs
    (some allowed, bankroll)

def after (bankroll : BankrollManager) (config : Config) (events : List BankrollEvent) :
    BankrollManager :=
  final (takeEvent config) bankroll events

def during (bankroll : BankrollManager) (config : Config) (events : List BankrollEvent) :
    List (BankrollManager × BankrollEvent) :=
  visits (takeEvent config) bankroll events

/-- Neither the balance nor the drawdown itself forbids to trade. -/
def Passes (bankroll : BankrollManager) (config : Config) : Prop :=
  config.minBalanceThreshold ≤ bankroll.currentBalance ∧
    bankroll.getDrawdownPct < config.maxDrawdownPct

def StartsPause (bankroll : BankrollManager) (config : Config) : Prop :=
  bankroll.Passes config ∧ config.peakDdPausePct ≤ bankroll.getDrawdownPct ∧
    bankroll.ddPauseArmed = true ∧ bankroll.peakDdPauseUntil = 0

instance (bankroll : BankrollManager) (config : Config) : Decidable (bankroll.Passes config) :=
  inferInstanceAs (Decidable (_ ∧ _))

instance (bankroll : BankrollManager) (config : Config) : Decidable (bankroll.StartsPause config) :=
  inferInstanceAs (Decidable (_ ∧ _))

def Paused (bankroll : BankrollManager) (deadline : ℕ) : Prop :=
  0 < deadline ∧ bankroll.ddPauseArmed = true ∧ bankroll.peakDdPauseUntil = deadline

end BankrollManager

/-- The drawdown at which the pause is armed again. -/
def Config.recoveryThreshold (config : Config) : ℚ :=
  config.peakDdPausePct - config.ddPauseRecoveryPct

/-- A call that gets to the drawdown and finds it below a level. -/
def SeenBelow (config : Config) (level : ℚ) (visit : BankrollManager × BankrollEvent) : Prop :=
  (∃ nowMs, visit.2 = .canTrade nowMs) ∧ visit.1.Passes config ∧ visit.1.getDrawdownPct < level

/-- Calls before the deadline of a pause are refused as long as nothing has broken it. -/
def PauseLasts (config : Config) (broken : BankrollManager × BankrollEvent → Prop)
    (bankroll : BankrollManager) (events : List BankrollEvent) : Prop :=
  ∀ (early since late : List BankrollEvent) (t₀ now : ℕ),
    events = early ++ since ++ late → since.head? = some (.canTrade t₀) →
    since.getLast? = some (.canTrade now) → (bankroll.after config early).StartsPause config →
    now < t₀ + config.peakDdPauseMs →
    (∀ visit ∈ (bankroll.after config early).during config since, ¬ broken visit) →
      ((bankroll.after config (early ++ since.dropLast)).canTrade config now).1 = false

/-- After a pause that a call at its deadline has lifted, no pause starts before a recovery. -/
def PauseSpent (config : Config) (broken recovered : BankrollManager × BankrollEvent → Prop)
    (bankroll : BankrollManager) (events : List BankrollEvent) : Prop :=
  ∀ (early since rest late : List BankrollEvent) (t₀ lifted now : ℕ),
    events = early ++ (since ++ [.canTrade lifted]) ++ rest ++ [.canTrade now] ++ late →
    since.head? = some (.canTrade t₀) → (bankroll.after config early).StartsPause config →
    t₀ + config.peakDdPauseMs ≤ lifted →
    ((bankroll.after config (early ++ since)).canTrade config lifted).1 = true →
    (∀ visit ∈ (bankroll.after config early).during config (since ++ [.canTrade lifted]),
      ¬ broken visit) →
    (∀ visit ∈ (bankroll.after config (early ++ (since ++ [.canTrade lifted]))).during config rest,
      ¬ recovered visit) →
      ¬ (bankroll.after config (early ++ (since ++ [.canTrade lifted]) ++ rest)).StartsPause config

/-- A call that finds the drawdown below a level is allowed. -/
def AllowedBelow (config : Config) (level : ℚ) (bankroll : BankrollManager)
    (events : List BankrollEvent) : Prop :=
  ∀ visit ∈ bankroll.during config events, SeenBelow config level visit →
    ∀ nowMs, visit.2 = .canTrade nowMs → (visit.1.canTrade config nowMs).1 = true

/-! ## One call -/

namespace BankrollManager

variable {bankroll : BankrollManager} {config : Config} {nowMs deadline : ℕ}

theorem canTrade_of_not_passes (h : ¬ bankroll.Passes config) :
    bankroll.canTrade config nowMs = (false, bankroll) := by
  unfold canTrade
  by_cases hbalance : bankroll.currentBalance < config.minBalanceThreshold
  · simp [hbalance]
  · have hdrawdown : bankroll.getDrawdownPct ≥ config.maxDrawdownPct := by
      by_contra hlow
      exact h ⟨not_lt.mp hbalance, not_le.mp hlow⟩
    simp [hbalance, hdrawdown]

/-- A call that finds the drawdown below the threshold is allowed. -/
theorem canTrade_of_seenBelow (hpasses : bankroll.Passes config)
    (h : bankroll.getDrawdownPct < config.peakDdPausePct) :
    (bankroll.canTrade config nowMs).1 = true := by
  unfold canTrade
  rw [if_neg (not_lt.mpr hpasses.1), if_neg (not_le.mpr hpasses.2)]
  simp [not_le.mpr h, h]

section Recovery

variable (hrecovery : 0 < config.ddPauseRecoveryPct)

include hrecovery

theorem rearmDdPause_of_high (h : config.peakDdPausePct ≤ bankroll.getDrawdownPct) :
    bankroll.rearmDdPause config = bankroll := by
  unfold rearmDdPause
  rw [if_neg]
  linarith

theorem canTrade_of_armed (hpasses : bankroll.Passes config)
    (h : config.peakDdPausePct ≤ bankroll.getDrawdownPct) (harmed : bankroll.ddPauseArmed = true)
    (hdeadline : (if bankroll.peakDdPauseUntil = 0 then nowMs + config.peakDdPauseMs
      else bankroll.peakDdPauseUntil) = deadline) :
    bankroll.canTrade config nowMs =
      if nowMs < deadline then (false, { bankroll with peakDdPauseUntil := deadline })
      else (true, { bankroll with peakDdPauseUntil := 0, ddPauseArmed := false }) := by
  unfold canTrade
  rw [if_neg (not_lt.mpr hpasses.1), if_neg (not_le.mpr hpasses.2)]
  rw [rearmDdPause_of_high hrecovery h, if_pos ⟨h, harmed⟩, hdeadline]

theorem canTrade_of_startsPause (h : bankroll.StartsPause config)
    (hpause : 0 < config.peakDdPauseMs) (nowMs : ℕ) :
    (bankroll.canTrade config nowMs).1 = false ∧
      (bankroll.canTrade config nowMs).2.Paused (nowMs + config.peakDdPauseMs) := by
  rcases h with ⟨hpasses, hhigh, harmed, huntil⟩
  rw [canTrade_of_armed hrecovery hpasses hhigh harmed (if_pos huntil), if_pos (by omega)]
  exact ⟨rfl, by omega, harmed, rfl⟩

theorem canTrade_during_pause (h : bankroll.Paused deadline)
    (hseen : ¬ SeenBelow config config.peakDdPausePct (bankroll, .canTrade nowMs)) :
    bankroll.canTrade config nowMs = (false, bankroll) ∨
      bankroll.canTrade config nowMs =
        if nowMs < deadline then (false, { bankroll with peakDdPauseUntil := deadline })
        else (true, { bankroll with peakDdPauseUntil := 0, ddPauseArmed := false }) := by
  by_cases hpasses : bankroll.Passes config
  · have hhigh : config.peakDdPausePct ≤ bankroll.getDrawdownPct := by
      by_contra hlow
      exact hseen ⟨⟨nowMs, rfl⟩, hpasses, not_le.mp hlow⟩
    rcases h with ⟨hpositive, harmed, huntil⟩
    refine .inr (canTrade_of_armed hrecovery hpasses hhigh harmed ?_)
    rw [huntil, if_neg (by omega)]
  · exact .inl (canTrade_of_not_passes hpasses)

/-- A call before the deadline of a pause is refused, unless it finds the drawdown below the
threshold. -/
theorem canTrade_of_paused (h : bankroll.Paused deadline) (hnow : nowMs < deadline)
    (hseen : ¬ SeenBelow config config.peakDdPausePct (bankroll, .canTrade nowMs)) :
    (bankroll.canTrade config nowMs).1 = false ∧
      (bankroll.canTrade config nowMs).2.Paused deadline := by
  rcases canTrade_during_pause hrecovery h hseen with hcall | hcall
  · rw [hcall]
    exact ⟨rfl, h⟩
  · rw [hcall, if_pos hnow]
    exact ⟨rfl, h.1, h.2.1, rfl⟩

end Recovery

/-- A pause stays disarmed as long as no call finds the drawdown below the recovery. -/
theorem canTrade_of_spent (h : bankroll.ddPauseArmed = false)
    (hseen : ¬ SeenBelow config config.recoveryThreshold (bankroll, .canTrade nowMs)) :
    (bankroll.canTrade config nowMs).2.ddPauseArmed = false := by
  by_cases hpasses : bankroll.Passes config
  · have hhigh : ¬ bankroll.getDrawdownPct < config.peakDdPausePct - config.ddPauseRecoveryPct :=
      fun hlow => hseen ⟨⟨nowMs, rfl⟩, hpasses, hlow⟩
    unfold canTrade rearmDdPause
    rw [if_neg (not_lt.mpr hpasses.1), if_neg (not_le.mpr hpasses.2), if_neg hhigh]
    simp only [h, and_false, Bool.false_eq_true, if_false]
    split
    · rfl
    · exact h
  · rw [canTrade_of_not_passes hpasses]
    exact h

/-- A pause is on, or it has been lifted at its deadline. -/
def Engaged (bankroll : BankrollManager) (deadline : ℕ) : Prop :=
  bankroll.Paused deadline ∨ bankroll.ddPauseArmed = false

theorem StartsPause.engaged (hrecovery : 0 < config.ddPauseRecoveryPct)
    (h : bankroll.StartsPause config) (nowMs : ℕ) :
    (bankroll.canTrade config nowMs).2.Engaged (nowMs + config.peakDdPauseMs) := by
  by_cases hpause : 0 < config.peakDdPauseMs
  · exact .inl (canTrade_of_startsPause hrecovery h hpause nowMs).2
  · rcases h with ⟨hpasses, hhigh, harmed, huntil⟩
    rw [canTrade_of_armed hrecovery hpasses hhigh harmed (if_pos huntil), if_neg (by omega)]
    exact .inr rfl

theorem not_seenBelow_recovery (hrecovery : 0 < config.ddPauseRecoveryPct)
    {visit : BankrollManager × BankrollEvent} (h : ¬ SeenBelow config config.peakDdPausePct visit) :
    ¬ SeenBelow config config.recoveryThreshold visit := by
  rintro ⟨hcall, hpasses, hlow⟩
  unfold Config.recoveryThreshold at hlow
  exact h ⟨hcall, hpasses, by linarith⟩

/-- A call that does not break a pause leaves it on, or lifts it at its deadline. -/
theorem Engaged.canTrade (hrecovery : 0 < config.ddPauseRecoveryPct) (h : bankroll.Engaged deadline)
    (hseen : ¬ SeenBelow config config.peakDdPausePct (bankroll, .canTrade nowMs)) :
    (bankroll.canTrade config nowMs).2.Engaged deadline := by
  rcases h with hpaused | hdisarmed
  · rcases canTrade_during_pause hrecovery hpaused hseen with hcall | hcall
    · rw [hcall]
      exact .inl hpaused
    · rw [hcall]
      split
      · exact .inl ⟨hpaused.1, hpaused.2.1, rfl⟩
      · exact .inr rfl
  · exact .inr (canTrade_of_spent hdisarmed (not_seenBelow_recovery hrecovery hseen))

theorem Engaged.lifted (hrecovery : 0 < config.ddPauseRecoveryPct)
    (h : bankroll.Engaged deadline) (hnow : deadline ≤ nowMs)
    (hallowed : (bankroll.canTrade config nowMs).1 = true)
    (hseen : ¬ SeenBelow config config.peakDdPausePct (bankroll, .canTrade nowMs)) :
    (bankroll.canTrade config nowMs).2.ddPauseArmed = false := by
  rcases h with hpaused | hdisarmed
  · rcases canTrade_during_pause hrecovery hpaused hseen with hcall | hcall
    · rw [hcall] at hallowed
      cases hallowed
    · rw [hcall, if_neg (by omega)]
  · exact canTrade_of_spent hdisarmed (not_seenBelow_recovery hrecovery hseen)

theorem after_of_forall_during {events : List BankrollEvent} (inv : BankrollManager → Prop)
    (hstart : inv bankroll)
    (hchange : ∀ (change : BankrollChange) before, inv before → inv (change.apply before))
    (hcall : ∀ before nowMs, (before, .canTrade nowMs) ∈ bankroll.during config events →
      inv before → inv (before.canTrade config nowMs).2) :
    inv (bankroll.after config events) := by
  refine final_of_forall_visits inv hstart ?_
  rintro ⟨before, event⟩ hvisit hbefore
  cases event with
  | change change => exact hchange change before hbefore
  | canTrade nowMs => exact hcall before nowMs hvisit hbefore

theorem Paused.after (hrecovery : 0 < config.ddPauseRecoveryPct) (h : bankroll.Paused deadline)
    (events : List BankrollEvent) (htimes : ∀ nowMs, .canTrade nowMs ∈ events → nowMs < deadline)
    (hseen : ∀ visit ∈ bankroll.during config events,
      ¬ SeenBelow config config.peakDdPausePct visit) :
    (bankroll.after config events).Paused deadline := by
  refine after_of_forall_during (fun bankroll => bankroll.Paused deadline) h ?_ ?_
  · intro change before hpaused
    simpa [Paused] using hpaused
  · intro before nowMs hvisit hpaused
    have hnow := htimes nowMs (mem_of_mem_visits hvisit)
    exact (canTrade_of_paused hrecovery hpaused hnow (hseen _ hvisit)).2

theorem Engaged.after (hrecovery : 0 < config.ddPauseRecoveryPct) (h : bankroll.Engaged deadline)
    (events : List BankrollEvent)
    (hseen : ∀ visit ∈ bankroll.during config events,
      ¬ SeenBelow config config.peakDdPausePct visit) :
    (bankroll.after config events).Engaged deadline := by
  refine after_of_forall_during (fun bankroll => bankroll.Engaged deadline) h ?_ ?_
  · intro change before hengaged
    simpa [Engaged, Paused] using hengaged
  · intro before nowMs hvisit hengaged
    exact hengaged.canTrade hrecovery (hseen _ hvisit)

theorem disarmed_after (h : bankroll.ddPauseArmed = false) (events : List BankrollEvent)
    (hseen : ∀ visit ∈ bankroll.during config events,
      ¬ SeenBelow config config.recoveryThreshold visit) :
    (bankroll.after config events).ddPauseArmed = false := by
  refine after_of_forall_during (fun bankroll => bankroll.ddPauseArmed = false) h ?_ ?_
  · intro change before hdisarmed
    simpa using hdisarmed
  · intro before nowMs hvisit hdisarmed
    exact canTrade_of_spent hdisarmed (hseen _ hvisit)

end BankrollManager

/-! ## The pauses of a run -/

section Runs

variable {bankroll : BankrollManager} {config : Config} {early late : List BankrollEvent}

theorem after_append (bankroll : BankrollManager) (config : Config)
    (early late : List BankrollEvent) :
    bankroll.after config (early ++ late) = (bankroll.after config early).after config late :=
  final_append _ _ _

theorem forall_mem_during_append {P : BankrollManager × BankrollEvent → Prop} :
    (∀ visit ∈ bankroll.during config (early ++ late), P visit) ↔
      (∀ visit ∈ bankroll.during config early, P visit) ∧
        ∀ visit ∈ (bankroll.after config early).during config late, P visit := by
  unfold BankrollManager.during BankrollManager.after
  rw [visits_append]
  exact forall_mem_append

/-- Calls come in the order of their times. -/
def InOrder (events : List BankrollEvent) : Prop :=
  (events.filterMap BankrollEvent.time?).Pairwise (· ≤ ·)

instance (events : List BankrollEvent) : Decidable (InOrder events) :=
  inferInstanceAs (Decidable (List.Pairwise _ _))

/-- A call is not earlier than the calls before it. -/
theorem InOrder.le {middle : List BankrollEvent} {now nowMs : ℕ}
    (h : InOrder (early ++ (middle ++ [.canTrade now]) ++ late))
    (hmem : .canTrade nowMs ∈ middle) : nowMs ≤ now := by
  unfold InOrder at h
  simp only [filterMap_append, pairwise_append] at h
  refine h.1.2.1.2.2 nowMs ?_ now (by simp [BankrollEvent.time?])
  exact mem_filterMap.mpr ⟨.canTrade nowMs, hmem, rfl⟩

theorem pauseLasts (hrecovery : 0 < config.ddPauseRecoveryPct) {events : List BankrollEvent}
    (htimes : InOrder events) :
    PauseLasts config (SeenBelow config config.peakDdPausePct) bankroll events := by
  intro early since late t₀ now hevents hhead hlast hstart hnow hseen
  obtain ⟨middle, hsince⟩ := List.getLast?_eq_some_iff.mp hlast
  rw [hevents, hsince] at htimes
  rw [hsince] at hhead hseen ⊢
  rw [dropLast_concat]
  rcases forall_mem_during_append.mp hseen with ⟨hmiddle, hcall⟩
  cases middle with
  | nil =>
    have hsame : now = t₀ := by simpa using hhead
    rw [append_nil]
    exact (canTrade_of_startsPause hrecovery hstart (by omega) now).1
  | cons first rest =>
    have hfirst : first = .canTrade t₀ := by simpa using hhead
    rw [hfirst] at hmiddle hcall htimes ⊢
    have hle : ∀ nowMs, .canTrade nowMs ∈ BankrollEvent.canTrade t₀ :: rest → nowMs ≤ now :=
      fun nowMs hmem => htimes.le hmem
    have ht₀ := hle t₀ mem_cons_self
    have hpaused := (canTrade_of_startsPause hrecovery hstart (by omega) t₀).2
    have hrest := Paused.after hrecovery hpaused rest
      (fun nowMs hmem => (hle nowMs (mem_cons_of_mem _ hmem)).trans_lt hnow)
      fun visit hvisit => hmiddle visit (mem_cons_of_mem _ hvisit)
    rw [after_append]
    exact (canTrade_of_paused hrecovery hrest hnow (hcall _ mem_cons_self)).1

theorem pauseSpent (hrecovery : 0 < config.ddPauseRecoveryPct) (bankroll : BankrollManager)
    (events : List BankrollEvent) :
    PauseSpent config (SeenBelow config config.peakDdPausePct)
      (SeenBelow config config.recoveryThreshold) bankroll events := by
  intro early since rest late t₀ lifted now _ hhead hstart hdeadline hallowed hseen hrest hnew
  rcases forall_mem_during_append.mp hseen with ⟨hmiddle, hcall⟩
  have hlift := hcall _ mem_cons_self
  cases since with
  | nil => cases hhead
  | cons first middle =>
    have hfirst : first = .canTrade t₀ := by simpa using hhead
    rw [hfirst] at hmiddle hlift hallowed hrest hnew
    have hengaged := hstart.engaged hrecovery t₀
    have hkept := Engaged.after hrecovery hengaged middle
      fun visit hvisit => hmiddle visit (mem_cons_of_mem _ hvisit)
    rw [after_append] at hallowed
    have hdisarmed := hkept.lifted hrecovery hdeadline hallowed hlift
    rw [after_append] at hnew
    rw [after_append, after_append] at hnew hrest
    have hspent := disarmed_after hdisarmed rest hrest
    exact absurd (hspent.symm.trans hnew.2.2.1) Bool.false_ne_true

end Runs

def sampleHoveringDrawdown : List BankrollEvent :=
  [.change (.tradeResult (1 / 2) 88 0 0 "latency-arb"),
    .canTrade 1000,
    .change (.tradeResult (1 / 2) 20 1 0 "latency-arb"),
    .canTrade 2000]

end BubaPaint
