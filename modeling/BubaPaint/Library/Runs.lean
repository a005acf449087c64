import Mathlib.Tactic.Common

/-!
# Runs of a transition system

A system steps from state to state under named actions. What has happened so far is summed up in a
history; the steps of a run can be restricted by a condition on the history and the two states.
-/

universe u v w

namespace Effects

/-- Steps under named actions, with a summary of what has happened. -/
structure System (S : Type u) (A : Type v) (H : Type w) where
  /-- The state after an action, if the action is possible. -/
  step : S → A → Option S
  /-- The history after a step. -/
  record : H → S → A → S → H

namespace System

variable {S : Type u} {A : Type v} {H : Type w} {sys : System S A H}
variable {meets meets' : H → S → A → S → Prop} {start : H × S} {h : H} {s : S}

/-- The states a run reaches whose steps all meet the condition. -/
inductive Run (sys : System S A H) (meets : H → S → A → S → Prop) (start : H × S) : H → S → Prop
  | start : Run sys meets start start.1 start.2
  | step {h : H} {s : S} (a : A) {s' : S} (hrun : Run sys meets start h s)
      (hstep : sys.step s a = some s') (hmeets : meets h s a s') :
      Run sys meets start (sys.record h s a s') s'

/-- What holds at the start and is kept by every step holds along the whole run. -/
theorem Run.invariant (inv : H → S → Prop) (hstart : inv start.1 start.2)
    (hstep : ∀ h s a s', inv h s → sys.step s a = some s' → meets h s a s' →
      inv (sys.record h s a s') s')
    (hrun : Run sys meets start h s) : inv h s := by
  induction hrun with
  | start => exact hstart
  | step a _ hnext hmeets ih => exact hstep _ _ a _ ih hnext hmeets

/-- Follow a list of actions as long as they are possible and pass a check. -/
def follow (sys : System S A H) (check : H → S → A → S → Bool) : List A → H × S → Option (H × S)
  | [], x => some x
  | a :: rest, (h, s) =>
    match sys.step s a with
    | none => none
    | some s' => if check h s a s' then sys.follow check rest (sys.record h s a s', s') else none

variable {check : H → S → A → S → Bool} {actions : List A}

/-- Following a list of actions is a run. -/
theorem run_of_follow (hcheck : ∀ h s a s', check h s a s' = true → meets h s a s') {mid : H × S}
    (hrun : Run sys meets start mid.1 mid.2)
    (hfollow : sys.follow check actions mid = some (h, s)) : Run sys meets start h s := by
  induction actions generalizing mid with
  | nil =>
    cases Option.some.inj hfollow
    exact hrun
  | cons a rest ih =>
    rcases mid with ⟨h₀, s₀⟩
    unfold follow at hfollow
    split at hfollow
    · cases hfollow
    · rename_i s' hstep
      split at hfollow
      · rename_i hpass
        exact ih (hrun.step a hstep (hcheck _ _ _ _ hpass)) hfollow
      · cases hfollow

theorem exists_run_of_follow {property : H × S → Bool}
    (hfollow : (sys.follow check actions start).any property = true)
    (hcheck : ∀ h s a s', check h s a s' = true → meets h s a s') :
    ∃ h s, Run sys meets start h s ∧ property (h, s) = true := by
  obtain ⟨⟨h, s⟩, hend, hproperty⟩ := (Option.any_eq_true _ _).mp hfollow
  exact ⟨h, s, run_of_follow hcheck .start hend, hproperty⟩

end System

end Effects
