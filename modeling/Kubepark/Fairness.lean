import Mathlib.Order.Filter.AtTopBot.Basic

/-!
# Runs that reach their goal and stay there

An infinite run `run : Nat → S` of a system, and actions that are taken again and again in it
(`Recurs`). A rank that from some point on no step raises, and for every rank an action that lowers
it, take the run to its goal again and again (`goal_reached`); a goal that from some point on no
step leaves is then held for good (`goal_held`).
-/

namespace Kubepark

open Filter

variable {S ι : Type*}

/-- The action `act` is taken infinitely often in the run. -/
def Recurs (act : S → S → Prop) (run : Nat → S) : Prop :=
  ∃ᶠ n in atTop, act (run n) (run (n + 1))

theorem Recurs.later {act : S → S → Prop} {run : Nat → S} (h : Recurs act run) (n : Nat) :
    ∃ m ≥ n, act (run m) (run (m + 1)) :=
  frequently_atTop.mp h n

section Rank

variable {run : Nat → S} {act : ι → S → S → Prop} {Goal : S → Prop} {rank : S → Nat}
  {helper : Nat → ι}

/-- While the goal is not reached the rank does not rise. -/
theorem rank_le_of_le {n m : Nat}
    (hstep : ∀ k ≥ n, ¬Goal (run k) → rank (run (k + 1)) ≤ rank (run k)) (hnm : n ≤ m)
    (hnot : ∀ k ≥ n, ¬Goal (run k)) : rank (run m) ≤ rank (run n) := by
  induction m, hnm using Nat.le_induction with
  | base => exact le_rfl
  | succ m hm ih => exact (hstep m hm (hnot m hm)).trans ih

/-- From some point on no step raises the rank, and the action that helps at a rank lowers it or
reaches the goal; and every action recurs. Then the goal is reached again and again. -/
theorem goal_reached (hfair : ∀ i, Recurs (act i) run)
    (hstep : ∀ᶠ n in atTop, ¬Goal (run n) → rank (run (n + 1)) ≤ rank (run n))
    (hhelp : ∀ᶠ n in atTop, ¬Goal (run n) → act (helper (rank (run n))) (run n) (run (n + 1)) →
      Goal (run (n + 1)) ∨ rank (run (n + 1)) < rank (run n)) : ∃ᶠ n in atTop, Goal (run n) := by
  obtain ⟨start, hlate⟩ := eventually_atTop.mp (hstep.and hhelp)
  -- on the rank : the helper of the rank at `n` is taken later, when the rank is the same or lower
  have hreach : ∀ n ≥ start, ∃ m ≥ n, Goal (run m) := by
    intro n hn
    induction hk : rank (run n) using Nat.strong_induction_on generalizing n with
    | _ k ih =>
      subst hk
      by_contra hno
      have hnot : ∀ m ≥ n, ¬Goal (run m) := fun m hm hgoal => hno ⟨m, hm, hgoal⟩
      have hstays : ∀ m ≥ n, ¬rank (run m) < rank (run n) := by
        intro m hm hlt
        obtain ⟨m', hm', hgoal⟩ := ih _ hlt m (hn.trans hm) rfl
        exact hnot m' (hm.trans hm') hgoal
      obtain ⟨m, hm, hact⟩ := (hfair (helper (rank (run n)))).later n
      have hle : rank (run m) ≤ rank (run n) :=
        rank_le_of_le (fun k hk => (hlate k (hn.trans hk)).1) hm hnot
      have hsame : rank (run m) = rank (run n) := hle.antisymm (not_lt.mp (hstays m hm))
      rw [← hsame] at hact
      rcases (hlate m (hn.trans hm)).2 (hnot m hm) hact with hgoal | hlt
      · exact hnot (m + 1) (Nat.le_succ_of_le hm) hgoal
      · exact hstays (m + 1) (Nat.le_succ_of_le hm) (hsame ▸ hlt)
  refine frequently_atTop.mpr fun n => ?_
  obtain ⟨m, hm, hgoal⟩ := hreach (max n start) (le_max_right n start)
  exact ⟨m, (le_max_left n start).trans hm, hgoal⟩

/-- A goal that is reached again and again, and that from some point on no step leaves, is held
for good. -/
theorem goal_held (hreached : ∃ᶠ n in atTop, Goal (run n))
    (hkept : ∀ᶠ n in atTop, Goal (run n) → Goal (run (n + 1))) : ∀ᶠ n in atTop, Goal (run n) := by
  obtain ⟨start, hlate⟩ := eventually_atTop.mp hkept
  obtain ⟨n, hn, hgoal⟩ := frequently_atTop.mp hreached start
  refine eventually_atTop.mpr ⟨n, fun m hm => ?_⟩
  induction m, hm using Nat.le_induction with
  | base => exact hgoal
  | succ m hm ih => exact hlate m (hn.trans hm) ih

end Rank

end Kubepark
