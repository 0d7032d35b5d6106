/-!
# Runs

A run makes moves one after the other, as long as each of them can be made. This file shows that
what every move keeps is kept by every run.
-/

namespace Gatehouse

variable {σ μ : Type} {f : σ → μ → Option σ} {s s' : σ}

/-- A run that can be made makes its first move and then a run of the others. -/
theorem foldlM_cons_eq_some_iff {m : μ} {moves : List μ} :
    (m :: moves).foldlM f s = some s' ↔
      ∃ next, f s m = some next ∧ moves.foldlM f next = some s' := by
  rw [List.foldlM_cons]
  exact Option.bind_eq_some_iff

/-- What every move keeps is kept by every run. -/
theorem foldlM_induction {P : σ → Prop} (hstep : ∀ {s m s'}, f s m = some s' → P s → P s')
    {moves : List μ} (hrun : moves.foldlM f s = some s') (hs : P s) : P s' := by
  induction moves generalizing s with
  | nil =>
    cases hrun
    exact hs
  | cons m moves ih =>
    obtain ⟨next, hnext, hrest⟩ := foldlM_cons_eq_some_iff.1 hrun
    exact ih hrest (hstep hnext hs)

/-- If something comes to hold in a run, it does so with one of the moves. -/
theorem exists_move_of_run {P : σ → Prop} {moves : List μ} (hrun : moves.foldlM f s = some s')
    (hs : ¬ P s) (hs' : P s') :
    ∃ before m after u u', moves = before ++ m :: after ∧ before.foldlM f s = some u ∧
      f u m = some u' ∧ after.foldlM f u' = some s' ∧ ¬ P u ∧ P u' := by
  induction moves generalizing s with
  | nil =>
    cases hrun
    exact absurd hs' hs
  | cons m moves ih =>
    obtain ⟨next, hnext, hrest⟩ := foldlM_cons_eq_some_iff.1 hrun
    by_cases hP : P next
    · exact ⟨[], m, moves, s, next, rfl, rfl, hnext, hrest, hs, hP⟩
    · obtain ⟨before, m', after, u, u', hmoves, hbefore, hmove⟩ := ih hrest hP
      exact ⟨m :: before, m', after, u, u', congrArg (m :: ·) hmoves,
        foldlM_cons_eq_some_iff.2 ⟨next, hnext, hbefore⟩, hmove⟩

end Gatehouse
