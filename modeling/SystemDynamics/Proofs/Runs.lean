import SystemDynamics.Proofs.Requests

/-!
# Runs

A run makes step after step until it has made as many as it was asked for or the model has ended
(`run_stops`), and it notes what these steps note. So a long run is a shorter one and then the run
of the steps that are left (`run_add`).
-/

namespace SystemDynamics

namespace Model

/-- So many steps one after the other, whether the model has ended or not. -/
def stepTimes (dt : StepSize) : Nat → Model → Noted Model
  | 0, m => pure m
  | n + 1, m => do stepTimes dt n (← m.step dt)

/-- After so many steps and no sooner, the model has ended or the limit is reached. -/
structure StopsAfter (m : Model) (dt : StepSize) (limit n : Nat) : Prop where
  le : n ≤ limit
  going : ∀ i < n, (stepTimes dt i m).result.isTerminated = false
  ended : n < limit → (stepTimes dt n m).result.isTerminated = true

theorem run_step {m : Model} (h : m.isTerminated = false) (dt : StepSize) (limit : Nat) :
    run dt (limit + 1) m =
      m.step dt >>= fun next => (fun r => (r.1, r.2 + 1)) <$> run dt limit next := by
  simp [run, h]

/-- A run makes steps until the model has ended or the limit is reached. -/
theorem run_stops (dt : StepSize) : ∀ (limit : Nat) (m : Model),
    ∃ n, m.StopsAfter dt limit n ∧ run dt limit m = (fun next => (next, n)) <$> stepTimes dt n m
  | 0, m => ⟨0, ⟨Nat.le_refl 0, fun _ hi => absurd hi (Nat.not_lt_zero _), fun hn => absurd hn
      (Nat.lt_irrefl 0)⟩, rfl⟩
  | limit + 1, m => by
    rcases h : m.isTerminated with _ | _
    · obtain ⟨n, hn, hrun⟩ := run_stops dt limit (m.step dt).result
      refine ⟨n + 1, ⟨Nat.succ_le_succ hn.le, fun i hi => ?_, fun hlt => ?_⟩, ?_⟩
      · rcases i with _ | i
        · exact h
        · exact hn.going i (Nat.lt_of_succ_lt_succ hi)
      · exact hn.ended (Nat.lt_of_succ_lt_succ hlt)
      · rw [run_step h, stepTimes, map_bind]
        refine Noted.bind_congr ?_
        rw [hrun, Functor.map_map]
    · refine ⟨0, ⟨Nat.zero_le _, fun _ hi => absurd hi (Nat.not_lt_zero _), fun _ => h⟩, ?_⟩
      rw [run_terminated h]
      rfl

/-- A run that falls short has ended the model. -/
theorem isTerminated_of_short {m : Model} {dt : StepSize} {limit : Nat}
    (h : (run dt limit m).result.2 < limit) : (run dt limit m).result.1.isTerminated = true := by
  obtain ⟨n, hn, hrun⟩ := run_stops dt limit m
  rw [hrun] at h ⊢
  exact hn.ended h

theorem run_le (dt : StepSize) (limit : Nat) (m : Model) : (run dt limit m).result.2 ≤ limit := by
  obtain ⟨n, hn, hrun⟩ := run_stops dt limit m
  rw [hrun]
  exact hn.le

/-- A long run is a shorter one and then the run of the steps that are left. -/
theorem run_add (dt : StepSize) (b : Nat) : ∀ (a : Nat) (m : Model),
    run dt (a + b) m =
      run dt a m >>= fun r => (fun s => (s.1, r.2 + s.2)) <$> run dt b r.1
  | 0, m => by
    ext1 <;> simp [run]
  | a + 1, m => by
    rcases h : m.isTerminated with _ | _
    · have hsum : a + 1 + b = a + b + 1 := by omega
      rw [hsum, run_step h, run_step h, bind_assoc]
      refine Noted.bind_congr ?_
      rw [run_add dt b a, map_bind, bind_map_left]
      refine Noted.bind_congr ?_
      rw [Functor.map_map]
      refine congrArg (· <$> _) (funext fun s => ?_)
      exact Prod.ext rfl (by simp only; omega)
    · rw [run_terminated h, run_terminated h, pure_bind, run_terminated h]
      rfl

end Model

end SystemDynamics
