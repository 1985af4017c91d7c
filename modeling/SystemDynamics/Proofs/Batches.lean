import SystemDynamics.Proofs.Runs

/-!
# Batches

A run in batches is one run, cut into pieces: as long as another batch follows, each batch makes
at least one step (`run_pos`), and the batches together are the run of all the steps
(`batchesUpTo_outcome`). The counts that are seen in between grow, and all but the last are
multiples of the size of the batches, because only the last batch can be shorter
(`batchesUpTo_regular`).
-/

namespace SystemDynamics

namespace Model

open Batches

/-- The model and the steps made. -/
def Batches.outcome (b : Batches) : Model × Nat := (b.model, b.completed)

/-- One batch and what follows it: nothing if it fell short, else further batches. -/
theorem batchesUpTo_chunk {b : Batches} {size : Int} {steps : Nat} (hsize : 0 < size)
    (hopen : b.isOpen steps = true) (dt : StepSize) (limit : Nat) :
    batchesUpTo dt size steps (limit + 1) b =
      run dt (b.chunk size steps).toNat b.model >>= fun r =>
        if r.2 < (b.chunk size steps).toNat then pure (b.after r)
        else batchesUpTo dt size steps limit (b.after r) := by
  obtain ⟨-, -, hchunk⟩ := chunk_bounds hsize (isOpen_iff.1 hopen).1
  rw [batchesUpTo_open hopen, next_eq, bind_assoc]
  refine Noted.bind_congr ?_
  have hshort (taken : Nat) :
      (taken : Int) < b.chunk size steps ↔ taken < (b.chunk size steps).toNat := by omega
  rw [pure_bind]
  simp only [decide_eq_true_eq, hshort]

/-- Batches make the steps that are left, as one run would. -/
theorem batchesUpTo_outcome {size : Int} (hsize : 0 < size) (dt : StepSize) (steps : Nat) :
    ∀ (limit : Nat) (b : Batches), steps - b.completed ≤ limit →
      Batches.outcome <$> batchesUpTo dt size steps limit b =
        (fun r => (r.1, b.completed + r.2)) <$> run dt (steps - b.completed) b.model
  | 0, b, hlimit => by
    have hleft : steps - b.completed = 0 := by omega
    rw [hleft]
    rfl
  | limit + 1, b, hlimit => by
    rcases hopen : b.isOpen steps with _ | _
    · rw [batchesUpTo_closed hopen]
      rcases not_isOpen hopen with hleft | hend
      · rw [hleft]
        rfl
      · rw [run_terminated hend]
        rfl
    · obtain ⟨hcompleted, hrun⟩ := isOpen_iff.1 hopen
      obtain ⟨hpositive, hfits, -⟩ := chunk_bounds hsize hcompleted
      generalize hchunk : (b.chunk size steps).toNat = chunk at hpositive hfits
      have hleft : steps - b.completed = chunk + (steps - (b.completed + chunk)) := by omega
      rw [batchesUpTo_chunk hsize hopen, hchunk, hleft, run_add, map_bind, map_bind]
      refine Noted.bind_congr ?_
      rw [Functor.map_map]
      have hle := run_le dt chunk b.model
      rcases Nat.lt_or_eq_of_le hle with hshort | hfull
      · rw [if_pos hshort, run_terminated (isTerminated_of_short hshort)]
        rfl
      · rw [if_neg (by omega), batchesUpTo_outcome hsize dt steps limit _ (by
          simp only [Batches.after]; omega)]
        simp only [Batches.after, hfull, Nat.add_assoc]

/-- The counts that have been seen grow up to the steps made, and all before that are multiples of
the size. -/
structure Batches.Regular (size : Int) (b : Batches) : Prop where
  increasing : b.seen.Pairwise (· < ·)
  bounded : ∀ c ∈ b.seen, c ≤ b.completed
  last : b.seen.getLast?.getD 0 = b.completed
  full : ∀ c ∈ b.seen, c < b.completed → size ∣ c

theorem regular_start (size : Int) (m : Model) : Batches.Regular size ⟨m, 0, []⟩ := by
  constructor <;> simp

/-- A batch that makes steps, and before which there were full batches only, keeps the counts
regular. -/
theorem Batches.Regular.after {b : Batches} {size : Int} (h : b.Regular size) {r : Model × Nat}
    (htaken : 0 < r.2) (hfull : size ∣ b.completed) : (b.after r).Regular size := by
  constructor
  · refine List.pairwise_append.2 ⟨h.increasing, List.pairwise_singleton _ _, fun c hc d hd => ?_⟩
    have := h.bounded c hc
    rw [List.mem_singleton.1 hd]
    omega
  · intro c hc
    rcases List.mem_append.1 hc with hc | hc
    · exact Nat.le_add_right_of_le (h.bounded c hc)
    · exact Nat.le_of_eq (List.mem_singleton.1 hc)
  · simp [Batches.after]
  · intro c hc hlt
    rcases List.mem_append.1 hc with hc | hc
    · rcases Nat.lt_or_eq_of_le (h.bounded c hc) with hlt | rfl
      · exact h.full c hc hlt
      · exact hfull
    · exact absurd hlt (Nat.not_lt_of_ge (Nat.le_of_eq (List.mem_singleton.1 hc).symm))

/-- A batch of a model that has not ended makes at least one step. -/
theorem run_pos {m : Model} (h : m.isTerminated = false) (dt : StepSize) {chunk : Nat}
    (hchunk : 0 < chunk) : 0 < (run dt chunk m).result.2 := by
  obtain ⟨chunk, rfl⟩ := Nat.exists_eq_succ_of_ne_zero (Nat.ne_of_gt hchunk)
  rw [run_running h]
  exact Nat.succ_pos _

/-- A batch that is not the last one is full. -/
theorem chunk_full {b : Batches} {size : Int} {steps : Nat}
    (h : b.completed + (b.chunk size steps).toNat < steps) : b.chunk size steps = size := by
  unfold Batches.chunk at *
  omega

theorem batchesUpTo_regular {size : Int} (hsize : 0 < size) (dt : StepSize) (steps : Nat) :
    ∀ (limit : Nat) (b : Batches), b.Regular size → (b.completed < steps → size ∣ b.completed) →
      (batchesUpTo dt size steps limit b).result.Regular size
  | 0, _, h, _ => h
  | limit + 1, b, h, hfull => by
    rcases hopen : b.isOpen steps with _ | _
    · rw [batchesUpTo_closed hopen]
      exact h
    · obtain ⟨hcompleted, hrun⟩ := isOpen_iff.1 hopen
      obtain ⟨hpositive, -, hchunk⟩ := chunk_bounds hsize hcompleted
      have hnext := h.after (run_pos hrun dt hpositive) (hfull hcompleted)
      rw [batchesUpTo_chunk hsize hopen, Noted.result_bind]
      split
      · exact hnext
      · rename_i hlong
        have htaken : (run dt (b.chunk size steps).toNat b.model).result.2 =
            (b.chunk size steps).toNat :=
          Nat.le_antisymm (run_le _ _ _) (Nat.not_lt.1 hlong)
        refine batchesUpTo_regular hsize dt steps limit _ hnext fun hlt => ?_
        simp only [Batches.after, htaken] at hlt ⊢
        rw [Int.natCast_add, hchunk, chunk_full hlt]
        exact Int.dvd_add (hfull hcompleted) (Int.dvd_refl size)

/-- The counts that have been seen, all but the last, are multiples of the size. -/
theorem Batches.Regular.dvd_of_mem_dropLast {b : Batches} {size : Int} (h : b.Regular size)
    {c : Nat} (hc : c ∈ b.seen.dropLast) : size ∣ c := by
  have hmem : c ∈ b.seen := (List.dropLast_sublist _).subset hc
  have hseen : b.seen ≠ [] := List.ne_nil_of_mem hmem
  have hlast : b.seen.getLast hseen = b.completed := by
    rw [← h.last, List.getLast?_eq_some_getLast hseen]
    rfl
  have hincreasing := h.increasing
  rw [← List.dropLast_concat_getLast hseen, hlast] at hincreasing
  exact h.full c hmem ((List.pairwise_append.1 hincreasing).2.2 c hc _ (List.mem_singleton.2 rfl))

theorem stepSize_real (dt : StepSize) : stepSize (.real dt.value) = .ok dt :=
  dif_pos ⟨dt.finite, dt.positive⟩

/-- A run of steps that are counted by a whole number is a run of as many steps, of none if the
number is below zero. -/
theorem runWith_whole (m : Model) (dt : StepSize) (steps : Int) :
    m.runWith (.whole steps) (.real dt.value) = .ok (run dt steps.toNat m) := by
  have hcount : stepCount (.whole steps) = .ok steps.toNat := rfl
  simp only [runWith, hcount, bind, Except.bind]
  split
  · rename_i h
    simp only [Bool.or_eq_true, decide_eq_true_eq] at h
    rcases h with h | h
    · rw [h]
      rfl
    · rw [run_terminated h]
      rfl
  · rw [stepSize_real]
    rfl

theorem runBatchedWith_whole (m : Model) (dt : StepSize) (size : Option Int) (steps : Int) :
    m.runBatchedWith (.whole steps) (.real dt.value) size =
      .ok (m.runBatched dt size steps.toNat) := by
  have hcount : stepCount (.whole steps) = .ok steps.toNat := rfl
  simp only [runBatchedWith, hcount, bind, Except.bind]
  split
  · rename_i h
    have hclosed : Batches.isOpen ⟨m, 0, []⟩ steps.toNat = false := by
      simp only [Bool.or_eq_true, decide_eq_true_eq] at h
      rcases h with h | h <;> simp [Batches.isOpen, h]
    rw [runBatched, batchesFrom_closed hclosed]
    rfl
  · split
    · rename_i hnegative
      rw [runBatched_idle hnegative, runBatched_idle hnegative]
      rfl
    · rw [stepSize_real]
      rfl

/-- For any number of steps and any size of batches that is not below zero, a run in batches leaves
the model that one run leaves, counts the steps that it counts and notes what it notes: it makes
steps until the model has ended or all are made. The counts seen after the batches grow; all but the
last are multiples of the size, and the last is the count of all steps. -/
theorem runBatched_eq_run (m : Model) (dt : StepSize) {size : Option Int}
    (hsize : ∀ n ∈ size, 0 ≤ n) (steps : Int) :
    m.runBatchedWith (.whole steps) (.real dt.value) size =
        .ok (m.runBatched dt size steps.toNat) ∧
      m.runWith (.whole steps) (.real dt.value) =
        .ok (Batches.outcome <$> m.runBatched dt size steps.toNat) ∧
      (∃ n, m.StopsAfter dt steps.toNat n ∧
        Batches.outcome <$> m.runBatched dt size steps.toNat =
          (fun next => (next, n)) <$> stepTimes dt n m) ∧
      (m.runBatched dt size steps.toNat).result.seen.Pairwise (· < ·) ∧
      (∀ c ∈ (m.runBatched dt size steps.toNat).result.seen.dropLast,
        batchSize size steps.toNat ∣ c) ∧
      (m.runBatched dt size steps.toNat).result.seen.getLast?.getD 0 =
        (m.runBatched dt size steps.toNat).result.completed := by
  have hpositive := batchSize_pos hsize steps.toNat
  have houtcome : Batches.outcome <$> m.runBatched dt size steps.toNat = run dt steps.toNat m := by
    rw [runBatched_bounded hpositive,
      batchesUpTo_outcome hpositive dt steps.toNat _ _ (Nat.sub_le _ _)]
    simp
  have hregular : (m.runBatched dt size steps.toNat).result.Regular
      (batchSize size steps.toNat) := by
    rw [runBatched_bounded hpositive]
    exact batchesUpTo_regular hpositive dt steps.toNat _ _ (regular_start _ m)
      fun _ => Int.dvd_zero _
  refine ⟨m.runBatchedWith_whole dt size steps, ?_, ?_, hregular.increasing,
    fun c hc => hregular.dvd_of_mem_dropLast hc, hregular.last⟩
  · rw [houtcome, runWith_whole]
  · rw [houtcome]
    exact run_stops dt steps.toNat m

/-- A stock that grows by one in every step, until it holds five. -/
def counter : String :=
  "stock S \x7b\n\x7d\nflow A \x7b\nto: S\nrate: 1\n\x7d\n" ++
  "terminate \x7b\nwhen: S >= 5\n\x7d"

/-- Nine steps of the counter in batches of two, of which the third falls short. -/
theorem runBatched_eq_run_counter :
    (∀ n ∈ some (2 : Int), 0 ≤ n) ∧
      ((ofText .default counter).result.runBatched
        ⟨1.0, by decide, by decide⟩ (some 2) 9).result.seen = [2, 4, 5] ∧
      (ofText .default counter).result.runWith (.whole 9) (.real 1.0) =
        .ok (Batches.outcome <$> (ofText .default counter).result.runBatched
          ⟨1.0, by decide, by decide⟩ (some 2) 9) := by
  have hsize : ∀ n ∈ some (2 : Int), 0 ≤ n := by simp
  obtain ⟨-, hrun, -⟩ :=
    runBatched_eq_run (ofText .default counter).result ⟨1.0, by decide, by decide⟩ hsize 9
  refine ⟨hsize, ?_, hrun⟩
  rw [runBatched_bounded (by decide)]
  decide +kernel

end Model

end SystemDynamics
