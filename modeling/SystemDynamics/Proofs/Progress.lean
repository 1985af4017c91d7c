import SystemDynamics.Model.Batch
import SystemDynamics.Model.Load

/-!
# Progress of batches

The loop that makes batches has a result exactly if finitely many batches get it to one that is the
last (`batchesFrom_isSome_iff`). Batches of a size above zero make at least one step each, so that
there are at most as many as steps (`Batches.Passes.le`) and the loop is a bounded one
(`batchesFrom_bounded`). Batches of a size below zero change nothing, so that the loop comes to each
as it came to the first (`Batches.passes_negative`). From these two it follows which runs end, and
that the others make no progress at all (`batches_progress_iff`).
-/

namespace SystemDynamics

namespace Model

namespace Batches

variable {b c : Batches} {dt : StepSize} {size : Int} {steps n : Nat}

theorem isOpen_iff : b.isOpen steps = true ↔
    b.completed < steps ∧ b.model.isTerminated = false := by
  simp [isOpen]

theorem not_isOpen (h : b.isOpen steps = false) :
    steps - b.completed = 0 ∨ b.model.isTerminated = true := by
  simp only [isOpen, Bool.and_eq_false_iff, decide_eq_false_iff_not, Bool.not_eq_false'] at h
  exact h.imp_left fun h => by omega

/-- A batch that is due has steps to make, and not more than are left. -/
theorem chunk_bounds (hsize : 0 < size) (hopen : b.completed < steps) :
    0 < (b.chunk size steps).toNat ∧ (b.chunk size steps).toNat ≤ steps - b.completed ∧
      ((b.chunk size steps).toNat : Int) = b.chunk size steps := by
  unfold chunk
  omega

/-- The batches after one more has brought the model so far. -/
def after (b : Batches) (r : Model × Nat) : Batches :=
  ⟨r.1, b.completed + r.2, b.seen ++ [b.completed + r.2]⟩

theorem next_eq (dt : StepSize) : b.next dt size steps =
    run dt (b.chunk size steps).toNat b.model >>= fun r =>
      pure (b.after r, decide ((r.2 : Int) < b.chunk size steps)) := rfl

/-- A batch that is due and does not fall short makes a step. -/
theorem completed_lt_next (hsize : 0 < size) (hopen : b.isOpen steps = true)
    (hlong : (b.next dt size steps).result.2 = false) :
    b.completed < (b.next dt size steps).result.1.completed := by
  obtain ⟨hpositive, -, hchunk⟩ := chunk_bounds hsize (isOpen_iff.1 hopen).1
  rw [next_eq] at hlong ⊢
  simp only [Noted.result_bind, Noted.result_pure, decide_eq_false_iff_not, after] at hlong ⊢
  omega

/-- A batch of a size below zero makes no step and does not fall short. -/
theorem next_negative (hsize : size < 0) (b : Batches) (dt : StepSize) (steps : Nat) :
    b.next dt size steps = pure ({ b with seen := b.seen ++ [b.completed] }, false) := by
  have hchunk : b.chunk size steps < 0 := by
    unfold chunk
    omega
  have hnone : (b.chunk size steps).toNat = 0 := by omega
  have hlong : ¬ ((0 : Nat) : Int) < b.chunk size steps := by omega
  rw [next_eq, hnone, run, pure_bind, after]
  simp only [hlong, decide_false, Nat.add_zero]

/-- So many batches lead from one state of the loop to another, none of which is the last. -/
inductive Passes (dt : StepSize) (size : Int) (steps : Nat) : Nat → Batches → Batches → Prop
  | none {b : Batches} : Passes dt size steps 0 b b
  | more {n : Nat} {b c : Batches} :
    b.isOpen steps = true → (b.next dt size steps).result.2 = false →
    Passes dt size steps n (b.next dt size steps).result.1 c → Passes dt size steps (n + 1) b c

/-- No batch follows, or one that falls short. -/
def IsFinal (dt : StepSize) (size : Int) (steps : Nat) (b : Batches) : Prop :=
  b.isOpen steps = true → (b.next dt size steps).result.2 = true

/-- The batch makes steps, or it is the last. -/
def Progresses (dt : StepSize) (size : Int) (steps : Nat) (b : Batches) : Prop :=
  b.completed < (b.next dt size steps).result.1.completed ∨
    (b.next dt size steps).result.2 = true ∨ (b.next dt size steps).result.1.isOpen steps = false

theorem Passes.of_closed (hclosed : b.isOpen steps = false) (h : Passes dt size steps n b c) :
    n = 0 ∧ c = b := by
  cases h with
  | none => exact ⟨rfl, rfl⟩
  | more hopen => exact absurd (hopen.symm.trans hclosed) (by decide)

/-- Of batches of a size above zero there are no more than steps that are left. -/
theorem Passes.le (hsize : 0 < size) (h : Passes dt size steps n b c) :
    n ≤ steps - b.completed := by
  induction h with
  | none => exact Nat.zero_le _
  | more hopen hlong _ ih =>
    have hleft := (isOpen_iff.1 hopen).1
    have hstep := completed_lt_next hsize hopen hlong
    omega

/-- Batches of a size below zero change nothing but the counts that have been seen. -/
theorem passes_negative (hsize : size < 0) (hopen : b.isOpen steps = true) :
    Passes dt size steps n b c ↔
      c = { b with seen := b.seen ++ List.replicate n b.completed } := by
  induction n generalizing b with
  | zero =>
    constructor
    · rintro ⟨⟩
      simp
    · rintro rfl
      simpa using Passes.none
  | succ n ih =>
    have hnext := next_negative hsize b dt steps
    have hrest := ih (b := { b with seen := b.seen ++ [b.completed] }) hopen
    constructor
    · rintro ⟨⟩
      rename_i hpasses
      rw [hnext] at hpasses
      rw [hrest.1 hpasses]
      simp [List.replicate_succ]
    · rintro rfl
      refine .more hopen (by rw [hnext]; rfl) ?_
      rw [hnext]
      refine hrest.2 ?_
      simp [List.replicate_succ]

end Batches

open Batches

section Loop

variable {b : Noted Batches} {dt : StepSize} {size : Int} {steps n : Nat} {c : Batches}

theorem batchesFrom_closed (hclosed : b.result.isOpen steps = false) (dt : StepSize) (size : Int) :
    Noted.batchesFrom dt size steps b = some b := by
  rw [Noted.batchesFrom, if_neg (Bool.eq_false_iff.1 hclosed)]

theorem batchesFrom_short (hopen : b.result.isOpen steps = true)
    (hshort : (b.result.next dt size steps).result.2 = true) :
    Noted.batchesFrom dt size steps b =
      some (Prod.fst <$> (b >>= fun b => b.next dt size steps)) := by
  rw [Noted.batchesFrom, if_pos hopen]
  exact if_pos hshort

theorem batchesFrom_long (hopen : b.result.isOpen steps = true)
    (hlong : (b.result.next dt size steps).result.2 = false) :
    Noted.batchesFrom dt size steps b =
      Noted.batchesFrom dt size steps (Prod.fst <$> (b >>= fun b => b.next dt size steps)) := by
  rw [Noted.batchesFrom, if_pos hopen]
  exact if_neg (Bool.eq_false_iff.1 hlong)

/-- What the loop gives comes out of finitely many batches. -/
theorem exists_passes_of_result {d : Noted Batches}
    (hd : Noted.batchesFrom dt size steps b = some d) :
    ∃ n c, Passes dt size steps n b.result c ∧ c.IsFinal dt size steps := by
  refine Noted.batchesFrom.partial_correctness dt size steps
    (fun b _ => ∃ n c, Passes dt size steps n b.result c ∧ c.IsFinal dt size steps)
    (fun loop ih b d hd => ?_) b d hd
  split at hd
  · rename_i hopen
    dsimp only at hd
    split at hd
    · rename_i hshort
      exact ⟨0, b.result, .none, fun _ => hshort⟩
    · rename_i hlong
      obtain ⟨n, c, hpasses, hfinal⟩ := ih _ _ hd
      exact ⟨n + 1, c, .more hopen (Bool.eq_false_iff.2 hlong) hpasses, hfinal⟩
  · rename_i hclosed
    exact ⟨0, b.result, .none, fun hopen => absurd hopen hclosed⟩

theorem batchesFrom_isSome_of_passes (hpasses : Passes dt size steps n b.result c)
    (hfinal : c.IsFinal dt size steps) : (Noted.batchesFrom dt size steps b).isSome = true := by
  generalize hb : b.result = start at hpasses
  induction hpasses generalizing b with
  | none =>
    subst hb
    rcases hopen : b.result.isOpen steps with _ | _
    · rw [batchesFrom_closed hopen]
      rfl
    · rw [batchesFrom_short hopen (hfinal hopen)]
      rfl
  | more hopen hlong _ ih =>
    subst hb
    rw [batchesFrom_long hopen hlong]
    exact ih hfinal rfl

/-- The loop has a result exactly if finitely many batches lead to one that is the last. -/
theorem batchesFrom_isSome_iff (dt : StepSize) (size : Int) (steps : Nat) (b : Noted Batches) :
    (Noted.batchesFrom dt size steps b).isSome = true ↔
      ∃ n c, Passes dt size steps n b.result c ∧ c.IsFinal dt size steps := by
  constructor
  · intro h
    obtain ⟨d, hd⟩ := Option.isSome_iff_exists.1 h
    exact exists_passes_of_result hd
  · rintro ⟨n, c, hpasses, hfinal⟩
    exact batchesFrom_isSome_of_passes hpasses hfinal

end Loop

/-- Batches until the steps are made, the run ends, or a batch falls short; at most as many as
`limit`. -/
def batchesUpTo (dt : StepSize) (size : Int) (steps : Nat) : Nat → Batches → Noted Batches
  | 0, b => return b
  | limit + 1, b => do
    if b.isOpen steps then
      let (b, short) ← b.next dt size steps
      if short then return b else batchesUpTo dt size steps limit b
    else
      return b

theorem batchesUpTo_closed {b : Batches} {steps : Nat} (hclosed : b.isOpen steps = false)
    (dt : StepSize) (size : Int) (limit : Nat) :
    batchesUpTo dt size steps limit b = pure b := by
  rcases limit with _ | limit
  · rfl
  · rw [batchesUpTo, if_neg (Bool.eq_false_iff.1 hclosed)]

theorem batchesUpTo_open {b : Batches} {steps : Nat} (hopen : b.isOpen steps = true)
    (dt : StepSize) (size : Int) (limit : Nat) :
    batchesUpTo dt size steps (limit + 1) b = b.next dt size steps >>= fun r =>
      if r.2 then pure r.1 else batchesUpTo dt size steps limit r.1 := by
  rw [batchesUpTo, if_pos hopen]

/-- Each batch of a size above zero makes a step, so that as many batches as steps suffice. -/
theorem batchesFrom_bounded {size : Int} (hsize : 0 < size) (dt : StepSize) (steps : Nat) :
    ∀ (limit : Nat) (b : Noted Batches), steps - b.result.completed ≤ limit →
      Noted.batchesFrom dt size steps b = some (b >>= batchesUpTo dt size steps limit) := by
  intro limit
  induction limit with
  | zero =>
    intro b hlimit
    have hclosed : b.result.isOpen steps = false := Bool.eq_false_iff.2 fun hopen => by
      have hleft := (isOpen_iff.1 hopen).1
      omega
    rw [batchesFrom_closed hclosed]
    exact congrArg some (bind_pure b).symm
  | succ limit ih =>
    intro b hlimit
    rcases hopen : b.result.isOpen steps with _ | _
    · rw [batchesFrom_closed hopen,
        Noted.bind_congr (g := pure) (batchesUpTo_closed hopen dt size _), bind_pure]
    · have hunfold : b >>= batchesUpTo dt size steps (limit + 1) =
          (b >>= fun b => b.next dt size steps) >>= fun r =>
            if r.2 then pure r.1 else batchesUpTo dt size steps limit r.1 :=
        (Noted.bind_congr (batchesUpTo_open hopen dt size limit)).trans (bind_assoc b _ _).symm
      rw [hunfold]
      rcases hshort : (b.result.next dt size steps).result.2 with _ | _
      · have hstep := completed_lt_next hsize hopen hshort
        have hnext : (Prod.fst <$> (b >>= fun b => b.next dt size steps)).result.completed =
            (b.result.next dt size steps).result.1.completed := rfl
        rw [batchesFrom_long hopen hshort, ih _ (by omega), bind_map_left]
        refine congrArg some (Noted.bind_congr ?_)
        exact (if_neg (Bool.eq_false_iff.1 hshort)).symm
      · rw [batchesFrom_short hopen hshort, map_eq_pure_bind]
        refine congrArg some (Noted.bind_congr ?_)
        exact (if_pos hshort).symm

/-- Batches of a size below zero have no end if one of them is due. -/
theorem batchesFrom_negative {size : Int} (hsize : size < 0) (dt : StepSize) (steps : Nat)
    {b : Noted Batches} (hopen : b.result.isOpen steps = true) :
    Noted.batchesFrom dt size steps b = none := by
  refine Option.not_isSome_iff_eq_none.1 fun h => ?_
  obtain ⟨n, c, hpasses, hfinal⟩ := (batchesFrom_isSome_iff dt size steps b).1 h
  rw [(passes_negative hsize hopen).1 hpasses] at hfinal
  have hshort := hfinal hopen
  rw [next_negative hsize] at hshort
  exact Bool.false_ne_true hshort

section Size

variable {size : Option Int}

theorem batchSize_pos (hsize : ∀ n ∈ size, 0 ≤ n) (steps : Nat) : 0 < batchSize size steps := by
  have hdefault : 0 < defaultBatchSize steps := by
    unfold defaultBatchSize
    omega
  unfold batchSize
  split
  · exact hdefault
  · exact hdefault
  · rename_i n hzero
    have hn := hsize n rfl
    have hne : n ≠ 0 := fun h => hzero (h ▸ rfl)
    omega

theorem batchSize_negative {n : Int} (hn : n < 0) (steps : Nat) : batchSize (some n) steps = n := by
  unfold batchSize
  split
  · rename_i heq
    cases heq
  · rename_i heq
    cases heq
    exact absurd hn (Int.lt_irrefl 0)
  · rename_i heq
    cases heq
    rfl

/-- The size of the batches is above zero unless a size below zero is set. -/
theorem batchSize_cases (size : Option Int) (steps : Nat) :
    0 < batchSize size steps ∨ ∃ n ∈ size, n < 0 ∧ batchSize size steps = n := by
  rcases size with _ | n
  · exact .inl (batchSize_pos (by simp) steps)
  · rcases Int.lt_or_le n 0 with hn | hn
    · exact .inr ⟨n, rfl, hn, batchSize_negative hn steps⟩
    · exact .inl (batchSize_pos (by simpa using hn) steps)

theorem runBatched_bounded {steps : Nat} (hsize : 0 < batchSize size steps) (m : Model)
    (dt : StepSize) :
    m.runBatched dt size steps =
      batchesUpTo dt (batchSize size steps) steps steps ⟨m, 0, []⟩ := by
  rw [runBatched, batchesFrom_bounded hsize dt steps steps _ (Nat.sub_le _ _), pure_bind]
  rfl

theorem runBatched_idle {steps : Nat} (hsize : batchSize size steps < 0) (m : Model)
    (dt : StepSize) : m.runBatched dt size steps = pure ⟨m, 0, []⟩ := by
  rw [runBatched]
  rcases hopen : Batches.isOpen ⟨m, 0, []⟩ steps with _ | _
  · rw [batchesFrom_closed hopen]
    rfl
  · rw [batchesFrom_negative hsize dt steps hopen]
    rfl

end Size

/-- Steps are asked for that can be made, but in batches of a size below zero. -/
def Endless (m : Model) (size : Option Int) (steps : Int) : Prop :=
  0 < steps ∧ m.isTerminated = false ∧ ∃ n ∈ size, n < 0

section Ends

variable {b : Batches} {dt : StepSize} {size : Int} {steps : Nat}

/-- Where the batches are of a size above zero, or none is due, each makes progress, and there are
at most as many as steps. -/
theorem batches_end (dt : StepSize) (hends : 0 < size ∨ b.isOpen steps = false) :
    (∀ n c, Passes dt size steps n b c →
      n ≤ steps ∧ (c.isOpen steps = true → c.Progresses dt size steps)) ∧
    (Noted.batchesFrom dt size steps (pure b)).isSome = true := by
  rcases hends with hsize | hclosed
  · refine ⟨fun n c hpasses =>
      ⟨Nat.le_trans (hpasses.le hsize) (Nat.sub_le _ _), fun hopen => ?_⟩, ?_⟩
    · rcases hshort : (c.next dt size steps).result.2 with _ | _
      · exact .inl (completed_lt_next hsize hopen hshort)
      · exact .inr (.inl hshort)
    · rw [batchesFrom_bounded hsize dt steps _ _ (Nat.le_refl _)]
      rfl
  · refine ⟨fun n c hpasses => ?_, ?_⟩
    · obtain ⟨rfl, rfl⟩ := hpasses.of_closed hclosed
      exact ⟨Nat.zero_le _, fun hopen => absurd (hopen.symm.trans hclosed) (by decide)⟩
    · rw [batchesFrom_closed hclosed]
      rfl

/-- Where batches of a size below zero are due, none of them makes progress. -/
theorem batches_idle (hsize : size < 0) (hopen : b.isOpen steps = true) :
    ¬ b.Progresses dt size steps := by
  rw [Progresses, next_negative hsize]
  rintro (hmore | hshort | hclosed)
  · exact Nat.lt_irrefl _ hmore
  · exact Bool.false_ne_true hshort
  · exact absurd (hopen.symm.trans hclosed) (by decide)

end Ends

/-- Every batch of a run makes steps or is the last, unless steps that can be made are asked for in
batches of a size below zero. Otherwise there are at most as many batches as steps, and the loop has
a result; but in that one case there is no end of batches, all of which leave the model as it is. -/
theorem batches_progress_iff (m : Model) (dt : StepSize) (size : Option Int) (steps : Int) :
    ((∀ n b, Passes dt (batchSize size steps.toNat) steps.toNat n ⟨m, 0, []⟩ b →
        b.isOpen steps.toNat = true → b.Progresses dt (batchSize size steps.toNat) steps.toNat) ↔
      ¬ m.Endless size steps) ∧
    ((Noted.batchesFrom dt (batchSize size steps.toNat) steps.toNat
        (pure ⟨m, 0, []⟩)).isSome = true ↔ ¬ m.Endless size steps) ∧
    (¬ m.Endless size steps →
      ∀ n b, Passes dt (batchSize size steps.toNat) steps.toNat n ⟨m, 0, []⟩ b →
        n ≤ steps.toNat) ∧
    (m.Endless size steps →
      ∀ n, Passes dt (batchSize size steps.toNat) steps.toNat n ⟨m, 0, []⟩
        ⟨m, 0, List.replicate n 0⟩) := by
  by_cases hendless : m.Endless size steps
  · obtain ⟨hsteps, hrun, n, hmem, hn⟩ := id hendless
    obtain rfl := Option.mem_def.1 hmem
    have hopen : Batches.isOpen ⟨m, 0, []⟩ steps.toNat = true :=
      isOpen_iff.2 ⟨by simpa using hsteps, hrun⟩
    rw [batchSize_negative hn]
    refine ⟨iff_of_false (fun h => ?_) (not_not_intro hendless),
      iff_of_false ?_ (not_not_intro hendless), fun h => absurd hendless h, fun _ k => ?_⟩
    · exact batches_idle hn hopen (h 0 _ .none hopen)
    · rw [batchesFrom_negative hn dt _ hopen]
      exact Bool.false_ne_true
    · exact (passes_negative hn hopen).2 rfl
  · have hends : 0 < batchSize size steps.toNat ∨
        Batches.isOpen ⟨m, 0, []⟩ steps.toNat = false := by
      refine (batchSize_cases size steps.toNat).imp_right fun ⟨n, hmem, hn, _⟩ => ?_
      refine Bool.eq_false_iff.2 fun hopen => hendless ?_
      obtain ⟨hsteps, hrun⟩ := isOpen_iff.1 hopen
      exact ⟨by simpa using hsteps, hrun, n, hmem, hn⟩
    obtain ⟨hpasses, hsome⟩ := batches_end dt hends
    exact ⟨iff_of_true (fun n b h => (hpasses n b h).2) hendless, iff_of_true hsome hendless,
      fun _ n b h => (hpasses n b h).1, fun h => absurd h hendless⟩

/-- A stock that nothing flows into or out of. -/
def puddle : String := "stock S {
}"

/-- One step in batches of size minus one: batch follows batch, none of them makes a step or is the
last, and there is no result. -/
theorem batches_progress_puddle :
    (∀ n, ∃ b, Passes .one (batchSize (some (-1)) 1) 1 n
      ⟨(ofText .default puddle).result, 0, []⟩ b ∧
        b.isOpen 1 = true ∧ ¬ b.Progresses .one (batchSize (some (-1)) 1) 1) ∧
      Noted.batchesFrom .one (batchSize (some (-1)) 1) 1
        (pure ⟨(ofText .default puddle).result, 0, []⟩) = none := by
  have hrun : (ofText .default puddle).result.isTerminated = false := by decide +kernel
  have hopen : Batches.isOpen ⟨(ofText .default puddle).result, 0, []⟩ 1 = true :=
    isOpen_iff.2 ⟨Nat.one_pos, hrun⟩
  have hsize : batchSize (some (-1)) 1 < 0 := by decide
  exact ⟨fun n => ⟨_, (passes_negative hsize hopen).2 rfl, hopen, batches_idle hsize hopen⟩,
    batchesFrom_negative hsize .one 1 hopen⟩

end Model

end SystemDynamics
