import SystemDynamics.Proofs.Lines

/-!
# Patterns

A pattern is matched against the start of a text. Where there are several ways to match it, they
are tried in an order (`Pattern.ways`): characters of a class go on as far as they can before fewer
are tried, and of two alternatives the one that is written first comes first. What is found is the
first way (`Pattern.first?`); later ones are for what follows if it does not match behind the first.

So what a row of characters takes depends on what follows it. If it cannot begin inside of the row,
or if it does not matter to it where it begins there (`Pattern.Skips`), the row is taken as a whole
(`Pattern.Skips.groups?_many`, `Pattern.Skips.groups?_row`).
-/

namespace SystemDynamics

/-- A way to match the start of a text: the characters that it takes, those of them that are marked,
mark by mark, and the rest of the text. -/
structure Match where
  taken : List Char
  groups : List (List Char)
  rest : List Char

namespace Match

/-- Nothing is taken. -/
def start (cs : List Char) : Match := ⟨[], [], cs⟩

/-- One more character is taken in front. -/
def behind (c : Char) (m : Match) : Match := { m with taken := c :: m.taken }

/-- What is taken behind a match belongs to the match. -/
def followedBy (m n : Match) : Match := ⟨m.taken ++ n.taken, m.groups ++ n.groups, n.rest⟩

/-- What is taken is marked. -/
def marked (m : Match) : Match := { m with groups := m.taken :: m.groups }

end Match

inductive Pattern where
  | empty
  /-- A character of a class. -/
  | one (p : Char → Bool)
  /-- Any number of characters of a class. -/
  | many (p : Char → Bool)
  | both (a b : Pattern)
  | either (a b : Pattern)
  /-- What the pattern takes is marked. -/
  | group (a : Pattern)
  /-- The end of the text, or a line feed at the end. -/
  | finish

namespace Pattern

/-- At least one character of a class. -/
def row (p : Char → Bool) : Pattern := both (one p) (many p)

def optional (a : Pattern) : Pattern := either a empty

/-- Patterns one behind the other. -/
def seq (as : List Pattern) : Pattern := as.foldr both empty

/-- The ways to take any number of characters of a class, the most first. -/
@[simp] def runs (p : Char → Bool) : List Char → List Match
  | [] => [.start []]
  | c :: cs => (if p c then (runs p cs).map (Match.behind c) else []) ++ [.start (c :: cs)]

/-- The ways to match a pattern at the start of a text, in the order in which they are tried. -/
@[simp] def ways : Pattern → List Char → List Match
  | empty, cs => [.start cs]
  | one _, [] => []
  | one p, c :: cs => if p c then [⟨[c], [], cs⟩] else []
  | many p, cs => runs p cs
  | both a b, cs => (a.ways cs).flatMap fun m => (b.ways m.rest).map m.followedBy
  | either a b, cs => a.ways cs ++ b.ways cs
  | group a, cs => (a.ways cs).map Match.marked
  | finish, cs => if cs = [] ∨ cs = ['\n'] then [.start cs] else []

/-- The first way to match a pattern. -/
def first? (a : Pattern) (cs : List Char) : Option Match := (a.ways cs).head?

/-- What is marked in the first way to match a pattern. -/
def groups? (a : Pattern) (cs : List Char) : Option (List (List Char)) :=
  (a.first? cs).map Match.groups

/-- The texts that a pattern can take. -/
def Writes : Pattern → List Char → Prop
  | empty, w => w = []
  | one p, w => ∃ c, w = [c] ∧ p c = true
  | many p, w => ∀ c ∈ w, p c = true
  | both a b, w => ∃ u v, w = u ++ v ∧ a.Writes u ∧ b.Writes v
  | either a b, w => a.Writes w ∨ b.Writes w
  | group a, w => a.Writes w
  | finish, w => w = []

variable {p : Char → Bool} {a b : Pattern} {cs : List Char}

/-! ## What is taken -/

theorem mem_runs {m : Match} : ∀ {cs : List Char}, m ∈ runs p cs →
    cs = m.taken ++ m.rest ∧ ∀ c ∈ m.taken, p c = true
  | [], h => by
    obtain rfl := List.mem_singleton.1 h
    exact ⟨rfl, nofun⟩
  | c :: cs, h => by
    rw [runs, List.mem_append, List.mem_singleton] at h
    rcases h with h | rfl
    · split at h
      · rename_i hc
        obtain ⟨m, hm, rfl⟩ := List.mem_map.1 h
        obtain ⟨hcs, htaken⟩ := mem_runs hm
        exact ⟨congrArg (c :: ·) hcs, List.forall_mem_cons.2 ⟨hc, htaken⟩⟩
      · cases h
    · exact ⟨rfl, nofun⟩

/-- A match divides the text into one that the pattern can take and the rest. -/
theorem of_mem_ways {m : Match} : ∀ {a : Pattern} {cs : List Char}, m ∈ a.ways cs →
    cs = m.taken ++ m.rest ∧ a.Writes m.taken := by
  intro a
  induction a generalizing m with
  | empty =>
    rintro cs (_ | ⟨_, ⟨⟩⟩)
    exact ⟨rfl, rfl⟩
  | one p =>
    rintro (_ | ⟨c, cs⟩) h
    · cases h
    · rw [ways] at h
      split at h
      · rename_i hc
        obtain rfl := List.mem_singleton.1 h
        exact ⟨rfl, c, rfl, hc⟩
      · cases h
  | many p => exact mem_runs
  | both a b iha ihb =>
    intro cs h
    obtain ⟨m, hm, h⟩ := List.mem_flatMap.1 h
    obtain ⟨n, hn, rfl⟩ := List.mem_map.1 h
    obtain ⟨hcs, ha⟩ := iha hm
    obtain ⟨hrest, hb⟩ := ihb hn
    refine ⟨?_, m.taken, n.taken, rfl, ha, hb⟩
    rw [hcs, hrest, Match.followedBy, List.append_assoc]
  | either a b iha ihb =>
    intro cs h
    rcases List.mem_append.1 h with h | h
    · exact (iha h).imp_right .inl
    · exact (ihb h).imp_right .inr
  | group a iha =>
    intro cs h
    obtain ⟨m, hm, rfl⟩ := List.mem_map.1 h
    have hinner := iha hm
    exact hinner
  | finish =>
    intro cs h
    rw [ways] at h
    split at h
    · obtain rfl := List.mem_singleton.1 h
      exact ⟨rfl, rfl⟩
    · cases h

/-- What is left behind two patterns is left behind the second. -/
theorem exists_second {m : Match} (h : m ∈ (both a b).ways cs) :
    ∃ cs, ∃ n ∈ b.ways cs, n.rest = m.rest := by
  obtain ⟨m, -, h⟩ := List.mem_flatMap.1 h
  obtain ⟨n, hn, rfl⟩ := List.mem_map.1 h
  exact ⟨m.rest, n, hn, rfl⟩

theorem rest_of_mem_finish {m : Match} (h : m ∈ finish.ways cs) :
    m.rest = [] ∨ m.rest = ['\n'] := by
  rw [ways] at h
  split at h
  · obtain rfl := List.mem_singleton.1 h
    assumption
  · cases h

theorem Writes.of_row {w : List Char} (h : (row p).Writes w) : w ≠ [] ∧ ∀ c ∈ w, p c = true := by
  obtain ⟨_, cs, rfl, ⟨c, rfl, hc⟩, hcs⟩ := h
  exact ⟨List.cons_ne_nil c cs, List.forall_mem_cons.2 ⟨hc, hcs⟩⟩

/-! ## The first way -/

theorem first?_empty (cs : List Char) : empty.first? cs = some (.start cs) := rfl

theorem first?_one_cons (p : Char → Bool) (c : Char) (cs : List Char) :
    (one p).first? (c :: cs) = if p c then some ⟨[c], [], cs⟩ else none := by
  rw [first?, ways]
  split <;> rfl

/-- Behind each way to match the first of two patterns the second is tried. -/
theorem first?_both (a b : Pattern) (cs : List Char) :
    (both a b).first? cs =
      (a.ways cs).findSome? fun m => (b.first? m.rest).map m.followedBy := by
  rw [first?, ways, List.head?_flatMap]
  simp only [List.head?_map]
  rfl

theorem first?_both_of_some {m n : Match} (ha : a.first? cs = some m)
    (hb : b.first? m.rest = some n) : (both a b).first? cs = some (m.followedBy n) := by
  obtain ⟨ms, hms⟩ := List.head?_eq_some_iff.1 ha
  rw [first?_both, hms, List.findSome?_cons, hb]
  rfl

theorem first?_both_of_none (ha : a.first? cs = none) : (both a b).first? cs = none := by
  rw [first?_both, List.head?_eq_none_iff.1 ha]
  rfl

theorem first?_either (a b : Pattern) (cs : List Char) :
    (either a b).first? cs = (a.first? cs).or (b.first? cs) := List.head?_append

/-- What is optional is taken where it can be. -/
theorem first?_optional (a : Pattern) (cs : List Char) :
    (optional a).first? cs = some ((a.first? cs).getD (.start cs)) := by
  rw [optional, first?_either, first?_empty]
  cases a.first? cs <;> rfl

theorem first?_one_both_cons (p : Char → Bool) (b : Pattern) (c : Char) (cs : List Char) :
    (both (one p) b).first? (c :: cs) = if p c then (b.first? cs).map (Match.behind c) else none := by
  rw [first?_both, ways]
  split
  · rw [List.findSome?_singleton]
    rfl
  · rfl

/-- What stands behind an optional character is tried behind it first, and else in its place. -/
theorem first?_optional_both (p : Char → Bool) (b : Pattern) (cs : List Char) :
    (both (optional (one p)) b).first? cs =
      ((both (one p) b).first? cs).or (b.first? cs) := by
  have hskip : (b.first? cs).map (Match.start cs).followedBy = b.first? cs := Option.map_id'
  rw [first?_both, optional, ways, List.findSome?_append, ← first?_both, ways,
    List.findSome?_singleton]
  exact congrArg (Option.or _) hskip

theorem first?_many (p : Char → Bool) : ∀ cs : List Char,
    (many p).first? cs = some ⟨cs.takeWhile p, [], cs.dropWhile p⟩
  | [] => rfl
  | c :: cs => by
    have hrest : (runs p cs).head? = some ⟨cs.takeWhile p, [], cs.dropWhile p⟩ := first?_many p cs
    rw [first?, ways, runs, List.head?_append]
    rcases hc : p c with _ | _
    · rw [List.takeWhile_cons_of_neg (by simp [hc]), List.dropWhile_cons_of_neg (by simp [hc])]
      rfl
    · rw [if_pos rfl, List.head?_map, hrest, List.takeWhile_cons_of_pos hc,
        List.dropWhile_cons_of_pos hc]
      rfl

theorem first?_row (p : Char → Bool) (cs : List Char) :
    (row p).first? cs = match cs.takeWhile p with
      | [] => none
      | taken => some ⟨taken, [], cs.dropWhile p⟩ := by
  cases cs with
  | nil => rfl
  | cons c cs =>
    have hone := first?_one_cons p c cs
    rcases hc : p c with _ | _
    · rw [List.takeWhile_cons_of_neg (by simp [hc])]
      rw [hc, if_neg Bool.false_ne_true] at hone
      exact first?_both_of_none hone
    · rw [List.takeWhile_cons_of_pos hc, List.dropWhile_cons_of_pos hc]
      rw [hc, if_pos rfl] at hone
      exact first?_both_of_some hone (first?_many p cs)

/-! ## What is marked -/

theorem groups?_both (a b : Pattern) (cs : List Char) :
    (both a b).groups? cs =
      (a.ways cs).findSome? fun m => (b.groups? m.rest).map (m.groups ++ ·) := by
  rw [groups?, first?_both, List.map_findSome?]
  refine congrArg (List.findSome? · _) (funext fun m => ?_)
  rw [Function.comp_apply, groups?, Option.map_map, Option.map_map]
  rfl

theorem groups?_one_cons (p : Char → Bool) (b : Pattern) (c : Char) (cs : List Char) :
    (both (one p) b).groups? (c :: cs) = if p c then b.groups? cs else none := by
  rw [groups?_both, ways]
  split
  · rw [List.findSome?_singleton]
    exact Option.map_id'
  · rfl

/-- A repetition takes one more character first, and else stops. -/
theorem findSome?_runs_cons {α : Type} (p : Char → Bool) (f : Match → Option α) (c : Char)
    (cs : List Char) :
    (runs p (c :: cs)).findSome? f =
      (if p c then (runs p cs).findSome? (f ∘ Match.behind c) else none).or
        (f (.start (c :: cs))) := by
  rw [runs, List.findSome?_append, List.findSome?_singleton]
  split
  · rw [List.findSome?_map]
  · rfl

theorem groups?_many_cons (p : Char → Bool) (b : Pattern) (c : Char) (cs : List Char) :
    (both (many p) b).groups? (c :: cs) =
      if p c then ((both (many p) b).groups? cs).or (b.groups? (c :: cs))
      else b.groups? (c :: cs) := by
  have hstop : (b.groups? (c :: cs)).map ([] ++ ·) = b.groups? (c :: cs) := Option.map_id'
  rw [groups?_both, groups?_both, ways, findSome?_runs_cons]
  split
  · exact congrArg (Option.or _) hstop
  · rw [Option.none_or]
    exact hstop

/-! ## Rows of characters -/

/-- Where the pattern matches in a row of characters of a class, it does so behind one more of them,
and marks the same. -/
def Skips (p : Char → Bool) (b : Pattern) : Prop :=
  ∀ c cs, p c = true → b.groups? (c :: cs) = none ∨ b.groups? (c :: cs) = b.groups? cs

theorem Skips.dropWhile (h : Skips p b) : ∀ cs : List Char,
    b.groups? cs = none ∨ b.groups? cs = b.groups? (cs.dropWhile p)
  | [] => .inr rfl
  | c :: cs => by
    rcases hc : p c with _ | _
    · rw [List.dropWhile_cons_of_neg (by simp [hc])]
      exact .inr rfl
    · rw [List.dropWhile_cons_of_pos hc]
      rcases h c cs hc with hnone | hsame
      · exact .inl hnone
      · rw [hsame]
        exact h.dropWhile cs

/-- What follows a row of characters matches behind the whole row if it matches at all. -/
theorem Skips.findSome?_runs (h : Skips p b) {α : Type} : ∀ (cs : List Char)
    (f : Match → List (List Char) → α),
    (runs p cs).findSome? (fun m => (b.groups? m.rest).map (f m)) =
      (b.groups? (cs.dropWhile p)).map (f ⟨cs.takeWhile p, [], cs.dropWhile p⟩)
  | [], f => List.findSome?_singleton
  | c :: cs, f => by
    rw [findSome?_runs_cons]
    rcases hc : p c with _ | _
    · rw [List.dropWhile_cons_of_neg (by simp [hc]), List.takeWhile_cons_of_neg (by simp [hc])]
      rfl
    · have hmore := h.findSome?_runs cs (f ∘ Match.behind c)
      rw [List.dropWhile_cons_of_pos hc, List.takeWhile_cons_of_pos hc, if_pos rfl]
      refine (congrArg (Option.or · _) hmore).trans ?_
      have hstop := h.dropWhile (c :: cs)
      rw [List.dropWhile_cons_of_pos hc] at hstop
      rcases hfound : b.groups? (cs.dropWhile p) with _ | gs
      · rw [hfound, or_self_iff] at hstop
        simp [Match.start, hstop]
      · rfl

theorem Skips.groups?_many (h : Skips p b) (cs : List Char) :
    (both (many p) b).groups? cs = b.groups? (cs.dropWhile p) := by
  rw [groups?_both, ways, h.findSome?_runs cs fun m => (m.groups ++ ·)]
  exact Option.map_id'

/-- A marked row is the whole row. -/
theorem Skips.groups?_row (h : Skips p b) (cs : List Char) :
    (both (group (row p)) b).groups? cs =
      if cs.takeWhile p = [] then none
      else (b.groups? (cs.dropWhile p)).map (cs.takeWhile p :: ·) := by
  cases cs with
  | nil => rfl
  | cons c cs =>
    rcases hc : p c with _ | _
    · have hnone : (group (row p)).ways (c :: cs) = [] := by
        simp [row, hc]
      rw [List.takeWhile_cons_of_neg (by simp [hc]), if_pos rfl, groups?_both, hnone]
      rfl
    · have hways : (group (row p)).ways (c :: cs) =
          (runs p cs).map fun m => ((⟨[c], [], cs⟩ : Match).followedBy m).marked := by
        simp [row, hc]
      rw [List.takeWhile_cons_of_pos hc, List.dropWhile_cons_of_pos hc,
        if_neg (List.cons_ne_nil _ _), groups?_both, hways, List.findSome?_map]
      exact h.findSome?_runs cs fun m gs => (c :: m.taken) :: (m.groups ++ gs)

/-- A character that is not in the class ends every row of it. -/
theorem skips_one {q : Char → Bool} (h : ∀ c, p c = true → q c = false) (b : Pattern) :
    Skips p (both (one q) b) := by
  intro c cs hc
  rw [groups?_one_cons, h c hc, if_neg Bool.false_ne_true]
  exact .inl rfl

theorem Skips.many {q : Char → Bool} (hb : Skips q b) (h : ∀ c, p c = true → q c = true) :
    Skips p (both (many q) b) := by
  intro c cs hc
  rw [hb.groups?_many, hb.groups?_many, List.dropWhile_cons_of_pos (h c hc)]
  exact .inr rfl

end Pattern

end SystemDynamics
