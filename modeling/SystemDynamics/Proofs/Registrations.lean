import SystemDynamics.Observers

/-!
# Registrations

An observer may change the registry while the registrations are called. A publication still calls
those that were there when it began, each once and in their order, whoever of them fails; the
changes are made in the order of the calls (`publish_delivers`). So a whole run delivers, for each
of its publications, what was registered before it (`performAll_journaled`).

An observer is removed by its oldest registration. So to subscribe an observer and to unsubscribe
it at once moves its oldest registration to the end, and changes nothing only if there is no other
observer behind it (`unsubscribe_subscribe_iff`).
-/

namespace SystemDynamics

namespace Registry

variable {κ σ ε : Type}

section Calls

/-- Observers that behave the same, who keep a journal of their calls. -/
def Behaviour.journaled (b : Behaviour κ σ ε) : Behaviour κ (σ × List (κ × ε)) ε where
  react s k e := (((b.react s.1 k e).1, s.2 ++ [(k, e)]), (b.react s.1 k e).2)
  display := b.display
  eventName := b.eventName

/-- What observers do who are called one after the other with an event. -/
def reactions (b : Behaviour κ σ ε) (e : ε) : List κ → σ → List (Reaction κ)
  | [], _ => []
  | k :: ks, s => (b.react s k e).2 :: reactions b e ks (b.react s k e).1

/-- The affairs of observers after they have been called one after the other with an event. -/
def affairsAfter (b : Behaviour κ σ ε) (e : ε) (ks : List κ) (s : σ) : σ :=
  ks.foldl (fun s k => (b.react s k e).1) s

/-- The log entries of those who failed. -/
def failures (b : Behaviour κ σ ε) (e : ε) (ks : List κ) (s : σ) : List LogEntry :=
  ((ks.zip (reactions b e ks s)).filter (·.2.failed)).map fun called =>
    failureEntry (b.display called.1) (b.eventName e)

theorem reactions_journaled (b : Behaviour κ σ ε) (e : ε) : ∀ (ks : List κ) (s : σ)
    (calls : List (κ × ε)), reactions b.journaled e ks (s, calls) = reactions b e ks s
  | [], _, _ => rfl
  | _ :: ks, _, _ => congrArg _ (reactions_journaled b e ks _ _)

theorem affairsAfter_journaled (b : Behaviour κ σ ε) (e : ε) : ∀ (ks : List κ) (s : σ)
    (calls : List (κ × ε)), affairsAfter b.journaled e ks (s, calls) =
      (affairsAfter b e ks s, calls ++ ks.map fun k => (k, e))
  | [], s, calls => Prod.ext rfl (List.append_nil calls).symm
  | k :: ks, s, calls => by
    have hrest := affairsAfter_journaled b e ks (b.react s k e).1 (calls ++ [(k, e)])
    rw [List.append_assoc] at hrest
    exact hrest

end Calls

variable [DecidableEq κ]

/-- Registrations after a change: one more at the end, or without the oldest one of an observer if
it has one. -/
def changed (ks : List κ) : RegistryChange κ → List κ
  | .subscribe k => ks ++ [k]
  | .unsubscribe k => ks.erase k

theorem observers_change (r : Registry κ) (c : RegistryChange κ) :
    (r.change c).observers = changed r.observers c := by
  cases c <;> rfl

theorem observers_foldl_change (cs : List (RegistryChange κ)) : ∀ r : Registry κ,
    cs.foldl change r = ⟨cs.foldl changed r.observers⟩ := by
  induction cs with
  | nil => exact fun _ => rfl
  | cons c cs ih =>
    intro r
    rw [List.foldl_cons, List.foldl_cons, ih, observers_change]

/-- Whatever the registry is by then, every observer on a list is called, and what they do to the
registry is done in the order of the calls. -/
theorem callAll_eq (b : Behaviour κ σ ε) (e : ε) : ∀ (ks : List κ) (r : Registry κ) (s : σ),
    callAll b e ks r s =
      (⟨((reactions b e ks s).flatMap Reaction.changes).foldl changed r.observers⟩,
        affairsAfter b e ks s, failures b e ks s)
  | [], _, _ => rfl
  | k :: ks, r, s => by
    have hrest := callAll_eq b e ks ((b.react s k e).2.changes.foldl change r) (b.react s k e).1
    rw [callAll]
    dsimp only
    rw [hrest, observers_foldl_change]
    refine Prod.ext ?_ (Prod.ext rfl ?_)
    · simp only [reactions, List.flatMap_cons, List.foldl_append]
    · rcases hfailed : (b.react s k e).2.failed with _ | _ <;>
        simp [failures, reactions, hfailed]

/-- What can be done with a registry. -/
inductive Action (κ ε : Type) where
  | change (c : RegistryChange κ)
  | publish (e : ε)

/-- A registry and the affairs of its observers after an action. -/
def perform (b : Behaviour κ σ ε) (w : Registry κ × σ) : Action κ ε → Registry κ × σ
  | .change c => (w.1.change c, w.2)
  | .publish e => ((publish b w.1 e w.2).1, (publish b w.1 e w.2).2.1)

/-- Several actions, one after the other. -/
def performAll (b : Behaviour κ σ ε) (actions : List (Action κ ε)) (w : Registry κ × σ) :
    Registry κ × σ :=
  actions.foldl (perform b) w

/-- What actions have to deliver: the event of each publication to the registrations before it. -/
def deliveries (b : Behaviour κ σ ε) : List (Action κ ε) → Registry κ × σ → List (κ × ε)
  | [], _ => []
  | .change c :: actions, w => deliveries b actions (perform b w (.change c))
  | .publish e :: actions, w =>
    (w.1.observers.map fun k => (k, e)) ++ deliveries b actions (perform b w (.publish e))

theorem publish_journaled (b : Behaviour κ σ ε) (r : Registry κ) (e : ε) (s : σ)
    (calls : List (κ × ε)) :
    publish b.journaled r e (s, calls) = ((publish b r e s).1,
      ((publish b r e s).2.1, calls ++ r.observers.map fun k => (k, e)), (publish b r e s).2.2) := by
  rw [publish, publish, callAll_eq, callAll_eq, reactions_journaled, affairsAfter_journaled,
    failures, failures, reactions_journaled]
  rfl

/-- Over a whole run the calls in the journal are those that its publications have to make, and
keeping the journal makes no difference otherwise. -/
theorem performAll_journaled (b : Behaviour κ σ ε) : ∀ (actions : List (Action κ ε))
    (r : Registry κ) (s : σ) (calls : List (κ × ε)),
    performAll b.journaled actions (r, (s, calls)) =
      ((performAll b actions (r, s)).1,
        ((performAll b actions (r, s)).2, calls ++ deliveries b actions (r, s)))
  | [], r, s, calls => Prod.ext rfl (Prod.ext rfl (List.append_nil calls).symm)
  | .change c :: actions, r, s, calls => performAll_journaled b actions (r.change c) s calls
  | .publish e :: actions, r, s, calls => by
    have hstep : perform b.journaled (r, (s, calls)) (.publish e) =
        ((publish b r e s).1,
          ((publish b r e s).2.1, calls ++ r.observers.map fun k => (k, e))) := by
      rw [perform, publish_journaled]
    have hrest := performAll_journaled b actions (publish b r e s).1 (publish b r e s).2.1
      (calls ++ r.observers.map fun k => (k, e))
    rw [performAll, List.foldl_cons, hstep, deliveries, ← List.append_assoc]
    exact hrest

/-- A publication calls the registrations that there are when it begins, each once and in their
order, whatever they do, and logs those who fail. It leaves the registry with what the called
observers did to it, in the order of the calls: a subscription comes last, and an unsubscription
removes the oldest registration of an observer, if there is one. So from any registry any
subscriptions, unsubscriptions and publications deliver each event to the registrations that there
were before its publication. -/
theorem publish_delivers (b : Behaviour κ σ ε) (r : Registry κ) (s : σ) (calls : List (κ × ε)) :
    (∀ e, publish b.journaled r e (s, calls) =
      (⟨((reactions b e r.observers s).flatMap Reaction.changes).foldl changed r.observers⟩,
        (affairsAfter b e r.observers s, calls ++ r.observers.map fun k => (k, e)),
        failures b e r.observers s)) ∧
    ∀ actions, performAll b.journaled actions (r, (s, calls)) =
      ((performAll b actions (r, s)).1,
        ((performAll b actions (r, s)).2, calls ++ deliveries b actions (r, s))) := by
  refine ⟨fun e => ?_, fun actions => performAll_journaled b actions r s calls⟩
  rw [publish_journaled, publish, callAll_eq]

/-- Observers `a`, `b`, `a` and `c` are called although `a` unsubscribes `b` and `c`, and subscribes
`d`, each time, and although `b` fails. -/
example :
    let b : Behaviour String Unit String :=
      ⟨fun s k _ => (s, if k = "a" then
          ⟨[.unsubscribe "b", .unsubscribe "c", .subscribe "d"], false⟩
        else ⟨[], k = "b"⟩), id, id⟩
    publish b.journaled ⟨["a", "b", "a", "c"]⟩ "step" ((), []) =
      (⟨["a", "a", "d", "d"]⟩, ((), [("a", "step"), ("b", "step"), ("a", "step"), ("c", "step")]),
        [failureEntry "b" "step"]) := by
  decide

/-- To subscribe an observer and to unsubscribe it at once moves its oldest registration to the end,
if it has one. -/
theorem unsubscribe_subscribe (r : Registry κ) (k : κ) :
    (r.subscribe k).unsubscribe k =
      if k ∈ r.observers then ⟨r.observers.erase k ++ [k]⟩ else r := by
  rw [subscribe, unsubscribe]
  split
  · rename_i hmem
    rw [List.erase_append_left _ hmem]
  · rename_i hmem
    rw [List.erase_append_right _ hmem, List.erase_cons_head, List.append_nil]

/-- All registrations of an observer, if it has any, are the last ones. -/
def Trailing (r : Registry κ) (k : κ) : Prop :=
  ∃ others n, k ∉ others ∧ r.observers = others ++ List.replicate n k

omit [DecidableEq κ] in
theorem trailing_of_notMem {r : Registry κ} {k : κ} (h : k ∉ r.observers) : r.Trailing k :=
  ⟨r.observers, 0, h, (List.append_nil _).symm⟩

omit [DecidableEq κ] in
/-- A list that may as well start as end with an element consists of it. -/
theorem eq_replicate_of_rotated {k : κ} : ∀ {ks : List κ}, ks ++ [k] = k :: ks →
    ks = List.replicate ks.length k
  | [], _ => rfl
  | x :: ks, h => by
    obtain ⟨rfl, hrest⟩ := List.cons.inj h
    rw [List.length_cons, List.replicate_succ, ← eq_replicate_of_rotated hrest]

theorem erase_concat_iff {r : Registry κ} {k : κ} (hmem : k ∈ r.observers) :
    r.observers.erase k ++ [k] = r.observers ↔ r.Trailing k := by
  constructor
  · intro h
    obtain ⟨others, later, hothers, hobservers, herased⟩ := List.exists_erase_eq hmem
    rw [herased, hobservers, List.append_assoc, List.append_cancel_left_eq] at h
    refine ⟨others, later.length + 1, hothers, ?_⟩
    rw [hobservers, List.replicate_succ, ← eq_replicate_of_rotated h]
  · rintro ⟨others, n, hothers, hobservers⟩
    rw [hobservers] at hmem ⊢
    rcases n with _ | n
    · simp [hothers] at hmem
    · rw [List.erase_append_right _ hothers, List.replicate_succ, List.erase_cons_head,
        List.append_assoc, ← List.replicate_succ', List.replicate_succ]

theorem unsubscribe_subscribe_eq_iff (r : Registry κ) (k : κ) :
    (r.subscribe k).unsubscribe k = r ↔ r.Trailing k := by
  rw [unsubscribe_subscribe]
  split
  · rename_i hmem
    rw [← erase_concat_iff hmem]
    exact ⟨congrArg observers, congrArg mk⟩
  · rename_i hmem
    exact iff_of_true rfl (trailing_of_notMem hmem)

/-- Registries that deliver the same event to the same observers are the same. -/
theorem eq_of_deliveries {b : Behaviour κ σ ε} {r r' : Registry κ} {e : ε} {s : σ}
    (h : deliveries b [.publish e] (r, s) = deliveries b [.publish e] (r', s)) : r = r' := by
  simp only [deliveries, List.append_nil] at h
  exact congrArg mk ((List.map_inj_right fun _ _ hk => (Prod.mk.inj hk).1).1 h)

/-- An observer that has been subscribed and unsubscribed at once is called as often as before, and
the others are called in the same order. -/
theorem unsubscribe_subscribe_perm (r : Registry κ) (k : κ) :
    ((r.subscribe k).unsubscribe k).observers.Perm r.observers ∧
      ((r.subscribe k).unsubscribe k).observers.filter (· ≠ k) = r.observers.filter (· ≠ k) := by
  rw [unsubscribe_subscribe]
  split
  · rename_i hmem
    obtain ⟨others, later, -, hobservers, herased⟩ := List.exists_erase_eq hmem
    refine ⟨?_, ?_⟩
    · exact (List.perm_append_singleton k _).trans (List.perm_cons_erase hmem).symm
    · rw [herased, hobservers]
      simp
  · exact ⟨.refl _, rfl⟩

/-- After any subscriptions and unsubscriptions, to subscribe an observer and to unsubscribe it at
once leaves the registrations as they were, and with them the calls of every later publication, if
and only if no other observer is registered behind an earlier registration of the same one.
Otherwise the oldest registration of the observer moves to the end; each observer keeps the number
of its registrations, and the others keep their order. -/
theorem unsubscribe_subscribe_iff (b : Behaviour κ σ ε) (e : ε) (s : σ)
    (cs : List (RegistryChange κ)) (k : κ) :
    let r := cs.foldl change .empty
    let undone := (r.subscribe k).unsubscribe k
    (undone = r ↔ r.Trailing k) ∧
    ((∀ actions, deliveries b actions (undone, s) = deliveries b actions (r, s)) ↔
      r.Trailing k) ∧
    (¬ r.Trailing k → undone.observers = r.observers.erase k ++ [k]) ∧
    undone.observers.Perm r.observers ∧
    undone.observers.filter (· ≠ k) = r.observers.filter (· ≠ k) := by
  intro r undone
  have hiff : undone = r ↔ r.Trailing k := unsubscribe_subscribe_eq_iff r k
  refine ⟨hiff, ⟨fun h => hiff.1 (eq_of_deliveries (h [.publish e])), fun h actions => ?_⟩,
    fun h => ?_, unsubscribe_subscribe_perm r k⟩
  · rw [hiff.2 h]
  · have hmem : k ∈ r.observers := Classical.byContradiction fun hmem => h (trailing_of_notMem hmem)
    exact congrArg observers ((unsubscribe_subscribe r k).trans (if_pos hmem))

/-- The observer `a` is subscribed before `b`, then once more, and this is undone: it is called
after `b` from now on. -/
theorem unsubscribe_subscribe_overtaken :
    let r := [.subscribe "a", .subscribe "b"].foldl change .empty
    r.observers = ["a", "b"] ∧ ((r.subscribe "a").unsubscribe "a").observers = ["b", "a"] := by
  decide

end Registry

end SystemDynamics
