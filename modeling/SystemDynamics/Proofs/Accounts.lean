import SystemDynamics.Diagnostics

/-!
# What a record of failures knows

A record of failures keeps three accounts: the last reports, as many as it has room for, the count
of all, and the sources and messages that it has met. They agree on which reports there were since
the record was last cleared, however many of these the record has lost (`Accounts`): a report adds
to all three of them, and a clear starts them anew. So a report is logged at the level of the record
exactly if it is the first of its kind since then (`performAll_accounts`).
-/

namespace SystemDynamics

namespace Diagnostics

/-- What can be done with a record of failures. -/
inductive Action where
  | report (d : Diagnostic)
  | clear

/-- A record after an action, with what is logged. -/
def perform (ds : Diagnostics) : Action → Diagnostics × List LogEntry
  | .report d => ((ds.report d).1, [(ds.report d).2])
  | .clear => (ds.clear, [])

/-- Several actions, one after the other. -/
def performAll : List Action → Diagnostics → Diagnostics × List LogEntry
  | [], ds => (ds, [])
  | a :: actions, ds =>
    ((performAll actions (ds.perform a).1).1,
      (ds.perform a).2 ++ (performAll actions (ds.perform a).1).2)

/-- The reports since the last clear, if `reports` are those before the action. -/
def reportsAfter (reports : List Diagnostic) : Action → List Diagnostic
  | .report d => reports ++ [d]
  | .clear => []

/-- The reports since the last clear. -/
def sinceClear (actions : List Action) : List Diagnostic := actions.foldl reportsAfter []

theorem performAll_append (later : List Action) : ∀ (actions : List Action) (ds : Diagnostics),
    performAll (actions ++ later) ds =
      ((performAll later (performAll actions ds).1).1,
        (performAll actions ds).2 ++ (performAll later (performAll actions ds).1).2)
  | [], _ => rfl
  | a :: actions, ds => by
    rw [List.cons_append, performAll, performAll_append later actions, performAll,
      List.append_assoc]

/-- The accounts of a record of some capacity and level agree on the reports. -/
structure Accounts (capacity : Int) (level : Level) (reports : List Diagnostic)
    (ds : Diagnostics) : Prop where
  level : ds.level = level
  records : ds.records = reports.foldl Recent.push (.withCapacity capacity)
  total : ds.total = reports.length
  seen : ∀ source message, (source, message) ∈ ds.seen ↔
    ∃ d ∈ reports, d.source = source ∧ d.message = message

theorem mem_seen_report (ds : Diagnostics) (d : Diagnostic) (source message : String) :
    (source, message) ∈ (ds.report d).1.seen ↔
      (source, message) ∈ ds.seen ∨ d.source = source ∧ d.message = message := by
  simp only [report]
  split
  · rename_i hseen
    refine ⟨.inl, fun h => h.elim id ?_⟩
    rintro ⟨rfl, rfl⟩
    exact hseen
  · rw [List.mem_cons, Prod.mk.injEq, or_comm, eq_comm, eq_comm (a := message)]

section Accounts

variable {capacity : Int} {level : Level} {reports : List Diagnostic} {ds : Diagnostics}

theorem accounts_withCapacity (capacity : Int) (level : Level) :
    Accounts capacity level [] (withCapacity capacity level) := by
  constructor <;> simp [withCapacity]

theorem Accounts.report (h : Accounts capacity level reports ds) (d : Diagnostic) :
    Accounts capacity level (reports ++ [d]) (ds.report d).1 where
  level := h.level
  records := by
    rw [List.foldl_append, ← h.records]
    rfl
  total := by
    rw [List.length_append, ← h.total]
    rfl
  seen source message := by
    rw [mem_seen_report, h.seen]
    simp [or_and_right, exists_or]

theorem Accounts.clear (h : Accounts capacity level reports ds) :
    Accounts capacity level [] ds.clear where
  level := h.level
  records := (congrArg Recent.clear h.records).trans (Recent.clear_foldl_push _ _)
  total := rfl
  seen _ _ := by simp [Diagnostics.clear]

theorem Accounts.performAll : ∀ (actions : List Action) {reports : List Diagnostic}
    {ds : Diagnostics}, Accounts capacity level reports ds →
    Accounts capacity level (actions.foldl reportsAfter reports) (performAll actions ds).1
  | [], _, _, h => h
  | .report d :: actions, _, _, h => Accounts.performAll actions (h.report d)
  | .clear :: actions, _, _, h => Accounts.performAll actions h.clear

theorem Accounts.entries (h : Accounts capacity level reports ds) :
    ds.records.entries = Recent.lastOf (min (max 1 capacity).toNat ds.total) reports := by
  have hcapacity : (max 1 capacity).toNat = max 1 capacity.toNat := by omega
  rw [h.records, h.total, Recent.lastOf_min, hcapacity, Recent.entries_foldl_push]
  rfl

theorem Accounts.report_entry (h : Accounts capacity level reports ds) (d : Diagnostic) :
    (ds.report d).2 =
      ⟨if ∃ p ∈ reports, p.source = d.source ∧ p.message = d.message then .debug else level,
        .diagnostics, logText d⟩ := by
  simp only [Diagnostics.report, nextLevel, h.seen, h.level]

end Accounts

/-- After any reports and clears the total is the number of the reports since the last clear, and
the records are the last of these, as many as there is room for; a capacity below one counts as
one. Whatever comes after it, a further report is logged for debugging only if there was one of the
same source and message since the last clear, also if it is no longer among the records, and else
at the level of the record. -/
theorem performAll_accounts (capacity : Int) (level : Level) (actions : List Action) :
    let start := withCapacity capacity level
    let ds := (performAll actions start).1
    ds.total = (sinceClear actions).length ∧
    ds.records.entries =
      Recent.lastOf (min (max 1 capacity).toNat ds.total) (sinceClear actions) ∧
    ∀ d later, (performAll (actions ++ .report d :: later) start).2 =
      (performAll actions start).2 ++
        ⟨if ∃ p ∈ sinceClear actions, p.source = d.source ∧ p.message = d.message then .debug
          else level, .diagnostics, logText d⟩ :: (performAll later (ds.report d).1).2 := by
  intro start ds
  have h : Accounts capacity level (sinceClear actions) ds :=
    (accounts_withCapacity capacity level).performAll actions
  refine ⟨h.total, h.entries, fun d later => ?_⟩
  rw [performAll_append, performAll, perform, ← h.report_entry d]
  rfl

/-- A report that there was no more room for is not forgotten, but for a clear. -/
example :
    let inflow : Diagnostic := ⟨"flow Inflow", "non-finite rate inf", none⟩
    let lookup : Diagnostic := ⟨"<expr>", "lookup table 'T' not found", none⟩
    (performAll [.report inflow, .report lookup, .report inflow, .clear, .report inflow]
      (withCapacity 1 .warning)).2.map LogEntry.level =
        [.warning, .warning, .debug, .warning] := by
  decide

end Diagnostics

end SystemDynamics
