import SystemDynamics.Proofs.Announcements
import SystemDynamics.Proofs.Conservation

/-!
# Exported records

A record lists the time of a snapshot and the values of the stocks in one table. Every snapshot of a
model that has been reached from a text has values of exactly the stocks of the model
(`Model.Reachable.snapped`), so its record has the value of every stock under its name. It has the
time under the name `time` unless a stock of that name has another value, and if there is no such
stock the snapshot can be told from the record (`Snapshot.ofRecord?_record`). Then histories with
the same records are the same (`Model.Reachable.records_faithful`). A stock that is called `time`
hides the times (`Model.records_sundial`).
-/

namespace SystemDynamics

namespace Table

variable {α : Type}

/-- The tables hold the same under every name, in whatever order. -/
def Matches (s t : Table α) : Prop := ∀ name, s.get? name = t.get? name

theorem get?_insert (t : Table α) (name : String) (v : α) (k : String) :
    (t.insert name v).get? k = if k = name then some v else t.get? k :=
  find?_put name v k t.entries

/-- Of distinct names, those that are written hold what was written, and the others what they held
before. -/
theorem get?_insertAll (k : String) : ∀ {es : List (String × α)} {t : Table α},
    (es.map Prod.fst).Nodup → (t.insertAll es).get? k = (find? k es).or (t.get? k)
  | [], _, _ => rfl
  | (name, v) :: es, t, h => by
    obtain ⟨hnot, hrest⟩ := List.nodup_cons.1 h
    have hcons : t.insertAll ((name, v) :: es) = (t.insert name v).insertAll es := rfl
    rw [hcons, get?_insertAll k hrest, get?_insert, find?]
    by_cases hk : name = k
    · have hnone : find? k es = none := by
        refine Option.eq_none_iff_forall_ne_some.2 fun x hx => hnot (hk ▸ ?_)
        have hmem : (k, x) ∈ es := (find?_eq_some_iff hrest).1 hx
        exact List.mem_map.2 ⟨_, hmem, rfl⟩
      rw [hnone, if_pos hk.symm, if_pos hk]
      rfl
    · rw [if_neg (Ne.symm hk), if_neg hk]

theorem get?_erase (t : Table α) (name k : String) :
    (t.erase name).get? k = if k = name then none else t.get? k := by
  refine Option.ext fun v => ?_
  rw [get?_eq_some_iff]
  simp only [erase, List.mem_filter, decide_eq_true_eq]
  split
  · rename_i hk
    simp [hk]
  · rename_i hk
    rw [get?_eq_some_iff]
    exact and_iff_left hk

end Table

namespace Snapshot

/-- The snapshots have the same time and the same values. -/
def Matches (s t : Snapshot) : Prop := s.time = t.time ∧ s.values.Matches t.values

/-- A record has the values under their names, and the time where no value takes its name. -/
theorem get?_record (s : Snapshot) (name : String) :
    s.record.get? name = (s.values.get? name).or (if name = "time" then some s.time else none) := by
  rw [record, Table.get?_insertAll name s.values.nodup, Table.get?_insert]
  rfl

/-- The snapshot that a record is of, if no value has the name of the time. -/
def ofRecord? (r : Table Float) : Option Snapshot :=
  (r.get? "time").map fun time => ⟨time, r.erase "time"⟩

theorem get?_time_record (s : Snapshot) : s.record.get? "time" = some s.time ↔
    ∀ x, s.values.get? "time" = some x → x = s.time := by
  rw [get?_record, if_pos rfl]
  rcases s.values.get? "time" with _ | x
  · simp
  · simp

section Recovered

variable {s t : Snapshot} (hs : s.values.contains "time" = false)
include hs

theorem get?_values_time : s.values.get? "time" = none :=
  Option.not_isSome_iff_eq_none.1 (Bool.eq_false_iff.1 hs)

theorem time_of_record : s.record.get? "time" = some s.time :=
  s.get?_time_record.2 fun x hx => by rw [get?_values_time hs] at hx; cases hx

theorem values_of_record : (s.record.erase "time").Matches s.values := by
  intro name
  rw [Table.get?_erase, get?_record]
  split
  · rename_i hname
    rw [hname, get?_values_time hs]
  · exact Option.or_none

/-- Without a value that has its name, the time can be told from the values. -/
theorem ofRecord?_record : ∃ t, ofRecord? s.record = some t ∧ t.Matches s := by
  refine ⟨⟨s.time, s.record.erase "time"⟩, ?_, rfl, values_of_record hs⟩
  rw [ofRecord?, time_of_record hs]
  rfl

theorem matches_of_records (ht : t.values.contains "time" = false)
    (h : s.record.Matches t.record) : s.Matches t := by
  have htime := h "time"
  rw [time_of_record hs, time_of_record ht] at htime
  refine ⟨Option.some_inj.1 htime, fun name => ?_⟩
  rw [← values_of_record hs name, ← values_of_record ht name, Table.get?_erase, Table.get?_erase,
    h name]

end Recovered

end Snapshot

namespace Model

/-- Each snapshot of the history has values of exactly the stocks of the model. -/
def Snapped (m : Model) : Prop := ∀ s ∈ m.history.entries, s.values.names = m.stocks.names

theorem names_stockValues (m : Model) : m.stockValues.names = m.stocks.names :=
  Table.names_mapWithName _ m.stocks

theorem names_nextSnapshot (m : Model) (dt : StepSize) :
    (m.nextSnapshot dt).values.names = m.stocks.names := by
  have hnames := congrArg Table.names (m.move_emptied (m.found dt).2)
  rw [Table.map, Table.map, Table.names_mapWithName, Table.names_mapWithName] at hnames
  exact (names_stockValues _).trans hnames

theorem Snapped.record {m : Model} (h : m.Snapped) : m.record.Snapped := by
  intro s hs
  rcases List.mem_append.1 (List.mem_of_mem_drop hs) with hs | hs
  · exact h s hs
  · rw [List.mem_singleton.1 hs]
    exact m.names_stockValues

theorem Snapped.step {m : Model} (h : m.Snapped) (dt : StepSize) : (m.step dt).result.Snapped := by
  rcases hm : m.isTerminated with _ | _
  · intro s hs
    rw [names_of_design (m.step_design dt)]
    rw [step_running hm, advance_history, Recent.entries_push] at hs
    rcases List.mem_append.1 (List.mem_of_mem_drop hs) with hs | hs
    · exact h s hs
    · rw [List.mem_singleton.1 hs]
      exact m.names_nextSnapshot dt
  · rw [step_terminated hm]
    exact h

theorem Reachable.snapped {c : Capacities} {text : String} {m : Model} (hm : Reachable c text m) :
    m.Snapped := by
  obtain ⟨rs, rfl⟩ := hm
  refine serveAll_kept (P := Snapped) (fun dt h => h.step dt) (fun {m} _ => ?_) ?_ rs
  · have hempty : m.restarted.Snapped := fun _ hs => (List.not_mem_nil hs).elim
    exact hempty.record
  · obtain ⟨m, hm, hpristine⟩ := ofText_pristine c text
    have hempty : m.Snapped := fun s hs => by
      rw [← hpristine.history] at hs
      exact (List.not_mem_nil hs).elim
    rw [hm]
    exact hempty.record

/-- In a model that has been reached from a text, the record of each snapshot has the value of every
stock under its name. It has the time under the name `time` exactly if no stock of that name has
another value. If there is no such stock, the snapshot can be told from its record, and a history
from its records. -/
theorem Reachable.records_faithful {c : Capacities} {text : String} {m : Model}
    (hm : Reachable c text m) :
    (∀ (i : Nat) (s : Snapshot), m.history.entries[i]? = some s → ∃ r : Table Float,
      m.history.records[i]? = some r ∧
      (∀ name, m.stocks.contains name = true →
        ∃ x, s.values.get? name = some x ∧ r.get? name = some x) ∧
      (r.get? "time" = some s.time ↔ ∀ x, s.values.get? "time" = some x → x = s.time)) ∧
    (m.stocks.contains "time" = false →
      (∀ s ∈ m.history.entries, ∃ t, Snapshot.ofRecord? s.record = some t ∧ t.Matches s) ∧
      ∀ (c' : Capacities) (text' : String) (n : Model), Reachable c' text' n →
        n.stocks.contains "time" = false →
        List.Forall₂ Table.Matches m.history.records n.history.records →
        List.Forall₂ Snapshot.Matches m.history.entries n.history.entries) := by
  have hcontains {n : Model} (hn : n.Snapped) {s : Snapshot} (hs : s ∈ n.history.entries)
      (name : String) : s.values.contains name = n.stocks.contains name := by
    rw [Bool.eq_iff_iff, Table.contains_iff, Table.contains_iff, hn s hs]
  refine ⟨fun i s hs => ?_, fun htime => ⟨fun s hs => ?_, fun c' text' n hn hother hrecords => ?_⟩⟩
  · refine ⟨s.record, ?_, fun name hname => ?_, s.get?_time_record⟩
    · rw [History.records, List.getElem?_map, hs]
      rfl
    · rw [← hcontains hm.snapped (List.mem_of_getElem? hs)] at hname
      obtain ⟨x, hx⟩ := Option.isSome_iff_exists.1 hname
      refine ⟨x, hx, ?_⟩
      rw [Snapshot.get?_record, hx]
      rfl
  · exact Snapshot.ofRecord?_record ((hcontains hm.snapped hs _).trans htime)
  · rw [History.records, History.records, List.forall₂_map_left_iff,
      List.forall₂_map_right_iff] at hrecords
    refine List.forall₂_iff_get.2 ⟨hrecords.length_eq, fun i hi hj => ?_⟩
    exact Snapshot.matches_of_records ((hcontains hm.snapped (List.get_mem _ _) _).trans htime)
      ((hcontains hn.snapped (List.get_mem _ _) _).trans hother)
      ((List.forall₂_iff_get.1 hrecords).2 i hi hj)

/-- A stock whose name is that of no other thing. -/
def sandglass : String :=
  "stock Sand \x7b\ninitial: 5\n\x7d\nflow Fall \x7b\nfrom: Sand\nrate: 1\n\x7d"

/-- The sandglass after a step. -/
def fallen : Model :=
  (ofText .default sandglass).result.serveAll [.step ⟨1.0, by decide, by decide⟩]

theorem records_faithful_sandglass : ∃ r : Table Float, fallen.history.records[1]? = some r ∧
    r.get? "Sand" = some 4.0 ∧ r.get? "time" = some 1.0 ∧
    ∃ t, Snapshot.ofRecord? r = some t ∧ t.Matches ⟨1.0, .ofList [("Sand", 4.0)]⟩ := by
  have hreachable : Reachable .default sandglass fallen := ⟨_, rfl⟩
  have hentry : fallen.history.entries[1]? = some ⟨1.0, .ofList [("Sand", 4.0)]⟩ := by
    decide +kernel
  obtain ⟨hrecords, hrecovered⟩ := hreachable.records_faithful
  obtain ⟨r, hr, hvalues, htime⟩ := hrecords 1 _ hentry
  obtain ⟨x, hx, hsand⟩ := hvalues "Sand" (by decide +kernel)
  have hsame : r = Snapshot.record ⟨1.0, .ofList [("Sand", 4.0)]⟩ := by
    rw [History.records, List.getElem?_map, hentry] at hr
    exact (Option.some_inj.1 hr).symm
  refine ⟨r, hr, hsand.trans (hx.symm.trans (by decide +kernel)), htime.2 fun x hx => ?_, ?_⟩
  · exact absurd hx (by decide +revert +kernel)
  · rw [hsame]
    exact (hrecovered (by decide +kernel)).1 _ (List.mem_of_getElem? hentry)

/-- A stock that has the name of the time. -/
def sundial : String := "stock time \x7b\ninitial: 5\n\x7d"

/-- The records show the stock in the place of the time, and they are the same for a step of one
and a step of two. -/
theorem records_sundial :
    (ofText .default sundial).result.history.entries.map (·.time) = [0.0] ∧
      (ofText .default sundial).result.history.records.map (·.get? "time") = [some 5.0] ∧
      ((ofText .default sundial).result.step ⟨1.0, by decide, by decide⟩).result.history.records =
        ((ofText .default sundial).result.step ⟨2.0, by decide, by decide⟩).result.history.records ∧
      ((ofText .default sundial).result.step ⟨1.0, by decide, by decide⟩).result.history ≠
        ((ofText .default sundial).result.step ⟨2.0, by decide, by decide⟩).result.history := by
  decide +kernel

end Model

end SystemDynamics
