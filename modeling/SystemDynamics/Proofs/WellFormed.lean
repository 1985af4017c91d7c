import SystemDynamics.Proofs.Blocks
import SystemDynamics.Proofs.Declared
import SystemDynamics.Proofs.References
import SystemDynamics.Proofs.Sorted
import SystemDynamics.Proofs.Strands
import SystemDynamics.Proofs.Trace

/-!
# What every text loads to

However a text is written, the model that it makes is well-formed (`Model.ofText_wellFormed`). The
points that reading leaves have all their coordinates, and these are numbers
(`Declaration.ofText_plotted`), so the tables are sorted. All stocks are loaded before the first
flow, so a flow finds every stock of the text, declared above it or below, and none that it finds is
replaced later (`Model.loadAll_last`).
-/

namespace SystemDynamics

theorem Table.mem_insertAll {α : Type} {e : String × α} : ∀ (es : List (String × α)) {t : Table α},
    e ∈ (t.insertAll es).entries → e ∈ t.entries ∨ e ∈ es
  | [], _, h => .inl h
  | (_, _) :: es, _, h => by
    rcases mem_insertAll es h with h | h
    · rcases Table.mem_put h with rfl | h
      · exact .inr (.head _)
      · exact .inl h
    · exact .inr (.tail _ h)

/-! ## Points -/

/-- What is read from every element, and can be written back, leaves none out. -/
theorem filterMap_of_forall {α β : Type} {f : α → Option β} {g : β → α} {P : β → Prop} :
    ∀ {as : List α}, (∀ a ∈ as, ∃ b, f a = some b ∧ g b = a ∧ P b) →
      (as.filterMap f).map g = as ∧ ∀ b ∈ as.filterMap f, P b
  | [], _ => ⟨rfl, fun b hb => absurd hb List.not_mem_nil⟩
  | a :: as, h => by
    obtain ⟨b, hf, rfl, hb⟩ := h a (.head _)
    obtain ⟨hmap, hall⟩ := filterMap_of_forall fun a ha => h a (.tail _ ha)
    rw [List.filterMap_cons_some hf, List.map_cons, hmap]
    exact ⟨rfl, List.forall_mem_cons.2 ⟨hb, hall⟩⟩

namespace Declaration

/-- Every point has the coordinates that its kind takes, and they are numbers. -/
def Plotted (d : Declaration) : Prop :=
  ∀ p ∈ d.points,
    if d.kind = .lookup2d then
      ∃ x y z : Float, p = [x, y, z] ∧ x.isNaN = false ∧ y.isNaN = false ∧ z.isNaN = false
    else ∃ x y : Float, p = [x, y] ∧ x.isNaN = false ∧ y.isNaN = false

theorem ofText_plotted (text : String) :
    ∀ d ∈ (Declaration.ofText text).result, d.Plotted := by
  intro d hd p hp
  obtain ⟨j, hj⟩ := exists_declares hd
  cases hj with
  | constant => exact absurd hp List.not_mem_nil
  | block _ hblock =>
    obtain ⟨cs, -, -, x, y, rest, ⟨_, _, _, -, -, -, -, -, hx, hy⟩, hpoint⟩ := hblock.points.mem hp
    have hx := Reading.isNaN_number? hx
    have hy := Reading.isNaN_number? hy
    split at hpoint <;> rename_i hkind
    · obtain ⟨_, _, z, -, -, hz, rfl⟩ := hpoint
      rw [if_pos hkind]
      exact ⟨x, y, z, rfl, hx, hy, Reading.isNaN_number? hz⟩
    · rw [if_neg hkind]
      exact ⟨x, y, hpoint, hx, hy⟩

end Declaration

namespace Model

open Declaration

section Points

variable {d : Declaration}

/-- No point of a curve is lost, and all coordinates are numbers. -/
theorem curvePoints_plotted (hd : d.Plotted) (hkind : d.kind = .lookup) :
    (curvePoints d.points).map (fun p => [p.1, p.2]) = d.points ∧
      ∀ p ∈ curvePoints d.points, p.1.isNaN = false ∧ p.2.isNaN = false := by
  refine filterMap_of_forall fun p hp => ?_
  have hp := hd p hp
  rw [if_neg (by rw [hkind]; decide)] at hp
  obtain ⟨x, y, rfl, hnumbers⟩ := hp
  exact ⟨(x, y), rfl, rfl, hnumbers⟩

theorem surfacePoints_plotted (hd : d.Plotted) (hkind : d.kind = .lookup2d) :
    (surfacePoints d.points).map (fun p => [p.1, p.2.1, p.2.2]) = d.points ∧
      ∀ p ∈ surfacePoints d.points, p.1.isNaN = false ∧ p.2.1.isNaN = false := by
  refine filterMap_of_forall fun p hp => ?_
  have hp := hd p hp
  rw [if_pos hkind] at hp
  obtain ⟨x, y, z, rfl, hx, hy, -⟩ := hp
  exact ⟨(x, y, z), rfl, rfl, hx, hy⟩

end Points

/-! ## Stocks and flows -/

/-- A stock comes in exactly by its declaration, and none goes. -/
theorem Loads.contains {d : Declaration} {m n : Model} (h : Loads d m n) (name : String) :
    n.stocks.contains name = true ↔
      m.stocks.contains name = true ∨ (d.kind = .stock ∧ d.name = name) := by
  cases h with
  | data constants curves surfaces graphs diagnostics _ hkind =>
    exact (or_iff_left fun h => hkind.1 h.1).symm
  | stock s diagnostics _ _ _ _ hkind =>
    refine (Table.contains_insert m.stocks d.name s name).trans ?_
    simp only [hkind, true_and]
  | flow f slots diagnostics _ _ _ _ _ hkind =>
    exact (or_iff_left fun h => absurd (hkind.symm.trans h.1) (by decide)).symm
  | ending cond text slots diagnostics _ _ hkind =>
    exact (or_iff_left fun h => absurd (hkind.symm.trans h.1) (by decide)).symm

theorem loadAll_contains (name : String) : ∀ (ds : List Declaration) (m : Model),
    (loadAll ds m).result.stocks.contains name = true ↔
      m.stocks.contains name = true ∨ ∃ d ∈ ds, d.kind = .stock ∧ d.name = name
  | [], m => by
    simp only [List.not_mem_nil, false_and, exists_false, or_false]
    rfl
  | d :: ds, m => by
    refine (loadAll_contains name ds (m.load d).result).trans ?_
    rw [(m.load_loads d).contains, List.exists_mem_cons_iff, or_assoc]

/-- The two ends of a flow as its declaration gives them, among stocks. -/
def endsAmong (stocks : Table Stock) (d : Declaration) : Endpoint × Endpoint :=
  (endAmong stocks (endOf d "from"), endAmong stocks (endOf d "to"))

/-- The two ends of the flows, by name. -/
def flowEnds (m : Model) : Table (Endpoint × Endpoint) := m.flows.map fun f => (f.source, f.target)

/-- The flows that are declared, with their ends among stocks. -/
def flowsIn (stocks : Table Stock) (ds : List Declaration) :
    List (String × Endpoint × Endpoint) :=
  (ds.filter (·.kind = .flow)).map fun d => (d.name, endsAmong stocks d)

/-- The second pass adds flows, which find their ends among the stocks at its start. -/
theorem Loads.last {d : Declaration} (hd : isDeferred d = true) {m n : Model} (h : Loads d m n) :
    n.stocks = m.stocks ∧ n.curves = m.curves ∧ n.surfaces = m.surfaces ∧
      n.flowEnds = m.flowEnds.insertAll (flowsIn m.stocks [d]) := by
  cases h with
  | data constants curves surfaces graphs diagnostics _ hkind hcurves hsurfaces =>
    have hnone : flowsIn m.stocks [d] = [] := by simp [flowsIn, hkind.2]
    have hcurve : d.kind ≠ .lookup := fun h => by rw [isDeferred, h] at hd; cases hd
    have hsurface : d.kind ≠ .lookup2d := fun h => by rw [isDeferred, h] at hd; cases hd
    rw [hnone]
    exact ⟨rfl, hcurves hcurve, hsurfaces hsurface, rfl⟩
  | stock s diagnostics _ _ _ hfirst => exact absurd (hd.symm.trans hfirst) (by decide)
  | flow f slots diagnostics _ _ _ _ _ hkind hsource htarget =>
    have hone : flowsIn m.stocks [d] = [(d.name, f.source, f.target)] := by
      simp [flowsIn, hkind, endsAmong, hsource, htarget]
    rw [hone]
    exact ⟨rfl, rfl, rfl, Table.map_insert _ m.flows d.name f⟩
  | ending cond text slots diagnostics _ _ hkind =>
    have hnone : flowsIn m.stocks [d] = [] := by simp [flowsIn, hkind]
    rw [hnone]
    exact ⟨rfl, rfl, rfl, rfl⟩

theorem loadAll_last : ∀ (ds : List Declaration) (m : Model), (∀ d ∈ ds, isDeferred d = true) →
    (loadAll ds m).result.stocks = m.stocks ∧ (loadAll ds m).result.curves = m.curves ∧
      (loadAll ds m).result.surfaces = m.surfaces ∧
      (loadAll ds m).result.flowEnds = m.flowEnds.insertAll (flowsIn m.stocks ds)
  | [], _, _ => ⟨rfl, rfl, rfl, rfl⟩
  | d :: ds, m, h => by
    obtain ⟨hstocks, hcurves, hsurfaces, hflows⟩ := (m.load_loads d).last (h d (.head ds))
    obtain ⟨hstocks', hcurves', hsurfaces', hflows'⟩ :=
      loadAll_last ds (m.load d).result fun e he => h e (.tail d he)
    refine ⟨hstocks'.trans hstocks, hcurves'.trans hcurves, hsurfaces'.trans hsurfaces, ?_⟩
    refine hflows'.trans ?_
    have hcons : flowsIn m.stocks (d :: ds) = flowsIn m.stocks [d] ++ flowsIn m.stocks ds := by
      by_cases hkind : d.kind = .flow <;> simp [flowsIn, hkind]
    rw [hflows, hstocks, hcons, Table.insertAll, Table.insertAll, Table.insertAll,
      List.foldl_append]

/-! ## Dependencies -/

/-- The dependencies of every flow ascend, and are stocks that no constant hides. -/
def Dependent (m : Model) : Prop :=
  ∀ e ∈ m.flows.entries, e.2.dependencies.Pairwise (· < ·) ∧
    ∀ name ∈ e.2.dependencies, m.stocks.contains name = true ∧ m.constants.contains name = false

theorem dependencies_ascending (m : Model) (g : Formula) :
    (m.dependencies g.references).Pairwise (· < ·) := by
  refine List.Pairwise.filter _ ?_
  unfold Formula.references
  split
  · exact Code.references_ascending _
  · exact .nil

theorem ofText_dependent (c : Capacities) (text : String) : (ofText c text).result.Dependent := by
  have hreached : Reachable c text (ofText c text).result := ⟨[], rfl⟩
  intro e he
  have hloaded := hreached.loaded e he
  by_cases hrate : ∃ g, e.2.rate = .formula g
  · obtain ⟨g, hg⟩ := hrate
    rw [hloaded.reads g hg]
    refine ⟨dependencies_ascending _ g, fun name hname => ?_⟩
    simpa using (List.mem_filter.1 hname).2
  · rw [hloaded.unread fun g hg => hrate ⟨g, hg⟩]
    exact ⟨.nil, fun name hname => absurd hname List.not_mem_nil⟩

/-! ## The model of a text -/

theorem Loads.first {d : Declaration} (hd : d.kind.strand = .quantities) {m n : Model}
    (h : Loads d m n) : n.curves = m.curves ∧ n.surfaces = m.surfaces := by
  cases h with
  | data constants curves surfaces graphs diagnostics _ _ hcurves hsurfaces =>
    have hcurve : d.kind ≠ .lookup := fun h => by rw [h] at hd; cases hd
    have hsurface : d.kind ≠ .lookup2d := fun h => by rw [h] at hd; cases hd
    exact ⟨hcurves hcurve, hsurfaces hsurface⟩
  | stock => exact ⟨rfl, rfl⟩
  | flow => exact ⟨rfl, rfl⟩
  | ending => exact ⟨rfl, rfl⟩

theorem contains_along (m : Model) (ds : List Declaration) (name : String) :
    (loadAll (along .quantities ds) m).result.stocks.contains name = true ↔
      m.stocks.contains name = true ∨ ∃ d ∈ ds, d.kind = .stock ∧ d.name = name := by
  rw [loadAll_contains]
  refine or_congr_right ⟨fun ⟨d, hd, h⟩ => ⟨d, (mem_along.1 hd).1, h⟩, ?_⟩
  rintro ⟨d, hd, hkind, hname⟩
  exact ⟨d, mem_along.2 ⟨hd, by rw [hkind]; rfl⟩, hkind, hname⟩

theorem flowsIn_along (stocks : Table Stock) (ds : List Declaration) :
    flowsIn stocks (along .activity ds) = flowsIn stocks ds := by
  unfold flowsIn along
  rw [List.filter_filter]
  refine congrArg _ (List.filter_congr fun d _ => ?_)
  rcases d.kind <;> rfl

/-- The first pass leaves the tables and the flows alone that a model begins with. -/
theorem loadAll_quantities (c : Capacities) (ds : List Declaration) :
    ∃ m : Model, (ofDeclarations c ds).result =
        (loadAll (along .activity ds) (tabulate ds m)).result.record ∧
      m.curves = .empty ∧ m.surfaces = .empty ∧ m.flowEnds = .empty ∧
      ∀ name, m.stocks.contains name = true ↔ ∃ d ∈ ds, d.kind = .stock ∧ d.name = name := by
  let start := empty c.history (.withCapacity c.diagnostics .warning)
  have hkept : ∀ d ∈ along .quantities ds, ∀ m n : Model, Loads d m n →
      (m.curves = .empty ∧ m.surfaces = .empty ∧ m.flows.entries = []) →
        n.curves = .empty ∧ n.surfaces = .empty ∧ n.flows.entries = [] := by
    rintro d hd m n hloads ⟨hcurves, hsurfaces, hflows⟩
    have hquantity := (mem_along.1 hd).2
    have hfirst : isDeferred d = false := by
      rw [isDeferred_eq, hquantity]
      rfl
    obtain ⟨hcurves', hsurfaces'⟩ := hloads.first hquantity
    exact ⟨hcurves'.trans hcurves, hsurfaces'.trans hsurfaces, hloads.flowless hfirst hflows⟩
  obtain ⟨hcurves, hsurfaces, hflows⟩ := loadAll_kept _ start hkept ⟨rfl, rfl, rfl⟩
  refine ⟨(loadAll (along .quantities ds) start).result, ?_, hcurves, hsurfaces, ?_, fun name => ?_⟩
  · rw [ofDeclarations_eq]
    rfl
  · ext1
    exact List.map_eq_nil_iff.2 hflows
  · exact (contains_along start ds name).trans (or_iff_right Bool.false_ne_true)

/-- What declarations make of the stocks, the flows and the tables of a model. -/
theorem ofDeclarations_parts (c : Capacities) (ds : List Declaration) :
    (∀ name, (ofDeclarations c ds).result.stocks.contains name = true ↔
        ∃ d ∈ ds, d.kind = .stock ∧ d.name = name) ∧
      (ofDeclarations c ds).result.flowEnds =
        .ofList (flowsIn (ofDeclarations c ds).result.stocks ds) ∧
      (ofDeclarations c ds).result.curves = .ofList (curvesIn ds) ∧
      (ofDeclarations c ds).result.surfaces = .ofList (surfacesIn ds) := by
  obtain ⟨m, hm, hcurves, hsurfaces, hflows, hcontains⟩ := loadAll_quantities c ds
  obtain ⟨hstocks, hcurves', hsurfaces', hflows'⟩ := loadAll_last (along .activity ds)
    (tabulate ds m) fun d hd => isDeferred_iff.2 (mem_along.1 hd).2
  have hsame : (tabulate ds m).flowEnds = .empty := hflows
  rw [hsame, flowsIn_along] at hflows'
  rw [hm]
  refine ⟨fun name => ?_, ?_, ?_, ?_⟩
  · rw [← hcontains name]
    exact iff_of_eq (congrArg (Table.contains · name = true) hstocks)
  · exact hflows'.trans (congrArg (fun stocks => Table.ofList (flowsIn stocks ds)) hstocks.symm)
  · refine hcurves'.trans ?_
    rw [tabulate, hcurves]
    rfl
  · refine hsurfaces'.trans ?_
    rw [tabulate, hsurfaces]
    rfl

/-- The end of a flow that a declaration gives under a key: the stock that it names if a stock of
this name is declared, else the outside. -/
def declaredEnd (ds : List Declaration) (d : Declaration) (key : String) : Endpoint :=
  match textOf d key with
  | none => .outside
  | some name =>
    if name ∉ outsideNames ∧ ∃ e ∈ ds, e.kind = .stock ∧ e.name = name then .stock name
    else .outside

theorem endAmong_declared {stocks : Table Stock} {ds : List Declaration}
    (h : ∀ name, stocks.contains name = true ↔ ∃ e ∈ ds, e.kind = .stock ∧ e.name = name)
    (d : Declaration) (key : String) :
    endAmong stocks (endOf d key) = declaredEnd ds d key := by
  unfold endOf declaredEnd
  rcases textOf d key with _ | name
  · rfl
  · simp only [endAmong, h]
    by_cases houtside : name ∈ outsideNames
    · rw [if_pos houtside, if_neg fun h => h.1 houtside]
    · simp only [houtside, if_false, not_false_eq_true, true_and]

/-- What every model has that declarations have just made. -/
structure WellFormed (m : Model) (ds : List Declaration) : Prop where
  initial : m.initial = m.stockValues
  stocks : ∀ name, m.stocks.contains name = true ↔ ∃ d ∈ ds, d.kind = .stock ∧ d.name = name
  flows : m.flowEnds = .ofList ((ds.filter (·.kind = .flow)).map fun d =>
    (d.name, declaredEnd ds d "from", declaredEnd ds d "to"))
  dependencies : m.Dependent
  points : ∀ d ∈ ds, d.Plotted
  curves : m.curves = .ofList (curvesIn ds)
  sorted : ∀ e ∈ m.curves.entries, e.2.points.Pairwise Ascends ∧
    ∃ d ∈ ds, d.kind = .lookup ∧ d.name = e.1 ∧
      (e.2.points.map fun p => [p.1, p.2]).Perm d.points
  surfaces : m.surfaces = .ofList (surfacesIn ds)
  gridded : ∀ e ∈ m.surfaces.entries, e.2.Gridded ∧
    ∃ d ∈ ds, d.kind = .lookup2d ∧ d.name = e.1 ∧
      (e.2.points.map fun p => [p.1, p.2.1, p.2.2]) = d.points
  slots : ∀ place ∈ m.slots, place.state = none
  history : m.history.entries = [⟨0.0, m.initial⟩]

theorem curvesIn_sorted {ds : List Declaration} (hds : ∀ d ∈ ds, d.Plotted)
    {e : String × Curve Float} (he : e ∈ curvesIn ds) : e.2.points.Pairwise Ascends ∧
      ∃ d ∈ ds, d.kind = .lookup ∧ d.name = e.1 ∧
        (e.2.points.map fun p => [p.1, p.2]).Perm d.points := by
  obtain ⟨d, hd, rfl⟩ := List.mem_map.1 he
  obtain ⟨hmem, hstrand⟩ := mem_along.1 hd
  have hkind := BlockKind.strand_eq_curves.1 hstrand
  obtain ⟨hmap, hnumbers⟩ := curvePoints_plotted (hds d hmem) hkind
  obtain ⟨hsorted, hperm⟩ := Curve.ofPoints_sorted d.name hnumbers
  exact ⟨hsorted, d, hmem, hkind, rfl, (hperm.map _).trans (.of_eq hmap)⟩

theorem surfacesIn_gridded {ds : List Declaration} (hds : ∀ d ∈ ds, d.Plotted)
    {e : String × Surface Float} (he : e ∈ surfacesIn ds) : e.2.Gridded ∧
      ∃ d ∈ ds, d.kind = .lookup2d ∧ d.name = e.1 ∧
        (e.2.points.map fun p => [p.1, p.2.1, p.2.2]) = d.points := by
  obtain ⟨d, hd, rfl⟩ := List.mem_map.1 he
  obtain ⟨hmem, hstrand⟩ := mem_along.1 hd
  have hkind := BlockKind.strand_eq_surfaces.1 hstrand
  obtain ⟨hmap, hnumbers⟩ := surfacePoints_plotted (hds d hmem) hkind
  exact ⟨Surface.ofPoints_gridded d.name hnumbers, d, hmem, hkind, rfl, hmap⟩

/-- Every text makes a well-formed model, whatever its capacities. -/
theorem ofText_wellFormed (c : Capacities) (text : String) :
    (ofText c text).result.WellFormed (Declaration.ofText text).result := by
  have hplotted := ofText_plotted text
  obtain ⟨m, hm, hpristine⟩ := ofText_pristine c text
  obtain ⟨hcontains, hflows, hcurves, hsurfaces⟩ :
    _ ∧ (ofText c text).result.flowEnds = _ ∧ (ofText c text).result.curves = _ ∧
      (ofText c text).result.surfaces = _ :=
    ofDeclarations_parts c (Declaration.ofText text).result
  constructor
  case initial =>
    rw [hm]
    exact hpristine.initial
  case stocks => exact hcontains
  case flows =>
    refine hflows.trans (congrArg Table.ofList (List.map_congr_left fun d _ => ?_))
    rw [endsAmong, endAmong_declared hcontains, endAmong_declared hcontains]
  case dependencies => exact ofText_dependent c text
  case points => exact hplotted
  case curves => exact hcurves
  case sorted =>
    intro e he
    rw [hcurves] at he
    exact curvesIn_sorted hplotted ((Table.mem_insertAll _ he).resolve_left List.not_mem_nil)
  case surfaces => exact hsurfaces
  case gridded =>
    intro e he
    rw [hsurfaces] at he
    exact surfacesIn_gridded hplotted ((Table.mem_insertAll _ he).resolve_left List.not_mem_nil)
  case slots =>
    intro place hplace
    -- What a restart would clear is clear.
    have hclear : m.slots.map Slot.clear = m.slots := hpristine.slots
    have hmem : place ∈ m.slots.map Slot.clear := by
      rw [hclear]
      rw [hm] at hplace
      exact hplace
    obtain ⟨before, -, rfl⟩ := List.mem_map.1 hmem
    rfl
  case history =>
    -- No step has been made, and the capacity is positive, so there is one snapshot.
    have hone : min m.record.history.capacity (m.record.clock.step + 1) = 1 := by
      have hpositive := m.record.history.positive
      have hstep : m.record.clock.step = 0 := congrArg Clock.step hpristine.clock
      omega
    rw [hm, hpristine.traced_record.entries, hone]
    rfl

-- a flow above its stock, which is declared twice, and a stock that has the name of an outside
example : (ofText .default ("flow F \x7b\nfrom: B\nto: sink\n\x7d\nstock B \x7b\n\x7d\n" ++
      "stock sink \x7b\n\x7d\nstock B \x7b\n\x7d")).result.flowEnds.entries =
    [("F", .stock "B", .outside)] := by
  decide +kernel

end Model

end SystemDynamics
