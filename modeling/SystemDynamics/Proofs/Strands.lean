import SystemDynamics.Model.Load

/-!
# The order of declarations

Declarations fall into five strands by what they add to: constants and stocks, curves, surfaces,
graphs, and what moves amounts or ends a run. A property of a stock reads the constants so far, and
a flow claims the next slots, so within a strand the order counts. Between strands it does not.
Loading constants and stocks neither reads nor changes the three tables (`Model.load_tabulate`), so
the first pass loads them as if the tables were not there, and fills each table from its own strand
(`Model.loadAll_first`). The second pass has the last strand to itself. So two lists of declarations
with the same strands make the same model, and note the same on the way
(`Model.ofDeclarations_strands`).
-/

namespace SystemDynamics

/-- The parts of a description whose orders count, each by itself. -/
inductive Strand where
  | quantities | curves | surfaces | graphs | activity
  deriving DecidableEq

/-- The strand of the declarations of a kind. -/
def BlockKind.strand : BlockKind → Strand
  | const | stock => .quantities
  | lookup => .curves
  | lookup2d => .surfaces
  | graph => .graphs
  | flow | terminate => .activity

theorem BlockKind.strand_eq_curves {k : BlockKind} : k.strand = .curves ↔ k = .lookup := by
  cases k <;> decide

theorem BlockKind.strand_eq_surfaces {k : BlockKind} : k.strand = .surfaces ↔ k = .lookup2d := by
  cases k <;> decide

namespace Declaration

/-- The declarations of a strand, in their order. -/
def along (s : Strand) (ds : List Declaration) : List Declaration :=
  ds.filter (·.kind.strand = s)

/-- The declaration without the line it stands on. -/
def unplaced (d : Declaration) : Declaration := { d with line := 0 }

theorem mem_along {s : Strand} {d : Declaration} {ds : List Declaration} :
    d ∈ along s ds ↔ d ∈ ds ∧ d.kind.strand = s := by
  rw [along, List.mem_filter, decide_eq_true_iff]

end Declaration

namespace Model

open Declaration

/-! ## Tables -/

/-- The curves that are declared, by name. -/
def curvesIn (ds : List Declaration) : List (String × Curve Float) :=
  (along .curves ds).map fun d => (d.name, .ofPoints d.name (curvePoints d.points))

/-- The surfaces that are declared, by name. -/
def surfacesIn (ds : List Declaration) : List (String × Surface Float) :=
  (along .surfaces ds).map fun d => (d.name, .ofPoints d.name (surfacePoints d.points))

/-- The graphs that are declared, by name. -/
def graphsIn (ds : List Declaration) : List (String × Graph) :=
  (along .graphs ds).map fun d => (d.name, {
    title := some ((properText? d "title").getD d.name)
    series := listed (d.properties.get? "variables")
    type := (properText? d "type").getD "line"
    yAxisLabel := textOf d "yAxisLabel"
    color := textOf d "color" })

/-- The model with what is declared for its tables. -/
def tabulate (ds : List Declaration) (m : Model) : Model :=
  { m with
    curves := m.curves.insertAll (curvesIn ds)
    surfaces := m.surfaces.insertAll (surfacesIn ds)
    graphs := m.graphs.insertAll (graphsIn ds) }

theorem tabulate_append (ds es : List Declaration) (m : Model) :
    tabulate (ds ++ es) m = tabulate es (tabulate ds m) := by
  simp [tabulate, curvesIn, surfacesIn, graphsIn, along, Table.insertAll]

theorem tabulate_quantity {d : Declaration} (hd : d.kind.strand = .quantities) (m : Model) :
    tabulate [d] m = m := by
  simp [tabulate, curvesIn, surfacesIn, graphsIn, along, hd, Table.insertAll]

/-- Loading the declaration of a table does nothing else. -/
theorem load_table {d : Declaration} (hquantity : d.kind.strand ≠ .quantities)
    (hactivity : d.kind.strand ≠ .activity) (m : Model) : m.load d = pure (tabulate [d] m) := by
  unfold load
  rcases hkind : d.kind <;> rw [hkind] at hquantity hactivity
  case graph | lookup | lookup2d =>
    simp [tabulate, curvesIn, surfacesIn, graphsIn, along, hkind, BlockKind.strand, Table.insertAll]
    rfl
  case const | stock => exact absurd rfl hquantity
  case flow | terminate => exact absurd rfl hactivity

theorem constantOf_tabulate (ds : List Declaration) (m : Model) (label : String)
    (default : Option Float) (v : Option PropertyValue) :
    (tabulate ds m).constantOf label default v =
      (fun r => (tabulate ds r.1, r.2)) <$> m.constantOf label default v := by
  have hscope : (tabulate ds m).scope.constant? = m.scope.constant? := rfl
  -- A text is evaluated over the constants, which both models have.
  have hother : ∀ v : PropertyValue, (∀ x, v ≠ .number x) →
      (tabulate ds m).constantOf label default (some v) =
        (fun r => (tabulate ds r.1, r.2)) <$> m.constantOf label default (some v) := by
    intro v hv
    rw [constantOf, constantOf, hscope]
    · split <;> rfl
    · exact hv
    · exact hv
  rcases v with _ | (s | x | s)
  · rfl
  · exact hother _ fun x h => nomatch h
  · rfl
  · exact hother _ fun x h => nomatch h

/-- Constants and stocks are loaded without regard to the tables. -/
theorem load_tabulate {d : Declaration} (hd : d.kind.strand = .quantities) (ds : List Declaration)
    (m : Model) : (tabulate ds m).load d = tabulate ds <$> m.load d := by
  unfold load
  rcases hkind : d.kind <;> rw [hkind] at hd
  case const =>
    simp only [loadConstant, constantOf_tabulate, bind_map_left, map_bind]
    rfl
  case stock =>
    simp only [loadStock, constantOf_tabulate, bind_map_left, map_bind]
    rfl
  all_goals cases hd

theorem loadAll_tabulate (ds : List Declaration) : ∀ (es : List Declaration) (m : Model),
    (∀ d ∈ es, d.kind.strand = .quantities) →
      loadAll es (tabulate ds m) = tabulate ds <$> loadAll es m
  | [], _, _ => rfl
  | d :: es, m, h => by
    rw [loadAll, loadAll, load_tabulate (h d (.head es))]
    simp only [bind_map_left, map_bind]
    exact congrArg _ (funext fun n => loadAll_tabulate ds es n fun e he => h e (.tail d he))

/-! ## The two passes -/

/-- The first pass loads the constants and stocks, and then fills the tables. -/
theorem loadAll_first : ∀ (ds : List Declaration) (m : Model),
    (∀ d ∈ ds, d.kind.strand ≠ .activity) →
      loadAll ds m = tabulate ds <$> loadAll (along .quantities ds) m
  | [], _, _ => rfl
  | d :: ds, m, h => by
    have ih := fun n => loadAll_first ds n fun e he => h e (.tail d he)
    have hcons : tabulate (d :: ds) = fun n => tabulate ds (tabulate [d] n) :=
      funext (tabulate_append [d] ds)
    by_cases hd : d.kind.strand = .quantities
    · have halong : along .quantities (d :: ds) = d :: along .quantities ds := by
        simp [along, hd]
      have hsame : tabulate (d :: ds) = tabulate ds := by
        rw [hcons]
        exact funext fun n => by rw [tabulate_quantity hd]
      rw [halong, hsame, loadAll, loadAll, map_bind]
      exact congrArg _ (funext ih)
    -- The declaration of a table goes behind the constants and stocks that follow.
    · have halong : along .quantities (d :: ds) = along .quantities ds := by
        simp [along, hd]
      have hquantities : ∀ e ∈ along .quantities ds, e.kind.strand = .quantities := fun e he =>
        (mem_along.1 he).2
      rw [halong, hcons, loadAll, load_table hd (h d (.head ds)), pure_bind, ih,
        loadAll_tabulate [d] _ m hquantities, Functor.map_map]

theorem loadAll_unplaced : ∀ (ds : List Declaration) (m : Model),
    loadAll (ds.map unplaced) m = loadAll ds m
  | [], _ => rfl
  | d :: ds, m => by
    have hd : m.load d.unplaced = m.load d := rfl
    rw [List.map_cons, loadAll, loadAll, hd]
    exact congrArg _ (funext (loadAll_unplaced ds))

theorem isDeferred_eq (d : Declaration) : isDeferred d = decide (d.kind.strand = .activity) := by
  unfold isDeferred
  cases d.kind <;> decide

theorem isDeferred_iff {d : Declaration} : isDeferred d = true ↔ d.kind.strand = .activity := by
  rw [isDeferred_eq, decide_eq_true_iff]

theorem along_first {s : Strand} (hs : s ≠ .activity) (ds : List Declaration) :
    along s (ds.filter (!isDeferred ·)) = along s ds := by
  unfold along
  rw [List.filter_filter]
  refine List.filter_congr fun d _ => ?_
  by_cases hd : d.kind.strand = s
  · simp [isDeferred_eq, hd, hs]
  · simp [hd]

/-- A model is made of the strands of its declarations. -/
theorem ofDeclarations_eq (c : Capacities) (ds : List Declaration) :
    ofDeclarations c ds = (do
      let start := empty c.history (.withCapacity c.diagnostics .warning)
      let m ← loadAll (along .quantities ds) start
      let m ← loadAll (along .activity ds) (tabulate ds m)
      return m.record) := by
  have hlast : ds.filter isDeferred = along .activity ds :=
    List.filter_congr fun d _ => isDeferred_eq d
  have hfirst : ∀ d ∈ ds.filter (!isDeferred ·), d.kind.strand ≠ .activity := by
    intro d hd
    simpa [isDeferred_eq] using (List.mem_filter.1 hd).2
  have htables : tabulate (ds.filter (!isDeferred ·)) = tabulate ds := by
    unfold tabulate curvesIn surfacesIn graphsIn
    rw [along_first (by decide), along_first (by decide), along_first (by decide)]
  unfold ofDeclarations
  simp only [loadAll_first _ _ hfirst, along_first (s := .quantities) (by decide), hlast, htables,
    bind_map_left]

/-- Only the order within each strand of the declarations counts, and not on which lines they
stand. -/
theorem ofDeclarations_strands (c : Capacities) {ds es : List Declaration}
    (h : ∀ s, (along s ds).map unplaced = (along s es).map unplaced) :
    ofDeclarations c ds = ofDeclarations c es := by
  have hload : ∀ s m, loadAll (along s ds) m = loadAll (along s es) m := fun s m => by
    rw [← loadAll_unplaced, h s, loadAll_unplaced]
  have hmap : ∀ {α : Type} (s : Strand) (f : Declaration → α), (∀ d, f d.unplaced = f d) →
      (along s ds).map f = (along s es).map f := by
    intro α s f hf
    have heach : f = f ∘ unplaced := funext fun d => (hf d).symm
    rw [heach, ← List.map_map, h s, List.map_map]
  have htables : tabulate ds = tabulate es := by
    have hcurves : curvesIn ds = curvesIn es := hmap .curves _ fun _ => rfl
    have hsurfaces : surfacesIn ds = surfacesIn es := hmap .surfaces _ fun _ => rfl
    have hgraphs : graphsIn ds = graphsIn es := hmap .graphs _ fun _ => rfl
    unfold tabulate
    rw [hcurves, hsurfaces, hgraphs]
  simp only [ofDeclarations_eq, hload, htables]

/-- A stock with a flow, and a curve and a constant that are declared twice. -/
def growthAbove : List Declaration :=
  (Declaration.ofText
    ("const k = 2\nstock S \x7b\ninitial: k\n\x7d\nconst k = 3\n" ++
      "lookup L \x7b\n\x7d\nlookup L \x7b\n[1, 3]\n\x7d\nflow F \x7b\nto: S\n\x7d")).result

/-- The same, the flow above what it names, and the curves in between. -/
def growthBelow : List Declaration :=
  (Declaration.ofText
    ("flow F \x7b\nto: S\n\x7d\nconst k = 2\nlookup L \x7b\n\x7d\n" ++
      "stock S \x7b\ninitial: k\n\x7d\nlookup L \x7b\n[1, 3]\n\x7d\nconst k = 3")).result

theorem ofDeclarations_strands_growth :
    growthAbove.map (fun d => (d.name, d.points)) =
        [("k", []), ("S", []), ("k", []), ("L", []), ("L", [[1.0, 3.0]]), ("F", [])] ∧
      growthBelow.map (fun d => (d.name, d.points)) =
        [("F", []), ("k", []), ("L", []), ("S", []), ("L", [[1.0, 3.0]]), ("k", [])] ∧
      ofDeclarations .default growthAbove = ofDeclarations .default growthBelow := by
  have hparts : growthAbove.map (fun d => (d.name, d.points)) =
        [("k", []), ("S", []), ("k", []), ("L", []), ("L", [[1.0, 3.0]]), ("F", [])] ∧
      growthBelow.map (fun d => (d.name, d.points)) =
        [("F", []), ("k", []), ("L", []), ("S", []), ("L", [[1.0, 3.0]]), ("k", [])] ∧
      ∀ s ∈ [Strand.quantities, .curves, .surfaces, .graphs, .activity],
        (along s growthAbove).map unplaced = (along s growthBelow).map unplaced := by
    decide +kernel
  refine ⟨hparts.1, hparts.2.1, ofDeclarations_strands .default fun s => hparts.2.2 s ?_⟩
  cases s <;> decide

end Model

end SystemDynamics
