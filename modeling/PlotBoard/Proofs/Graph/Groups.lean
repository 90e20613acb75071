import Mathlib.Data.List.Induction
import PlotBoard.Proofs.Graph.Spanning

namespace PlotBoard

/-!
# Groups of graphs over whole runs

Graphs are added to a group and axes of all its graphs are set to show times, in any order.
A list of points that are not all finite adds nothing. What a group holds after a run can be
read off the calls: the graphs that were added, each with its points, and with times on the
axes whose letter stands in the option of a later call.
-/

/-- A call that changes a group. -/
inductive GroupCall (K : Type) where
  | add (name : String) (points : List (Point K))
  | timeAxes (option : String)

/-- What a call answers: the new graph, the reason why there is none, or the axes it set. -/
inductive GroupAnswer (K : Type) [Scalar K] where
  | added (graph : Graph K)
  | refused (fault : Graph.Fault K)
  | changed (count : Nat)

/-- The call sets the axes of a letter. -/
def GroupCall.sets {K : Type} (letter : Char) : GroupCall K → Bool
  | .add _ _ => false
  | .timeAxes option => letter ∈ option.toList

namespace GraphGroup

variable {K : Type} [Scalar K]

/-- The group after a call, and the answer. -/
def perform (group : GraphGroup K) : GroupCall K → GraphGroup K × GroupAnswer K
  | .add name points =>
      match Graph.create name points with
      | .ok graph => (group.add graph, .added graph)
      | .error fault => (group, .refused fault)
  | .timeAxes option =>
      let (after, count) := group.setTimeAxes option
      (after, .changed count)

/-- The group after calls on an empty group, one after the other. -/
def run (calls : List (GroupCall K)) : GraphGroup K :=
  calls.foldl (fun group call => (group.perform call).1) {}

theorem run_append_singleton (calls : List (GroupCall K)) (call : GroupCall K) :
    run (calls ++ [call]) = ((run calls).perform call).1 :=
  List.foldl_append

/-- Every graph has as many axes to set as the option has letters for. -/
theorem count_setTimeAxes (group : GraphGroup K) (option : String) :
    (group.setTimeAxes option).2 =
      group.graphs.length * (['X', 'Y'].filter (· ∈ option.toList)).length := by
  have letters :
      (if 'X' ∈ option.toList then 1 else 0) + (if 'Y' ∈ option.toList then 1 else 0) =
        (['X', 'Y'].filter (· ∈ option.toList)).length := by
    by_cases onX : 'X' ∈ option.toList <;> by_cases onY : 'Y' ∈ option.toList <;>
      simp [onX, onY]
  rw [setTimeAxes, List.foldl_add_const, Nat.zero_add, Nat.mul_comm, ← letters]

theorem perform_add_of_not_finite
    {points : List (Point K)}
    {point : Point K}
    (member : point ∈ points)
    (notFinite : Graph.isFinitePoint point = false)
    (group : GraphGroup K)
    (name : String) :
    group.perform (.add name points) = (group, .refused (.notFinite name)) := by
  rw [perform, Graph.create_of_not_finite member notFinite]

end GraphGroup

/-- The point in rational numbers, if both of its coordinates are. -/
def Point.rational? (point : Point ExtendedRat) : Option (Point Rat) :=
  match point.x.value?, point.y.value? with
  | some x, some y => some { x := x, y := y }
  | _, _ => none

theorem Point.rational?_eq_some_iff
    {point : Point ExtendedRat}
    {rational : Point Rat} :
    point.rational? = some rational ↔ point = rational.extended := by
  obtain ⟨x, y⟩ := point
  obtain ⟨rationalX, rationalY⟩ := rational
  cases x <;> cases y <;> simp [rational?, extended, ExtendedRat.value?]

theorem Point.rational?_eq_none_iff {point : Point ExtendedRat} :
    point.rational? = none ↔ Graph.isFinitePoint point = false := by
  obtain ⟨x, y⟩ := point
  cases x <;> cases y <;>
    simp [rational?, ExtendedRat.value?, Graph.isFinitePoint, Scalar.isFinite]

/-- The points in rational numbers, if all of them are finite. -/
def rationalPoints? : List (Point ExtendedRat) → Option (List (Point Rat))
  | [] => some []
  | point :: points =>
      match point.rational?, rationalPoints? points with
      | some rational, some rationals => some (rational :: rationals)
      | _, _ => none

theorem rationalPoints?_eq_some_iff
    {points : List (Point ExtendedRat)}
    {rationals : List (Point Rat)} :
    rationalPoints? points = some rationals ↔ points = rationals.map Point.extended := by
  induction points generalizing rationals with
  | nil => cases rationals <;> simp [rationalPoints?]
  | cons point points inductionHypothesis =>
      rw [rationalPoints?]
      cases rationals with
      | nil =>
          split <;> simp
      | cons rational rationals =>
          rw [List.map_cons, List.cons.injEq, ← Point.rational?_eq_some_iff, ← inductionHypothesis]
          cases point.rational? <;> cases rationalPoints? points <;> simp

theorem exists_not_finite_of_rationalPoints?_eq_none
    {points : List (Point ExtendedRat)}
    (none : rationalPoints? points = none) :
    ∃ point ∈ points, Graph.isFinitePoint point = false := by
  induction points with
  | nil => cases none
  | cons point points inductionHypothesis =>
      cases here : point.rational? with
      | none => exact ⟨point, List.mem_cons_self, Point.rational?_eq_none_iff.mp here⟩
      | some rational =>
          cases later : rationalPoints? points with
          | none =>
              obtain ⟨other, member, notFinite⟩ := inductionHypothesis later
              exact ⟨other, List.mem_cons_of_mem point member, notFinite⟩
          | some rationals => simp [rationalPoints?, here, later] at none

namespace AddedGraph

/-- The graph with times on more axes. -/
def showTimes (added : AddedGraph) (onX onY : Bool) : AddedGraph where
  name := added.name
  points := added.points
  timedX := added.timedX || onX
  timedY := added.timedY || onY

/-- The graphs that calls add, with times on the axes that later calls set. -/
def ledger : List (GroupCall ExtendedRat) → List AddedGraph
  | [] => []
  | .timeAxes _ :: later => ledger later
  | .add name points :: later =>
      match rationalPoints? points with
      | none => ledger later
      | some rationals =>
          { name := name
            points := rationals
            timedX := later.any (GroupCall.sets 'X')
            timedY := later.any (GroupCall.sets 'Y') } :: ledger later

theorem ledger_append_add
    (calls : List (GroupCall ExtendedRat))
    (name : String)
    (points : List (Point ExtendedRat)) :
    ledger (calls ++ [.add name points]) =
      ledger calls ++
        (rationalPoints? points).toList.map fun rationals =>
          { name := name, points := rationals } := by
  induction calls with
  | nil =>
      simp only [ledger, List.nil_append]
      cases rationalPoints? points <;> rfl
  | cons call later inductionHypothesis =>
      cases call with
      | timeAxes option => exact inductionHypothesis
      | add otherName otherPoints =>
          rw [List.cons_append, ledger, ledger, inductionHypothesis]
          cases rationalPoints? otherPoints <;> simp [GroupCall.sets]

theorem ledger_append_timeAxes
    (calls : List (GroupCall ExtendedRat))
    (option : String) :
    ledger (calls ++ [.timeAxes option]) =
      (ledger calls).map (·.showTimes ('X' ∈ option.toList) ('Y' ∈ option.toList)) := by
  induction calls with
  | nil => rfl
  | cons call later inductionHypothesis =>
      cases call with
      | timeAxes otherOption => exact inductionHypothesis
      | add name points =>
          rw [List.cons_append, ledger, ledger, inductionHypothesis]
          cases rationalPoints? points <;> simp [GroupCall.sets, showTimes]

end AddedGraph

namespace Graph

theorem spans_timeAxis
    {axis : Axis ExtendedRat}
    {name : String}
    {coordinates : List Rat}
    {timed : Bool}
    (spans : axis.Spans name coordinates timed) :
    (timeAxis axis).Spans name coordinates true where
  name_eq := spans.name_eq
  bins_eq := spans.bins_eq
  limits := spans.limits
  covers := spans.covers
  style_eq := rfl

/-- Times appear on the axes that are wanted, and stay on those that show them. -/
theorem Shows.showTimes
    {graph : Graph ExtendedRat}
    {added : AddedGraph}
    (shows : graph.Shows added)
    (onX onY : Bool) :
    (graph.showTimes onX onY).Shows (added.showTimes onX onY) where
  name_eq := shows.name_eq
  points_eq := shows.points_eq
  xAxis_spans := by
    cases onX with
    | false => simpa [Graph.showTimes, AddedGraph.showTimes] using shows.xAxis_spans
    | true => simpa [Graph.showTimes, AddedGraph.showTimes] using spans_timeAxis shows.xAxis_spans
  yAxis_spans := by
    cases onY with
    | false => simpa [Graph.showTimes, AddedGraph.showTimes] using shows.yAxis_spans
    | true => simpa [Graph.showTimes, AddedGraph.showTimes] using spans_timeAxis shows.yAxis_spans

end Graph

namespace GraphGroup

theorem exists_perform_add
    (group : GraphGroup ExtendedRat)
    (name : String)
    (points : List (Point Rat)) :
    ∃ graph,
      group.perform (.add name (points.map Point.extended)) = (group.add graph, .added graph) ∧
        graph.Shows { name := name, points := points } := by
  obtain ⟨graph, created, shows⟩ := Graph.exists_create name points
  refine ⟨graph, ?_, shows⟩
  rw [perform, created]

/-- One more call keeps the graphs of a group in step with the graphs that calls add. -/
theorem shows_perform
    {calls : List (GroupCall ExtendedRat)}
    {group : GraphGroup ExtendedRat}
    (inStep : List.Forall₂ Graph.Shows group.graphs (AddedGraph.ledger calls))
    (call : GroupCall ExtendedRat) :
    List.Forall₂ Graph.Shows (group.perform call).1.graphs
      (AddedGraph.ledger (calls ++ [call])) := by
  cases call with
  | add name points =>
      rw [AddedGraph.ledger_append_add]
      cases found : rationalPoints? points with
      | none =>
          obtain ⟨point, member, notFinite⟩ := exists_not_finite_of_rationalPoints?_eq_none found
          rw [perform_add_of_not_finite member notFinite]
          simpa using inStep
      | some rationals =>
          obtain rfl := rationalPoints?_eq_some_iff.mp found
          obtain ⟨graph, performed, shows⟩ := group.exists_perform_add name rationals
          rw [performed]
          exact List.rel_append inStep (.cons shows .nil)
  | timeAxes option =>
      rw [AddedGraph.ledger_append_timeAxes]
      simp only [perform, setTimeAxes]
      rw [List.forall₂_map_left_iff, List.forall₂_map_right_iff]
      exact inStep.imp fun _ _ shows => shows.showTimes _ _

/-- After every run the group holds the graphs that the calls add. -/
theorem shows_run (calls : List (GroupCall ExtendedRat)) :
    List.Forall₂ Graph.Shows (run calls).graphs (AddedGraph.ledger calls) := by
  induction calls using List.reverseRecOn with
  | nil => exact .nil
  | append_singleton calls call inductionHypothesis =>
      rw [run_append_singleton]
      exact shows_perform inductionHypothesis call

/--
After every run of calls on an empty group the graphs are those that were added from finite
points, in order. Each keeps its points, its axes have a hundred bins and span exactly the
coordinates of the points, and an axis shows times when its letter stands in the option of
a call after the graph was added; otherwise its style is the one of a new axis. Points of
which one is not finite are refused and change nothing, and all others are accepted. A call
that sets axes answers how many there are.
-/
theorem run_calls (calls : List (GroupCall ExtendedRat)) :
    List.Forall₂ Graph.Shows (run calls).graphs (AddedGraph.ledger calls) ∧
      (∀ name points,
        (∃ point ∈ points, ¬(Scalar.isFinite point.x ∧ Scalar.isFinite point.y)) →
          (run calls).perform (.add name points) = (run calls, .refused (.notFinite name))) ∧
      (∀ name points,
        (∀ point ∈ points, Scalar.isFinite point.x ∧ Scalar.isFinite point.y) →
          ∃ rationals graph,
            points = rationals.map Point.extended ∧
              (run calls).perform (.add name points) = ((run calls).add graph, .added graph) ∧
              graph.Shows { name := name, points := rationals }) ∧
      ∀ option,
        ((run calls).perform (.timeAxes option)).2 =
          .changed
            ((run calls).graphs.length * (['X', 'Y'].filter (· ∈ option.toList)).length) := by
  refine ⟨shows_run calls, ?refused, ?accepted, ?answered⟩
  case refused =>
    rintro name points ⟨point, member, notFinite⟩
    apply perform_add_of_not_finite member
    simpa [Graph.isFinitePoint] using notFinite
  case accepted =>
    intro name points allFinite
    cases found : rationalPoints? points with
    | none =>
        obtain ⟨point, member, notFinite⟩ := exists_not_finite_of_rationalPoints?_eq_none found
        simp [Graph.isFinitePoint, allFinite point member] at notFinite
    | some rationals =>
        obtain rfl := rationalPoints?_eq_some_iff.mp found
        obtain ⟨graph, performed, shows⟩ := (run calls).exists_perform_add name rationals
        exact ⟨rationals, graph, rfl, performed, shows⟩
  case answered =>
    intro option
    exact congrArg GroupAnswer.changed ((run calls).count_setTimeAxes option)

/-- Two graphs with a refused one between them; the second one is added after times on `X`. -/
def sampleCalls : List (GroupCall ExtendedRat) :=
  [.add "steps" [⟨.finite 1, .finite 5⟩, ⟨.finite 3, .finite 2⟩],
    .timeAxes "XX",
    .add "broken" [⟨.finite 0, .notANumber⟩],
    .add "flat" [⟨.finite 4, .finite 4⟩],
    .timeAxes "Y"]

theorem run_calls_sampleCalls :
    ∃ first second,
      (run sampleCalls).graphs = [first, second] ∧
        first.Shows
          { name := "steps"
            points := [⟨1, 5⟩, ⟨3, 2⟩]
            timedX := true
            timedY := true } ∧
        second.Shows { name := "flat", points := [⟨4, 4⟩], timedY := true } ∧
        (run sampleCalls).perform (.add "broken" [⟨.infinity true, .finite 0⟩]) =
          (run sampleCalls, .refused (.notFinite "broken")) ∧
        ((run sampleCalls).perform (.timeAxes "YX")).2 = .changed 4 := by
  obtain ⟨shows, refused, -, answered⟩ := run_calls sampleCalls
  have added :
      AddedGraph.ledger sampleCalls =
        [{ name := "steps", points := [⟨1, 5⟩, ⟨3, 2⟩], timedX := true, timedY := true },
          { name := "flat", points := [⟨4, 4⟩], timedY := true }] := by
    rfl
  have answer := answered "YX"
  have isRefused := refused "broken" [⟨.infinity true, .finite 0⟩] (by simp [Scalar.isFinite])
  rw [added] at shows
  cases held : (run sampleCalls).graphs with
  | nil =>
      rw [held] at shows
      cases shows
  | cons first rest =>
      rw [held] at shows answer
      obtain ⟨firstShows, restShows⟩ := List.forall₂_cons.mp shows
      obtain ⟨second, rest, secondShows, restEmpty, rfl⟩ :=
        List.forall₂_cons_right_iff.mp restShows
      obtain rfl := List.forall₂_nil_right_iff.mp restEmpty
      exact ⟨first, second, rfl, firstShows, secondShows, isRefused, answer⟩

end GraphGroup

end PlotBoard
