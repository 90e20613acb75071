import PlotBoard.Catalog
import PlotBoard.Proofs.Number.Lists
import PlotBoard.Proofs.Query.Agreement
import PlotBoard.Proofs.Query.Restriction
import PlotBoard.Query.Shelf

namespace PlotBoard

/-!
# What the name of a projection tells

A projection is named after its source and the kept axes. The source may have any
name, that of an earlier projection too: after the last `j` in the name of a
projection there are only underscores and digits, so this `j` belongs to the mark
between source and axes. A look-up among projections therefore never confuses two of
them that differ in the name of the source or in the kept axes.
-/

/-- A text is cut in only one way at its last character of a kind. -/
theorem append_cons_inj_of_not_mem
    {front otherFront rest otherRest : List Char}
    {mark : Char}
    (isLast : mark ∉ rest)
    (isOtherLast : mark ∉ otherRest)
    (sameText : front ++ mark :: rest = otherFront ++ mark :: otherRest) :
    front = otherFront ∧ rest = otherRest := by
  rcases List.append_eq_append_iff.mp sameText with ⟨between, otherSplit, restSplit⟩ |
    ⟨between, frontSplit, otherRestSplit⟩
  · cases between with
    | nil =>
        rw [List.append_nil] at otherSplit
        exact ⟨otherSplit.symm, (List.cons.inj restSplit).2⟩
    | cons first between =>
        obtain ⟨-, rfl⟩ := List.cons.inj restSplit
        simp at isLast
  · cases between with
    | nil =>
        rw [List.append_nil] at frontSplit
        exact ⟨frontSplit, (List.cons.inj otherRestSplit).2.symm⟩
    | cons first between =>
        obtain ⟨-, rfl⟩ := List.cons.inj otherRestSplit
        simp at isOtherLast

namespace Histogram

theorem toList_projectionName
    (name : String)
    (keep : List Nat) :
    (projectionName name keep).toList =
      (name.toList ++ "_pro".toList) ++ 'j' :: '_' :: Literal.joined '_' keep := by
  have written : keep.map (String.toList ∘ toString) = keep.map (Nat.toDigits 10) := by
    apply List.map_congr_left
    intro axis _
    simp
  have mark : "_proj_".toList = "_pro".toList ++ ['j', '_'] := rfl
  rw [projectionName, String.toList_append, String.toList_append, String.toList_intercalate,
    List.map_map, written, mark]
  simp [Literal.joined]

/-- The name of a projection tells the name of the source and the kept axes. -/
theorem projectionName_inj
    {name otherName : String}
    {keep otherKeep : List Nat}
    (nonempty : keep ≠ [])
    (otherNonempty : otherKeep ≠ [])
    (sameName : projectionName name keep = projectionName otherName otherKeep) :
    name = otherName ∧ keep = otherKeep := by
  have afterMark (axes : List Nat) : 'j' ∉ '_' :: Literal.joined '_' axes := by
    intro member
    rcases List.mem_cons.mp member with isUnderscore | inAxes
    · exact absurd isUnderscore (by decide)
    · exact absurd (Literal.isDigit_or_eq_of_mem_joined inAxes) (by decide)
  have sameText := congrArg String.toList sameName
  rw [toList_projectionName, toList_projectionName] at sameText
  obtain ⟨sameFront, sameRest⟩ :=
    append_cons_inj_of_not_mem (afterMark keep) (afterMark otherKeep) sameText
  constructor
  · exact String.toList_inj.mp (List.append_cancel_right sameFront)
  · exact Literal.joined_inj (by decide) nonempty otherNonempty (List.cons.inj sameRest).2

end Histogram

variable {K C : Type} [Scalar K] [Scalar C] [ReadsLiterals K]

/-- A histogram that comes from projecting a source, directly or by an expression. -/
inductive ProjectedFrom (source : Histogram K C) (keep : List Nat) : Histogram K C → Prop
  | direct
      {result : Histogram K C}
      (projected : source.projection keep = .ok result) :
      ProjectedFrom source keep result
  | planned
      {interpreter : Interpreter K C}
      {expression : Expression}
      {projected : Projected K C}
      (keeps : expression.keep = keep)
      (plan : interpreter.plan expression source = .ok (.projected projected)) :
      ProjectedFrom source keep projected.histogram

namespace Interpreter

omit [Scalar C] [ReadsLiterals K] in
/-- Titles and restrictions leave the name of a histogram as it is. -/
theorem name_shown
    (interpreter : Interpreter K C)
    (clause : Option (RangeClause K))
    (histogram : Histogram K C) :
    ((interpreter.titled histogram).restrictAxis 0 clause).name = histogram.name := by
  obtain ⟨sameName, -, -⟩ := (interpreter.titled histogram).sameButAxes_restrictAxis 0 clause
  rw [sameName, titled]
  split <;> rfl

/-- A projection that an expression asks for is shown with titles and perhaps a restriction. -/
theorem exists_shown_of_projection_eq_ok
    {interpreter : Interpreter K C}
    {expression : Expression}
    {input : Histogram K C}
    {projected : Projected K C}
    (succeeds : interpreter.projection expression input = .ok projected) :
    ∃ result clause,
      input.projection expression.keep = .ok result ∧
        projected.histogram = (interpreter.titled result).restrictAxis 0 clause := by
  by_cases atMostThree : expression.projection.length ≤ 3
  · obtain ⟨result, clause, plot, found, -, rfl, shown⟩ :=
      exists_plot_of_projection_eq_ok atMostThree succeeds
    exact ⟨result, clause, found, shown⟩
  · cases found : input.projection expression.keep with
    | error error =>
        rw [projection, found] at succeeds
        split at succeeds <;> cases succeeds
    | ok result =>
        obtain ⟨titled, -⟩ := projection_of_many (Nat.not_le.mp atMostThree) found
        obtain rfl := Except.ok.inj (titled.symm.trans succeeds)
        exact ⟨result, none, rfl, rfl⟩

theorem projection_eq_ok_of_plan_eq_ok
    {interpreter : Interpreter K C}
    {expression : Expression}
    {input : Histogram K C}
    {projected : Projected K C}
    (planned : interpreter.plan expression input = .ok (.projected projected)) :
    interpreter.projection expression input = .ok projected := by
  rw [plan] at planned
  split at planned
  · cases found : interpreter.projection expression input with
    | error error =>
        rw [found] at planned
        cases planned
    | ok other =>
        rw [found] at planned
        obtain rfl := Outcome.projected.inj (Except.ok.inj planned)
        rfl
  · cases planned

/-- What a drawn text leaves behind is projected from the histogram of its name. -/
theorem exists_projectedFrom_of_draw
    {S : Type}
    {interpreter : Interpreter K C}
    {renderer : Renderer K C S}
    {text : String}
    {state : S}
    {projected : Projected K C}
    (succeeds : (interpreter.draw renderer text state).1 = .ok (.projected projected)) :
    ∃ expression source,
      Expression.parse text = .ok expression ∧
        interpreter.resolve expression.name = .ok source ∧
        ProjectedFrom source expression.keep projected.histogram := by
  rw [draw] at succeeds
  split at succeeds
  · cases succeeds
  · next source named =>
      split at succeeds
      · cases succeeds
      · next expression parsed =>
          rw [Expression.nameOf_of_parse parsed] at named
          exact
            ⟨expression, source, parsed, named,
              .planned rfl (eq_ok_of_carryOut_eq_ok succeeds)⟩

end Interpreter

namespace ProjectedFrom

variable {source other shown otherShown : Histogram K C} {keep otherKeep : List Nat}

/-- What is projected is named after the source and the axes. -/
theorem name_eq (origin : ProjectedFrom source keep shown) :
    keep ≠ [] ∧ shown.name = Histogram.projectionName source.name keep := by
  cases origin with
  | direct projected =>
      obtain ⟨nonempty, -, -, isProjection⟩ :=
        Histogram.isProjection_of_projection_eq_ok projected
      exact ⟨nonempty, isProjection.name_eq⟩
  | planned keeps plan =>
      obtain ⟨result, clause, found, shown⟩ :=
        Interpreter.exists_shown_of_projection_eq_ok
          (Interpreter.projection_eq_ok_of_plan_eq_ok plan)
      obtain ⟨nonempty, -, -, isProjection⟩ :=
        Histogram.isProjection_of_projection_eq_ok found
      subst keeps
      rw [shown, Interpreter.name_shown]
      exact ⟨nonempty, isProjection.name_eq⟩

/-- A name of a projection belongs to one name of a source and one list of axes. -/
theorem source_eq_of_name_eq
    (origin : ProjectedFrom source keep shown)
    (otherOrigin : ProjectedFrom other otherKeep otherShown)
    (sameName : shown.name = otherShown.name) :
    source.name = other.name ∧ keep = otherKeep := by
  obtain ⟨nonempty, name⟩ := origin.name_eq
  obtain ⟨otherNonempty, otherName⟩ := otherOrigin.name_eq
  rw [name, otherName] at sameName
  exact Histogram.projectionName_inj nonempty otherNonempty sameName

end ProjectedFrom

/-- All of the histograms come from projecting. -/
def OnlyProjections (histograms : List (Histogram K C)) : Prop :=
  ∀ histogram ∈ histograms, ∃ source keep, ProjectedFrom source keep histogram

/-- A histogram comes from projecting a source of this name onto these axes and nothing else. -/
structure IdentifiedBy (name : String) (keep : List Nat) (histogram : Histogram K C) : Prop where
  exists_origin : ∃ source, source.name = name ∧ ProjectedFrom source keep histogram
  origin_eq :
    ∀ source axes, ProjectedFrom source axes histogram → source.name = name ∧ axes = keep

theorem OnlyProjections.identifiedBy
    {histograms : List (Histogram K C)}
    (onlyProjections : OnlyProjections histograms)
    {histogram : Histogram K C}
    (member : histogram ∈ histograms)
    {name : String}
    {keep : List Nat}
    (nonempty : keep ≠ [])
    (named : histogram.name = Histogram.projectionName name keep) :
    IdentifiedBy name keep histogram := by
  have origin_eq
      (source : Histogram K C)
      (axes : List Nat)
      (origin : ProjectedFrom source axes histogram) :
      source.name = name ∧ axes = keep := by
    obtain ⟨axesNonempty, sourceNamed⟩ := origin.name_eq
    exact Histogram.projectionName_inj axesNonempty nonempty (sourceNamed.symm.trans named)
  obtain ⟨source, axes, origin⟩ := onlyProjections histogram member
  obtain ⟨rfl, rfl⟩ := origin_eq source axes origin
  exact ⟨⟨source, rfl, origin⟩, origin_eq⟩

/--
A projection is named after the name of its source and the kept axes, and two
projections of one name agree in both, whatever the names of the sources are. So
what is found among projections by the name of a projection comes from a source of
that name and those axes only, in a catalog and on a shelf. What a drawn text leaves
behind as projected is such a projection.
-/
theorem projection_names_identify :
    (∀ (source shown : Histogram K C) (keep : List Nat),
      ProjectedFrom source keep shown →
        keep ≠ [] ∧ shown.name = Histogram.projectionName source.name keep) ∧
      (∀ (source other shown otherShown : Histogram K C) (keep otherKeep : List Nat),
        ProjectedFrom source keep shown →
          ProjectedFrom other otherKeep otherShown →
            shown.name = otherShown.name →
              source.name = other.name ∧ keep = otherKeep) ∧
      (∀ (name : String) (keep : List Nat),
        keep ≠ [] →
          (∀ (catalog : Catalog K C) (found : Histogram K C),
            OnlyProjections catalog.histograms →
              catalog.find? (Histogram.projectionName name keep) = some found →
                IdentifiedBy name keep found) ∧
            ∀ (shelf : Shelf K C) (found : Outcome K C),
              OnlyProjections (shelf.outcomes.map Outcome.histogram) →
                shelf.find? (Histogram.projectionName name keep) = some found →
                  IdentifiedBy name keep found.histogram) ∧
      ∀ (S : Type) (interpreter : Interpreter K C) (renderer : Renderer K C S) (text : String)
          (state : S) (projected : Projected K C),
        (interpreter.draw renderer text state).1 = .ok (.projected projected) →
          ∃ expression source,
            Expression.parse text = .ok expression ∧
              interpreter.resolve expression.name = .ok source ∧
              ProjectedFrom source expression.keep projected.histogram := by
  refine ⟨fun _ _ _ origin => origin.name_eq, ?agree, ?lookUp, ?drawn⟩
  case agree =>
    intro source other shown otherShown keep otherKeep origin otherOrigin sameName
    exact origin.source_eq_of_name_eq otherOrigin sameName
  case lookUp =>
    intro name keep nonempty
    constructor
    · intro catalog found onlyProjections isFound
      have named := List.find?_some isFound
      exact onlyProjections.identifiedBy (List.mem_of_find?_eq_some isFound) nonempty
        (by simpa using named)
    · intro shelf found onlyProjections isFound
      have named := List.find?_some isFound
      have member : found.histogram ∈ shelf.outcomes.map Outcome.histogram :=
        List.mem_map_of_mem (List.mem_of_find?_eq_some isFound)
      exact onlyProjections.identifiedBy member nonempty (by simpa using named)
  case drawn =>
    intro S interpreter renderer text state projected succeeds
    exact Interpreter.exists_projectedFrom_of_draw succeeds

namespace Interpreter

/--
The projection of a projection has the mark twice in its name. It is found beside the
projection that it comes from; a drawn projection is found on the shelf it was put on.
-/
theorem projection_names_identify_sampleInput :
    (∃ once twice,
      sampleInput.projection [1] = .ok once ∧
        once.projection [0] = .ok twice ∧
        Catalog.find? ⟨[once, twice]⟩ "grid_proj_1_proj_0" = some twice ∧
        IdentifiedBy "grid_proj_1" [0] twice) ∧
      ∃ projected,
        (sampleInterpreter.draw .recording "grid(2,3)(0)" []).1 = .ok (.projected projected) ∧
          Shelf.find? ⟨[.projected projected]⟩ "grid_proj_0" = some (.projected projected) ∧
          IdentifiedBy "grid" [0] projected.histogram := by
  obtain ⟨-, -, lookUp, drawn⟩ := projection_names_identify (K := Float) (C := Rat)
  constructor
  · have keeps : Histogram.Keeps sampleInput.dimensions [1] := ⟨by decide, by decide⟩
    obtain ⟨once, projectedOnce, onceFacts⟩ :=
      Histogram.projection_of_keeps (by decide) keeps.length_le keeps
    have oneAxis : once.dimensions = 1 := onceFacts.dimensions_eq
    have keepsAgain : Histogram.Keeps once.dimensions [0] := ⟨by simp [oneAxis], by decide⟩
    obtain ⟨twice, projectedTwice, twiceFacts⟩ :=
      Histogram.projection_of_keeps (by decide) keepsAgain.length_le keepsAgain
    have onceNamed : once.name = "grid_proj_1" := onceFacts.name_eq
    have twiceNamed : twice.name = "grid_proj_1_proj_0" := by
      rw [twiceFacts.name_eq, onceNamed]
      rfl
    have found : Catalog.find? ⟨[once, twice]⟩ "grid_proj_1_proj_0" = some twice := by
      simp [Catalog.find?, onceNamed, twiceNamed]
    have onlyProjections : OnlyProjections [once, twice] := by
      simp only [OnlyProjections, List.forall_mem_cons, List.not_mem_nil, false_implies,
        implies_true, and_true]
      exact ⟨⟨_, _, .direct projectedOnce⟩, ⟨_, _, .direct projectedTwice⟩⟩
    refine ⟨once, twice, projectedOnce, projectedTwice, found, ?_⟩
    exact (lookUp "grid_proj_1" [0] (by decide)).1 ⟨[once, twice]⟩ twice onlyProjections found
  · have resolved : sampleInterpreter.resolve sampleExpression.name = .ok sampleInput := by
      rfl
    have parsed : Expression.parse "grid(2,3)(0)" = .ok sampleExpression := by
      rfl
    have clause :
        RangeClause.parse sampleExpression.range = .ok (some (.bins 2 3 : RangeClause Float)) := by
      rfl
    obtain ⟨outcome, evaluated⟩ :=
      exists_outcome_recording resolved (by decide) (by decide) (by decide)
        ⟨by decide, by decide⟩ clause []
    have planned := eq_ok_of_carryOut_eq_ok evaluated
    rw [resolved] at planned
    obtain ⟨projected, -, rfl⟩ := exists_projection_of_plan_eq_ok (by decide) planned
    rw [← draw_of_parse_eq_ok parsed] at evaluated
    obtain ⟨expression, source, -, -, origin⟩ := drawn _ _ _ _ _ _ evaluated
    have onlyProjections : OnlyProjections [(Outcome.projected projected).histogram] := by
      simpa [OnlyProjections] using ⟨source, expression.keep, origin⟩
    have named : projected.histogram.name = "grid_proj_0" :=
      (ProjectedFrom.planned rfl planned).name_eq.2
    have found :
        Shelf.find? ⟨[.projected projected]⟩ "grid_proj_0" = some (.projected projected) := by
      simp [Shelf.find?, Outcome.histogram, named]
    refine ⟨projected, evaluated, found, ?_⟩
    exact
      (lookUp "grid" [0] (by decide)).2 ⟨[.projected projected]⟩ (.projected projected)
        onlyProjections found

end Interpreter

end PlotBoard
