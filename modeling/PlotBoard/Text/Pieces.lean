namespace PlotBoard.Text

/-!
# Pieces between separators

`pieces` cuts a text at every separator. One more piece than separators comes out, so
that the empty text has one empty piece.
-/

/-- The maximal runs free of separators, in order; neighbouring separators enclose an empty one. -/
def pieces
    (isSeparator : Char → Bool) :
    List Char → List (List Char)
  | [] => [[]]
  | character :: rest =>
      if isSeparator character then
        [] :: pieces isSeparator rest
      else
        match pieces isSeparator rest with
        | [] => [[character]]
        | piece :: others => (character :: piece) :: others

/-- The pieces between commas. -/
def commaPieces (characters : List Char) : List (List Char) :=
  pieces (· == ',') characters

theorem pieces_ne_nil
    (isSeparator : Char → Bool)
    (characters : List Char) :
    pieces isSeparator characters ≠ [] := by
  cases characters with
  | nil => simp [pieces]
  | cons character rest =>
      simp only [pieces]
      split
      · simp
      · split <;> simp

/-- Cutting is the list operation of that name. -/
theorem pieces_eq_splitOnP
    (isSeparator : Char → Bool)
    (characters : List Char) :
    pieces isSeparator characters = characters.splitOnP isSeparator := by
  induction characters with
  | nil => rfl
  | cons first rest inductionHypothesis =>
      rw [List.splitOnP_cons_eq_if_modifyHead, ← inductionHypothesis, pieces]
      split
      · rfl
      · cases cut : pieces isSeparator rest with
        | nil => exact absurd cut (pieces_ne_nil isSeparator rest)
        | cons piece others => rfl

/-- There is one piece more than there are separators. -/
theorem length_pieces
    (isSeparator : Char → Bool)
    (characters : List Char) :
    (pieces isSeparator characters).length =
      characters.countP isSeparator + 1 := by
  induction characters with
  | nil => rfl
  | cons character rest inductionHypothesis =>
      simp only [pieces, List.countP_cons]
      by_cases separates : isSeparator character = true
      · simp [separates, inductionHypothesis]
      · cases cut : pieces isSeparator rest with
        | nil => exact absurd cut (pieces_ne_nil isSeparator rest)
        | cons piece others =>
            rw [cut] at inductionHypothesis
            simpa [separates] using inductionHypothesis

end PlotBoard.Text
