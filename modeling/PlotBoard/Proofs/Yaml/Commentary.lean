import PlotBoard.Yaml.Node

namespace PlotBoard.Yaml

/-!
# Texts without content

A text of blank lines and comments holds no document. The scanner passes over all of it
in its first step, finds the end and settles that as the only token.
-/

/-- Nothing but spaces, line breaks and comments, which go from a hash to the end of a line. -/
def isCommentary (inComment : Bool) : List Char → Bool
  | [] => true
  | character :: rest =>
      if isBreak character then
        isCommentary false rest
      else if inComment || character = ' ' then
        isCommentary inComment rest
      else
        character = '#' && isCommentary true rest

/-- Joining line breaks leaves comments and blank lines. -/
theorem isCommentary_joinBreaks (inComment : Bool) (characters : List Char) :
    isCommentary inComment (joinBreaks characters) = isCommentary inComment characters := by
  induction characters using joinBreaks.induct generalizing inComment with
  | case1 rest inductionHypothesis =>
      have carriageReturn : isBreak '\r' = true := rfl
      have lineFeed : isBreak '\n' = true := rfl
      rw [joinBreaks]
      simp only [isCommentary, carriageReturn, lineFeed, if_true, inductionHypothesis]
  | case2 character rest notJoined inductionHypothesis =>
      rw [joinBreaks]
      · simp only [isCommentary, inductionHypothesis]
      · exact notJoined
  | case3 => rfl

theorem mem_of_mem_joinBreaks
    {character : Char}
    {characters : List Char}
    (member : character ∈ joinBreaks characters) :
    character ∈ characters := by
  induction characters using joinBreaks.induct with
  | case1 rest inductionHypothesis =>
      rw [joinBreaks] at member
      rcases List.mem_cons.mp member with isFeed | inRest
      · exact List.mem_cons_of_mem _ (isFeed ▸ List.mem_cons_self)
      · exact List.mem_cons_of_mem _ (List.mem_cons_of_mem _ (inductionHypothesis inRest))
  | case2 first rest notJoined inductionHypothesis =>
      rw [joinBreaks] at member
      · exact List.mem_cons.mpr ((List.mem_cons.mp member).imp_right inductionHypothesis)
      · exact notJoined
  | case3 => exact member

namespace Scanner

/-- A scanner where a key may start passes over comments and blank lines to the end. -/
theorem exists_skipSeparation_eq
    {fuel : Nat}
    {inComment : Bool}
    (scanner : Scanner)
    (commentary : isCommentary inComment scanner.cursor.rest = true)
    (enough : scanner.cursor.rest.length < fuel)
    (keyAllowed : scanner.keyAllowed = true) :
    ∃ atEnd : Cursor,
      atEnd.rest = [] ∧
        scanner.skipSeparation fuel inComment = { scanner with cursor := atEnd } := by
  induction fuel generalizing inComment scanner with
  | zero => exact absurd enough (Nat.not_lt_zero _)
  | succ fuel inductionHypothesis =>
      cases left : scanner.cursor.rest with
      | nil =>
          refine ⟨scanner.cursor, left, ?_⟩
          rw [skipSeparation, left]
      | cons character rest =>
          have advanced : (scanner.advance 1).cursor.rest = rest := by
            simp only [advance, Cursor.skip, Cursor.next, left]
            split <;> rfl
          -- Where a key may start already, a line break changes nothing but the place.
          have sameKey :
              (scanner.advance 1).allowKey (scanner.keyAllowed || !scanner.inFlow) =
                scanner.advance 1 := by
            rw [keyAllowed, Bool.true_or, ← keyAllowed]
            rfl
          have passed
              {nextInComment : Bool}
              (restCommentary : isCommentary nextInComment rest = true) :
              ∃ atEnd : Cursor,
                atEnd.rest = [] ∧
                  (scanner.advance 1).skipSeparation fuel nextInComment =
                    { scanner with cursor := atEnd } := by
            rw [left, List.length_cons] at enough
            refine inductionHypothesis (scanner.advance 1) ?_ ?_ keyAllowed
            · rwa [advanced]
            · rw [advanced]
              omega
          rw [left, isCommentary] at commentary
          rw [skipSeparation, left, sameKey]
          dsimp only
          split at commentary
          · next isLineBreak =>
              rw [if_pos isLineBreak]
              exact passed commentary
          · next noBreak =>
              rw [if_neg noBreak]
              split at commentary
              · next inside =>
                  rw [if_pos (by simp [inside])]
                  exact passed commentary
              · next outside =>
                  obtain ⟨isHash, restCommentary⟩ := Bool.and_eq_true_iff.mp commentary
                  obtain rfl := of_decide_eq_true isHash
                  rw [if_neg (by simpa using outside), if_pos rfl]
                  exact passed restCommentary

/-- A scanner that has found nothing finds nothing but the end in comments and blank lines. -/
theorem exists_step_eq
    (start : Cursor)
    (commentary : isCommentary false start.rest = true) :
    ∃ after line,
      step { cursor := start } = (.ok after, true) ∧
        after.settledTokens = [⟨.finished, line⟩] := by
  obtain ⟨atEnd, ended, skipped⟩ :=
    exists_skipSeparation_eq { cursor := start } commentary (Nat.lt_succ_self _) rfl
  have nothingStale : dropStaleKeys { cursor := atEnd } = .ok { cursor := atEnd } := rfl
  have nothingOpen :
      closeBlocks { cursor := atEnd } (some atEnd.column) = { cursor := atEnd } :=
    rfl
  rw [step, skipped, nothingStale]
  dsimp only
  rw [nothingOpen, ended]
  exact ⟨_, _, rfl, rfl⟩

end Scanner

/-- A readable text of comments and blank lines has no token but the end. -/
theorem exists_scan_eq
    {text : String}
    (readable : ∀ character ∈ text.toList, isReadable character = true)
    (commentary : isCommentary false text.toList = true) :
    ∃ line, Token.scan text = [⟨.finished, line⟩] := by
  have joinedReadable : (joinBreaks text.toList).all isReadable = true :=
    List.all_eq_true.mpr fun character member => readable character (mem_of_mem_joinBreaks member)
  rw [← isCommentary_joinBreaks] at commentary
  obtain ⟨after, line, stepped, settled⟩ :=
    Scanner.exists_step_eq
      { rest := joinBreaks text.toList, line := 1, column := 0, offset := 0 }
      commentary
  refine ⟨line, ?_⟩
  rw [Token.scan, if_pos joinedReadable, Scanner.run, stepped]
  exact settled

/-- A readable text of comments and blank lines holds no document. -/
theorem Document.read_of_commentary
    {text : String}
    (readable : ∀ character ∈ text.toList, isReadable character = true)
    (commentary : isCommentary false text.toList = true) :
    Document.read text = { root := none, tail := .nothing } := by
  obtain ⟨line, scanned⟩ := exists_scan_eq readable commentary
  rw [Document.read, scanned]
  rfl

end PlotBoard.Yaml
