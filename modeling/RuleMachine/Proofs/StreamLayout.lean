import Mathlib.Data.List.Induction
import Mathlib.Data.List.Pairwise
import RuleMachine.TokenStream

/-!
# Where the tokens of a stream lie

A stream counts columns while the text of a line still grows, and fills in the text of the
line when it ends.  Here the same tokens are laid out by recursion over the steps that are
left, with the final text of a line known from the start (`layOut`); a stream in any state
goes on like this, as long as its column counts the text of its line.  The places of the
tokens are then found by induction over the steps.
-/

namespace RuleMachine

namespace Token

/-- The value of a token stands at its column of its source line. -/
def StandsInLine (token : Token) : Prop :=
  ∃ before behind, token.sourceLine = before ++ token.value ++ behind ∧
    before.length = token.position.column

/-- A token ends before another one begins. -/
def EndsBefore (earlier later : Token) : Prop :=
  earlier.position.line < later.position.line ∨
    earlier.position.line = later.position.line ∧
      earlier.position.column + earlier.value.length ≤ later.position.column

/-- Two tokens have the same source line if they are on the same line. -/
def SharesLine (token other : Token) : Prop :=
  token.position.line = other.position.line → token.sourceLine = other.sourceLine

instance : Std.Symm SharesLine where
  symm _ _ shares sameLine := (shares sameLine.symm).symm

end Token

namespace TokenStream

/-! ## The text of a line -/

/-- The values that steps put on the line that is still open behind them. -/
def openValues (steps : List StreamStep) : List String :=
  steps.foldl (fun values step =>
    match step with
    | .token _ value => values ++ [value]
    | .newline => []) []

/-- The text of the line that is open behind some steps: its values with one space between
them, where empty values at the beginning of the line do not count. -/
def openText (steps : List StreamStep) : String :=
  " ".intercalate ((openValues steps).dropWhile String.isEmpty)

/-- What stands between the text of a line and a value behind it. -/
def gap (text : String) : String :=
  if text.isEmpty then "" else " "

theorem intercalate_ne_empty {values : List String} (hasValue : values ≠ [])
    (firstIsNot : (values.head hasValue).isEmpty = false) : " ".intercalate values ≠ "" := by
  cases values with
  | nil => exact absurd rfl hasValue
  | cons first later =>
      have notEmpty : first ≠ "" := String.isEmpty_eq_false_iff.mp firstIsNot
      cases later with
      | nil => rwa [String.intercalate_singleton]
      | cons second others =>
          rw [String.intercalate_cons_cons, String.append_assoc]
          exact fun isEmpty => notEmpty (String.append_eq_empty_iff.mp isEmpty).1

/-- One more value goes behind a gap. -/
theorem intercalate_dropWhile_append (values : List String) (value : String) :
    " ".intercalate ((values ++ [value]).dropWhile String.isEmpty) =
      " ".intercalate (values.dropWhile String.isEmpty) ++
        gap (" ".intercalate (values.dropWhile String.isEmpty)) ++ value := by
  rw [List.dropWhile_append]
  by_cases noText : values.dropWhile String.isEmpty = []
  · have noGap : gap "" = "" := rfl
    rw [noText, List.isEmpty_nil, if_pos rfl, String.intercalate_nil, noGap]
    by_cases isEmpty : value.isEmpty = true
    · rw [List.dropWhile_cons_of_pos isEmpty, String.isEmpty_iff.mp isEmpty]
      rfl
    · rw [List.dropWhile_cons_of_neg isEmpty, String.intercalate_singleton,
        String.append_empty, String.empty_append]
  · have hasText := intercalate_ne_empty noText (List.head_dropWhile_not _ noText)
    have isGap : gap (" ".intercalate (values.dropWhile String.isEmpty)) = " " :=
      if_neg (fun isEmpty => hasText (String.isEmpty_iff.mp isEmpty))
    rw [if_neg (fun isEmpty => noText (List.isEmpty_iff.mp isEmpty)),
      String.intercalate_append_of_ne_nil noText (List.cons_ne_nil value []),
      String.intercalate_singleton, isGap]

/-- The text of the current line is that of the values on it. -/
theorem lineText_foldl_apply (steps : List StreamStep) :
    (steps.foldl apply empty).lineText = openText steps := by
  induction steps using List.reverseRecOn with
  | nil => rfl
  | append_singleton earlier last inductionHypothesis =>
      rw [List.foldl_append]
      cases last with
      | newline =>
          have values_eq : openValues (earlier ++ [.newline]) = [] := by
            simp [openValues, List.foldl_append]
          rw [openText, values_eq]
          rfl
      | token kind value =>
          have values_eq : openValues (earlier ++ [.token kind value]) =
              openValues earlier ++ [value] := by
            simp [openValues, List.foldl_append]
          have text_eq : ([StreamStep.token kind value].foldl apply
              (earlier.foldl apply empty)).lineText =
              openText earlier ++ gap (openText earlier) ++ value := by
            rw [← inductionHypothesis]
            rfl
          rw [text_eq, openText, openText, values_eq, intercalate_dropWhile_append]

/-! ## Layout by recursion -/

/-- The text that a line has in the end, where its text so far is given. -/
def finalText (text : String) : List StreamStep → String
  | [] => text
  | .newline :: _ => text
  | .token _ value :: later => finalText (text ++ gap text ++ value) later

theorem finalText_eq_append (text : String) (steps : List StreamStep) :
    ∃ behind, finalText text steps = text ++ behind := by
  induction steps generalizing text with
  | nil => exact ⟨"", String.append_empty.symm⟩
  | cons step later inductionHypothesis =>
      cases step with
      | newline => exact ⟨"", String.append_empty.symm⟩
      | token kind value =>
          obtain ⟨behind, text_eq⟩ := inductionHypothesis (text ++ gap text ++ value)
          refine ⟨gap text ++ value ++ behind, ?_⟩
          rw [finalText, text_eq]
          simp only [String.append_assoc]

/-- The tokens that steps add, where the number of the current line and its text so far are
given. -/
def layOut (isFinished : Bool) (line : Nat) (text : String) : List StreamStep → List Token
  | [] =>
      if isFinished then [⟨Vocabulary.Mini.endMarker, "", ⟨line, text.length⟩, text⟩] else []
  | .newline :: later =>
      ⟨Vocabulary.Mini.newline, "\n", ⟨line, text.length⟩, text⟩ ::
        layOut isFinished (line + 1) "" later
  | .token kind value :: later =>
      ⟨kind, value, ⟨line, (text ++ gap text).length⟩,
        finalText (text ++ gap text ++ value) later⟩ ::
        layOut isFinished line (text ++ gap text ++ value) later

/-- The tokens of a stream, with or without an end marker behind them. -/
def close (stream : TokenStream) (isFinished : Bool) : List Token :=
  if isFinished then stream.finish.filled else stream.filled

/-- A stream in which the column counts the text of the current line, and no token lies on
a line behind that one. -/
structure IsAligned (stream : TokenStream) : Prop where
  column_eq : stream.position.column = stream.lineText.length
  line_le : ∀ token ∈ stream.tokens, token.position.line ≤ stream.position.line

theorem isAligned_empty : empty.IsAligned :=
  ⟨rfl, nofun⟩

theorem line_fill (line : Nat) (text : String) (token : Token) :
    (fill line text token).position.line = token.position.line := by
  unfold fill
  split
  · rfl
  · rfl

theorem fill_mk (line column : Nat) (kind : TokenKind) (value earlier text : String) :
    fill line text ⟨kind, value, ⟨line, column⟩, earlier⟩ =
      ⟨kind, value, ⟨line, column⟩, text⟩ :=
  if_pos rfl

/-- Filling in the text of a line leaves the tokens of the lines before it as they are. -/
theorem map_fill_of_lt {line : Nat} {tokens : List Token}
    (before : ∀ token ∈ tokens, token.position.line < line) (text : String) :
    tokens.map (fill line text) = tokens := by
  have unchanged : ∀ token ∈ tokens, fill line text token = token :=
    fun token isToken => if_neg (Nat.ne_of_lt (before token isToken))
  rw [List.map_congr_left unchanged, List.map_id']

theorem IsAligned.token {stream : TokenStream} (aligned : stream.IsAligned) (kind : TokenKind)
    (value : String) : (stream.token kind value).IsAligned := by
  constructor
  · have column_eq : (stream.token kind value).position.column =
        stream.position.column + (gap stream.lineText).length + value.length := rfl
    have text_eq : (stream.token kind value).lineText =
        stream.lineText ++ gap stream.lineText ++ value := rfl
    rw [column_eq, text_eq, aligned.column_eq, String.length_append, String.length_append]
  · intro token isToken
    rcases List.mem_append.mp isToken with isOld | isNew
    · exact aligned.line_le token isOld
    · apply Nat.le_of_eq
      rw [List.mem_singleton.mp isNew]
      rfl

theorem line_lt_of_mem_newline {stream : TokenStream} (aligned : stream.IsAligned)
    {token : Token} (isToken : token ∈ stream.newline.tokens) :
    token.position.line < stream.newline.position.line := by
  obtain ⟨old, isOld, rfl⟩ := List.mem_map.mp isToken
  rw [line_fill]
  apply Nat.lt_succ_of_le
  rcases List.mem_append.mp isOld with isEarlier | isNew
  · exact aligned.line_le old isEarlier
  · apply Nat.le_of_eq
    rw [List.mem_singleton.mp isNew]

theorem IsAligned.newline {stream : TokenStream} (aligned : stream.IsAligned) :
    stream.newline.IsAligned :=
  ⟨rfl, fun _ isToken => Nat.le_of_lt (line_lt_of_mem_newline aligned isToken)⟩

/-- A stream lays out all further tokens, and gives the tokens of its current line the text
that this line has in the end. -/
theorem close_foldl_apply (isFinished : Bool) (steps : List StreamStep) (stream : TokenStream)
    (aligned : stream.IsAligned) :
    (steps.foldl apply stream).close isFinished =
      stream.tokens.map (fill stream.position.line (finalText stream.lineText steps)) ++
        layOut isFinished stream.position.line stream.lineText steps := by
  -- The tokens of the current line are filled by the first line end behind them, so the text
  -- that they get depends on the steps that are left.
  induction steps generalizing stream with
  | nil =>
      cases isFinished with
      | false => exact (List.append_nil _).symm
      | true =>
          have closed : stream.finish.filled =
              List.map (fill stream.position.line stream.lineText)
                (stream.tokens ++ [⟨Vocabulary.Mini.endMarker, "", stream.position, ""⟩]) := rfl
          rw [List.foldl_nil, close, if_pos rfl, closed, List.map_append, List.map_singleton,
            fill_mk]
          simp only [layOut, finalText, ← aligned.column_eq]
          rfl
  | cons step later inductionHypothesis =>
      cases step with
      | newline =>
          have ended : stream.newline.tokens =
              List.map (fill stream.position.line stream.lineText)
                (stream.tokens ++ [⟨Vocabulary.Mini.newline, "\n", stream.position, ""⟩]) := rfl
          have kept := map_fill_of_lt (fun _ => line_lt_of_mem_newline aligned)
            (finalText stream.newline.lineText later)
          rw [List.foldl_cons, apply, inductionHypothesis stream.newline aligned.newline, kept,
            ended, List.map_append, List.map_singleton, fill_mk]
          simp only [newline, layOut, finalText, ← aligned.column_eq, List.append_assoc]
          rfl
      | token kind value =>
          have placed : (stream.token kind value).tokens = stream.tokens ++
              [⟨kind, value, ⟨stream.position.line,
                stream.position.column + (gap stream.lineText).length⟩, ""⟩] := rfl
          have text_eq : (stream.token kind value).lineText =
              stream.lineText ++ gap stream.lineText ++ value := rfl
          have line_eq : (stream.token kind value).position.line = stream.position.line := rfl
          rw [List.foldl_cons, apply,
            inductionHypothesis (stream.token kind value) (aligned.token kind value), placed,
            text_eq, line_eq, List.map_append, List.map_singleton, fill_mk]
          simp only [layOut, finalText, aligned.column_eq, List.append_assoc,
            String.length_append]
          rfl

theorem ofSteps_eq_layOut (steps : List StreamStep) (isFinished : Bool) :
    ofSteps steps isFinished = layOut isFinished 1 "" steps :=
  close_foldl_apply isFinished steps empty isAligned_empty

/-! ## Places -/

/-- What a step adds, where the text of the line so far is given. -/
def Adds (text : String) (token : Token) : StreamStep → Prop
  | .token kind value => token.kind = kind ∧ token.value = value ∧ token.StandsInLine
  | .newline =>
      token.kind = Vocabulary.Mini.newline ∧ token.value = "\n" ∧
        token.position.column = text.length

theorem getElem?_layOut (isFinished : Bool) {steps : List StreamStep} {index : Nat}
    {step : StreamStep} (isStep : steps[index]? = some step) (line : Nat)
    (stream : TokenStream) :
    ∃ token, (layOut isFinished line stream.lineText steps)[index]? = some token ∧
      Adds ((steps.take index).foldl apply stream).lineText token step := by
  induction steps generalizing index line stream with
  | nil => cases isStep
  | cons first later inductionHypothesis =>
      cases index with
      | succ index =>
          rw [List.getElem?_cons_succ] at isStep
          rw [List.take_succ_cons, List.foldl_cons]
          cases first with
          | newline => exact inductionHypothesis isStep (line + 1) stream.newline
          | token kind value => exact inductionHypothesis isStep line (stream.token kind value)
      | zero =>
          cases isStep
          cases step with
          | newline => exact ⟨_, rfl, rfl, rfl, rfl⟩
          | token kind value =>
              obtain ⟨behind, text_eq⟩ := finalText_eq_append
                (stream.lineText ++ gap stream.lineText ++ value) later
              exact ⟨_, rfl, rfl, rfl, _, behind, text_eq, rfl⟩

theorem getElem?_layOut_length (steps : List StreamStep) (line : Nat) (stream : TokenStream) :
    ∃ token, (layOut true line stream.lineText steps)[steps.length]? = some token ∧
      token.kind = Vocabulary.Mini.endMarker ∧ token.value = "" ∧ token.StandsInLine ∧
      token.position.column = (steps.foldl apply stream).lineText.length := by
  induction steps generalizing line stream with
  | nil =>
      refine ⟨_, rfl, rfl, rfl, ⟨stream.lineText, "", ?_, rfl⟩, rfl⟩
      simp only [String.append_empty]
  | cons first later inductionHypothesis =>
      cases first with
      | newline => exact inductionHypothesis (line + 1) stream.newline
      | token kind value => exact inductionHypothesis line (stream.token kind value)

theorem length_layOut (isFinished : Bool) (line : Nat) (text : String)
    (steps : List StreamStep) :
    (layOut isFinished line text steps).length =
      steps.length + if isFinished then 1 else 0 := by
  induction steps generalizing line text with
  | nil => cases isFinished <;> rfl
  | cons step later inductionHypothesis =>
      cases step with
      | newline => rw [layOut, List.length_cons, inductionHypothesis, List.length_cons,
          Nat.add_right_comm]
      | token kind value => rw [layOut, List.length_cons, inductionHypothesis, List.length_cons,
          Nat.add_right_comm]

/-- The tokens that are added lie behind the text of the current line, or on lines behind
it; those on the current line have its final text. -/
theorem forall_mem_layOut (isFinished : Bool) (line : Nat) (text : String)
    (steps : List StreamStep) :
    ∀ token ∈ layOut isFinished line text steps,
      line < token.position.line ∨
        token.position.line = line ∧ text.length ≤ token.position.column ∧
          token.sourceLine = finalText text steps := by
  induction steps generalizing line text with
  | nil =>
      intro token isToken
      cases isFinished with
      | false => cases isToken
      | true =>
          rw [List.mem_singleton.mp isToken]
          exact .inr ⟨rfl, Nat.le_refl _, rfl⟩
  | cons step later inductionHypothesis =>
      cases step with
      | newline =>
          refine List.forall_mem_cons.mpr ⟨.inr ⟨rfl, Nat.le_refl _, rfl⟩, ?_⟩
          intro token isToken
          rcases inductionHypothesis (line + 1) "" token isToken with below | ⟨onNext, _⟩
          · exact .inl (Nat.lt_of_succ_lt below)
          · exact .inl (by omega)
      | token kind value =>
          refine List.forall_mem_cons.mpr ⟨.inr ⟨rfl, ?_, rfl⟩, ?_⟩
          · simp only [String.length_append]
            omega
          · intro token isToken
            rcases inductionHypothesis line _ token isToken with below | ⟨onLine, behind, text_eq⟩
            · exact .inl below
            · refine .inr ⟨onLine, ?_, text_eq⟩
              simp only [String.length_append] at behind
              omega

/-- The first token ends before all others, and has the text of those on its line. -/
theorem pairwise_layOut (isFinished : Bool) (line : Nat) (text : String)
    (steps : List StreamStep) :
    (layOut isFinished line text steps).Pairwise fun earlier later =>
      earlier.EndsBefore later ∧ earlier.SharesLine later := by
  induction steps generalizing line text with
  | nil =>
      cases isFinished with
      | false => exact .nil
      | true => exact List.pairwise_singleton _ _
  | cons step later inductionHypothesis =>
      cases step with
      | newline =>
          refine List.pairwise_cons.mpr ⟨?_, inductionHypothesis (line + 1) ""⟩
          intro token isToken
          have isBelow : line < token.position.line := by
            rcases forall_mem_layOut isFinished (line + 1) "" later token isToken with
              below | ⟨onNext, _⟩ <;> omega
          exact ⟨.inl isBelow, fun sameLine => absurd sameLine (Nat.ne_of_lt isBelow)⟩
      | token kind value =>
          refine List.pairwise_cons.mpr ⟨?_, inductionHypothesis line _⟩
          intro token isToken
          rcases forall_mem_layOut isFinished line _ later token isToken with
            below | ⟨onLine, behind, text_eq⟩
          · exact ⟨.inl below, fun sameLine => absurd sameLine (Nat.ne_of_lt below)⟩
          · rw [String.length_append] at behind
            exact ⟨.inr ⟨onLine.symm, behind⟩, fun _ => text_eq.symm⟩

/-- Tokens that have the places of the given steps. -/
structure IsLaidOut (steps : List StreamStep) (isFinished : Bool) (tokens : List Token) :
    Prop where
  length_eq : tokens.length = steps.length + if isFinished then 1 else 0
  added : ∀ index step, steps[index]? = some step →
    ∃ token, tokens[index]? = some token ∧ Adds (openText (steps.take index)) token step
  marker : isFinished = true → ∃ token, tokens[steps.length]? = some token ∧
    token.kind = Vocabulary.Mini.endMarker ∧ token.value = "" ∧ token.StandsInLine ∧
    token.position.column = (openText steps).length
  sameLine : ∀ token ∈ tokens, ∀ other ∈ tokens, token.SharesLine other
  ordered : tokens.Pairwise Token.EndsBefore

/-- Every step adds one token.  A token stands at its column of its final source line, a
line end and the end marker stand behind the text of their line so far, tokens of one line
have one source line, and each token ends before the next one begins. -/
theorem ofSteps_isLaidOut (steps : List StreamStep) (isFinished : Bool) :
    IsLaidOut steps isFinished (ofSteps steps isFinished) := by
  rw [ofSteps_eq_layOut]
  have pairwise := pairwise_layOut isFinished 1 "" steps
  refine ⟨length_layOut isFinished 1 "" steps, ?_, ?_, ?_, pairwise.imp And.left⟩
  · intro index step isStep
    rw [← lineText_foldl_apply]
    exact getElem?_layOut isFinished isStep 1 empty
  · rintro rfl
    rw [← lineText_foldl_apply]
    exact getElem?_layOut_length steps 1 empty
  · intro token isToken other isOther
    have shares := pairwise.imp And.right
    exact shares.forall_of_forall (fun _ _ _ => rfl) isToken isOther

end TokenStream

end RuleMachine
