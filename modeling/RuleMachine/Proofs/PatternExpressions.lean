import RuleMachine.Proofs.LeftmostFirst

/-!
# The patterns of source text as regular expressions

Each pattern is written as a regular expression.  A pattern matches as many characters as
its expression prefers, and the lexer takes the first pattern that matches: this is the
match that an alternation of all expressions prefers.
-/

namespace RuleMachine.Lexer

open RuleMachine.Text Regex

/-! ## The patterns as expressions -/

/-- One given character. -/
def exactly (character : Char) : Regex :=
  one (· == character)

/-- Blank space, a backslash before a line break, or a comment:
`[ \t\f\r]+|\\\r?\n|#[^\n]*`. -/
def skipExpression : Regex :=
  alt (atLeastOne (one isInlineBlank))
    (alt (seq (exactly '\\') (seq (optional (exactly '\r')) (exactly '\n')))
      (seq (exactly '#') (many (one (· != '\n')))))

/-- A point and the digits behind it: `\.[0-9_]*`. -/
def fractionExpression : Regex :=
  seq (exactly '.') (many (one isDigitOrUnderscore))

/-- The letter e, a sign or none, and digits: `[eE][+-]?[0-9]+`. -/
def exponentExpression : Regex :=
  seq (one fun character => character == 'e' || character == 'E')
    (seq (optional (one fun character => character == '+' || character == '-'))
      (atLeastOne (one isDigit)))

/-- A number: digits, and optionally a fraction, an exponent and `[jJ]`. -/
def numberExpression : Regex :=
  seq (one isDigit)
    (seq (many (one isDigitOrUnderscore))
      (seq (optional fractionExpression)
        (seq (optional exponentExpression)
          (optional (one fun character => character == 'j' || character == 'J')))))

/-- A character between quotes, or a character behind a backslash: `[^'\\\n]|\\.` for a single
quote. -/
def quotedExpression (quote : Char) : Regex :=
  alt (one fun character => character != quote && character != '\\' && character != '\n')
    (seq (exactly '\\') (one (· != '\n')))

/-- A string with the given quotes. -/
def stringExpression (quote : Char) : Regex :=
  seq (exactly quote) (seq (many (quotedExpression quote)) (exactly quote))

/-- The expression of a pattern.  The operators are alternatives in the order in which they are
tried. -/
def expression (vocabulary : Vocabulary) : Pattern → Regex
  | .skip => skipExpression
  | .newline => exactly '\n'
  | .number => numberExpression
  | .string => alt (stringExpression '\x27') (stringExpression '\x22')
  | .name => seq (one isWordStart) (many (one isWord))
  | .operator => oneOf ((operatorsInOrder vocabulary).map fun operator => literal operator.toList)

theorem length?_exactly_cons (wanted character : Char) (later : List Char) :
    (exactly wanted).length? (character :: later) =
      if character = wanted then some 1 else none := by
  rw [exactly, length?_one_cons]
  simp only [beq_iff_eq]

theorem length?_seq_exactly_cons (wanted character : Char) (second : Regex)
    (later : List Char) :
    (seq (exactly wanted) second).length? (character :: later) =
      if character = wanted then (second.length? later).map (1 + ·) else none := by
  rw [exactly, length?_seq_one_cons]
  simp only [beq_iff_eq]

/-! ## Text to skip -/

/-- A line break with or without a carriage return before it. -/
theorem length?_lineBreak_cons (first : Char) (later : List Char) :
    (seq (optional (exactly '\r')) (exactly '\n')).length? (first :: later) =
      (if first = '\r' then ((exactly '\n').length? later).map (1 + ·) else none).or
        (if first = '\n' then some 1 else none) := by
  rw [length?_seq_optional, length?_seq_exactly_cons, length?_exactly_cons]

theorem length?_lineBreak_of_ne {text : List Char} (notFeed : ∀ later, text ≠ '\n' :: later)
    (notBoth : ∀ later, text ≠ '\r' :: '\n' :: later) :
    (seq (optional (exactly '\r')) (exactly '\n')).length? text = none := by
  cases text with
  | nil => rfl
  | cons first later =>
      have notBreak : first ≠ '\n' := fun isBreak => notFeed later (by rw [isBreak])
      rw [length?_lineBreak_cons, if_neg notBreak, Option.or_none]
      by_cases isReturn : first = '\r'
      · rw [if_pos isReturn]
        cases later with
        | nil => rfl
        | cons second further =>
            rw [length?_exactly_cons, if_neg, Option.map_none]
            intro isBreak
            exact notBoth further (by rw [isReturn, isBreak])
      · rw [if_neg isReturn]

theorem length?_skipExpression_cons (first : Char) (later : List Char) :
    skipExpression.length? (first :: later) =
      (if run isInlineBlank (first :: later) = 0 then none
        else some (run isInlineBlank (first :: later))).or
      ((if first = '\\' then
          ((seq (optional (exactly '\r')) (exactly '\n')).length? later).map (1 + ·)
        else none).or
      (if first = '#' then some (1 + run (· != '\n') later) else none)) := by
  rw [skipExpression, length?_alt, length?_alt, length?_atLeastOne_one, length?_seq_exactly_cons,
    length?_seq_exactly_cons, length?_many_one, Option.map_some]

theorem length?_skipExpression (text : List Char) :
    skipExpression.length? text = skipLength text := by
  fun_cases skipLength text with
  | case1 => rfl
  | case2 later =>
      rw [length?_skipExpression_cons, run_cons_of_neg (by decide)]
      rfl
  | case3 later =>
      rw [length?_skipExpression_cons, run_cons_of_neg (by decide), length?_lineBreak_cons]
      rfl
  | case4 later =>
      rw [length?_skipExpression_cons, run_cons_of_neg (by decide), length?_lineBreak_cons]
      rfl
  | case5 first later notComment notJoined notJoinedByTwo isBlank =>
      rw [length?_skipExpression_cons, run_cons_of_pos isBlank, if_neg (by omega)]
      rfl
  | case6 first later notComment notJoined notJoinedByTwo notBlank =>
      have noBreak : first = '\\' →
          (seq (optional (exactly '\r')) (exactly '\n')).length? later = none := by
        intro isBackslash
        exact length?_lineBreak_of_ne (fun further => notJoined further isBackslash)
          fun further => notJoinedByTwo further isBackslash
      rw [length?_skipExpression_cons, run_cons_of_neg notBlank, if_pos rfl, if_neg notComment]
      by_cases isBackslash : first = '\\'
      · rw [if_pos isBackslash, noBreak isBackslash]
        rfl
      · rw [if_neg isBackslash]
        rfl

/-! ## Numbers -/

theorem length?_optional_fraction (text : List Char) :
    (optional fractionExpression).length? text = some (fractionLength text) := by
  rw [length?_optional, fractionExpression]
  cases text with
  | nil => rfl
  | cons first later =>
      rw [length?_seq_exactly_cons, length?_many_one]
      by_cases isPoint : first = '.'
      · subst isPoint
        rfl
      · rw [if_neg isPoint, fractionLength]
        · rfl
        · intro further same
          exact isPoint (List.cons.inj same).1

/-- A sign is taken if there is one, for no digit is a sign. -/
theorem length?_signedDigits (text : List Char) :
    (seq (optional (one fun character => character == '+' || character == '-'))
      (atLeastOne (one isDigit))).length? text =
      if run isDigit (text.drop (signLength text)) = 0 then none
      else some (signLength text + run isDigit (text.drop (signLength text))) := by
  have behindSign : ∀ sign later, (sign == '+' || sign == '-') = true →
      isDigit sign = false →
      (seq (optional (one fun character => character == '+' || character == '-'))
        (atLeastOne (one isDigit))).length? (sign :: later) =
        if run isDigit later = 0 then none else some (1 + run isDigit later) := by
    intro sign later isSign notDigit
    rw [length?_seq_optional, length?_seq_one_cons, length?_atLeastOne_one,
      length?_atLeastOne_one, if_pos isSign, run_cons_of_neg (by rw [notDigit]; decide),
      if_pos rfl, Option.or_none, apply_ite (Option.map (1 + ·))]
    rfl
  fun_cases signLength text with
  | case1 later => exact behindSign '+' later rfl rfl
  | case2 later => exact behindSign '-' later rfl rfl
  | case3 text notPlus notMinus =>
      have noSign : (seq (one fun character => character == '+' || character == '-')
          (atLeastOne (one isDigit))).length? text = none := by
        cases text with
        | nil => rfl
        | cons first later =>
            rw [length?_seq_one_cons, if_neg]
            rw [Bool.or_eq_true, beq_iff_eq, beq_iff_eq]
            rintro (rfl | rfl)
            · exact notPlus later rfl
            · exact notMinus later rfl
      rw [length?_seq_optional, noSign, length?_atLeastOne_one, List.drop_zero, Nat.zero_add]
      rfl

theorem length?_optional_exponent (text : List Char) :
    (optional exponentExpression).length? text = some (exponentLength text) := by
  rw [length?_optional, exponentExpression]
  cases text with
  | nil => rfl
  | cons mark later =>
      rw [length?_seq_one_cons, length?_signedDigits, exponentLength]
      simp only [Bool.or_eq_true, beq_iff_eq]
      by_cases isMark : mark = 'e' ∨ mark = 'E'
      · rw [if_pos isMark, if_pos isMark]
        by_cases noDigits : run isDigit (later.drop (signLength later)) = 0
        · rw [if_pos noDigits, if_pos noDigits]
          rfl
        · rw [if_neg noDigits, if_neg noDigits, Nat.add_assoc]
          rfl
      · rw [if_neg isMark, if_neg isMark]
        rfl

theorem length?_optional_imaginary (text : List Char) :
    (optional (one fun character => character == 'j' || character == 'J')).length? text =
      some (imaginaryLength text) := by
  rw [length?_optional]
  fun_cases imaginaryLength text with
  | case1 => rfl
  | case2 => rfl
  | case3 text notSmall notCapital =>
      cases text with
      | nil => rfl
      | cons first later =>
          rw [length?_one_cons, if_neg]
          · rfl
          · rw [Bool.or_eq_true, beq_iff_eq, beq_iff_eq]
            rintro (rfl | rfl)
            · exact notSmall later rfl
            · exact notCapital later rfl

theorem length?_numberExpression (text : List Char) :
    numberExpression.length? text = numberLength text := by
  cases text with
  | nil => rfl
  | cons first later =>
      -- Behind the first digit every part matches, if only nothing, so none is taken back.
      have behindFirst := length?_seq_of_always (length?_many_one isDigitOrUnderscore)
        (length?_seq_of_always length?_optional_fraction
          (length?_seq_of_always length?_optional_exponent length?_optional_imaginary)) later
      rw [numberExpression, length?_seq_one_cons, behindFirst, numberLength]
      by_cases startsNumber : isDigit first = true
      · have passes : isDigitOrUnderscore first = true := by
          rw [isDigitOrUnderscore, startsNumber, Bool.true_or]
        have dropFirst : ∀ count, (first :: later).drop (1 + count) = later.drop count := by
          intro count
          rw [Nat.add_comm, List.drop_succ_cons]
        rw [if_pos startsNumber, if_pos startsNumber, run_cons_of_pos passes]
        simp only [Option.map_some, List.drop_drop, Nat.add_assoc, dropFirst]
      · rw [if_neg startsNumber, if_neg startsNumber]

/-! ## Strings -/

/-- One round between quotes takes a character, or a backslash and a character. -/
theorem lengths_quotedExpression_cons (quote first : Char) (later : List Char) :
    (quotedExpression quote).lengths (first :: later) =
      (if first ≠ quote ∧ first ≠ '\\' ∧ first ≠ '\n' then [1] else []) ++
        if first = '\\' then ((one (· != '\n')).lengths later).map (1 + ·) else [] := by
  rw [quotedExpression, lengths, lengths, lengths, exactly, lengths]
  congr 1
  · simp only [Bool.and_eq_true, bne_iff_ne, and_assoc]
  · by_cases isBackslash : first = '\\'
    · rw [if_pos isBackslash, if_pos (beq_iff_eq.mpr isBackslash), List.flatMap_singleton]
      rfl
    · rw [if_neg isBackslash, if_neg (by rwa [beq_iff_eq])]
      rfl

/-- Between quotes no other round and no closing quote is possible where one of them is, so
that the rounds are never taken back. -/
theorem length?_quoted {quote : Char} (notBackslash : quote ≠ '\\') (text : List Char) :
    (seq (many (quotedExpression quote)) (exactly quote)).length? text =
      stringRest quote text := by
  have stuck : ∀ {first later}, (quotedExpression quote).lengths (first :: later) = [] →
      ¬ first = quote →
      (seq (many (quotedExpression quote)) (exactly quote)).length? (first :: later) = none := by
    intro first later noRound notQuote
    rw [length?_seq_many_of_nil noRound, length?_exactly_cons, if_neg notQuote]
  have goesOn : ∀ {first later length},
      (quotedExpression quote).lengths (first :: later) = [length] → 0 < length →
      ¬ first = quote →
      (seq (many (quotedExpression quote)) (exactly quote)).length? (first :: later) =
        ((seq (many (quotedExpression quote)) (exactly quote)).length?
          ((first :: later).drop length)).map (length + ·) := by
    intro first later length oneRound positive notQuote
    rw [length?_seq_many_of_singleton oneRound positive, length?_exactly_cons, if_neg notQuote,
      Option.or_none]
  fun_induction stringRest quote text with
  | case1 => rfl
  | case2 later =>
      have noRound : (quotedExpression quote).lengths (quote :: later) = [] := by
        rw [lengths_quotedExpression_cons, if_neg (fun isPlain => isPlain.1 rfl),
          if_neg notBackslash, List.append_nil]
      rw [length?_seq_many_of_nil noRound, length?_exactly_cons, if_pos rfl]
  | case3 notQuote =>
      apply stuck _ notQuote
      rw [lengths_quotedExpression_cons, if_neg (fun isPlain => isPlain.2.1 rfl)]
      rfl
  | case4 later notQuote =>
      apply stuck _ notQuote
      rw [lengths_quotedExpression_cons, if_neg (fun isPlain => isPlain.2.1 rfl)]
      rfl
  | case5 escaped further notBreak notQuote inductionHypothesis =>
      rw [goesOn _ Nat.two_pos notQuote, ← inductionHypothesis]
      · rfl
      · rw [lengths_quotedExpression_cons, if_neg (fun isPlain => isPlain.2.1 rfl), if_pos rfl,
          lengths, if_pos (by rwa [bne_iff_ne])]
        rfl
  | case6 later notQuote notBackslash =>
      apply stuck _ notQuote
      rw [lengths_quotedExpression_cons, if_neg (fun isPlain => isPlain.2.2 rfl)]
      rfl
  | case7 first later notQuote notBackslash notBreak inductionHypothesis =>
      rw [goesOn _ Nat.one_pos notQuote, ← inductionHypothesis]
      · rfl
      · rw [lengths_quotedExpression_cons, if_pos ⟨notQuote, notBackslash, notBreak⟩,
          if_neg notBackslash, List.append_nil]

theorem length?_stringExpression_cons {quote : Char} (notBackslash : quote ≠ '\\') (first : Char)
    (later : List Char) :
    (stringExpression quote).length? (first :: later) =
      if first = quote then (stringRest quote later).map (1 + ·) else none := by
  rw [stringExpression, length?_seq_exactly_cons, length?_quoted notBackslash]

theorem length?_strings (text : List Char) :
    (alt (stringExpression '\x27') (stringExpression '\x22')).length? text =
      stringLength text := by
  rw [length?_alt]
  cases text with
  | nil => rfl
  | cons first later =>
      rw [length?_stringExpression_cons (by decide), length?_stringExpression_cons (by decide),
        stringLength]
      by_cases isSingle : first = '\x27'
      · subst isSingle
        exact Option.or_none
      · rw [if_neg isSingle, Option.none_or]
        by_cases isDouble : first = '\x22'
        · rw [if_pos isDouble, if_pos (.inr isDouble), isDouble]
        · rw [if_neg isDouble, if_neg (not_or.mpr ⟨isSingle, isDouble⟩)]

/-! ## Operators and all patterns -/

theorem length?_operators (vocabulary : Vocabulary) (text : List Char) :
    (expression vocabulary .operator).length? text =
      operatorLength (operatorsInOrder vocabulary) text := by
  rw [expression, length?_oneOf, operatorLength]
  induction operatorsInOrder vocabulary with
  | nil => rfl
  | cons operator later inductionHypothesis =>
      rw [List.map_cons, List.findSome?_cons, length?_literal, List.find?_cons, standsAtFront]
      cases operator.toList.isPrefixOf text with
      | false => exact inductionHypothesis
      | true => rfl

/-- The length of a match of one pattern. -/
def patternLength (vocabulary : Vocabulary) (text : List Char) : Pattern → Option Nat
  | .skip => skipLength text
  | .newline => newlineLength text
  | .number => numberLength text
  | .string => stringLength text
  | .name => nameLength text
  | .operator => operatorLength (operatorsInOrder vocabulary) text

/-- A pattern matches as many characters as its expression prefers. -/
theorem length?_expression (vocabulary : Vocabulary) (text : List Char) (pattern : Pattern) :
    (expression vocabulary pattern).length? text = patternLength vocabulary text pattern := by
  cases pattern with
  | skip => exact length?_skipExpression text
  | newline =>
      cases text with
      | nil => rfl
      | cons first later =>
          rw [expression, length?_exactly_cons, patternLength]
          by_cases isBreak : first = '\n'
          · rw [if_pos isBreak, isBreak]
            rfl
          · rw [if_neg isBreak, newlineLength]
            intro further same
            exact isBreak (List.cons.inj same).1
  | number => exact length?_numberExpression text
  | string => exact length?_strings text
  | name =>
      cases text with
      | nil => rfl
      | cons first later =>
          rw [expression, length?_seq_one_cons, length?_many_one]
          rfl
  | operator => exact length?_operators vocabulary text

/-- The ways to match one of the patterns, most preferred first: a pattern is preferred to
the ones behind it. -/
def preferences (vocabulary : Vocabulary) (text : List Char) : List (Pattern × Nat) :=
  [Pattern.skip, .newline, .number, .string, .name, .operator].flatMap fun pattern =>
    ((expression vocabulary pattern).lengths text).map (pattern, ·)

/-- The lexer takes the match that is preferred to all others. -/
theorem matchFront_eq_head?_preferences (vocabulary : Vocabulary) (text : List Char) :
    matchFront vocabulary text = (preferences vocabulary text).head? := by
  have front : ∀ pattern, (((expression vocabulary pattern).lengths text).map (pattern, ·)).head? =
      (patternLength vocabulary text pattern).map (pattern, ·) := by
    intro pattern
    rw [List.head?_map, ← length?_expression]
    rfl
  rw [preferences]
  simp only [List.flatMap_cons, List.flatMap_nil, List.append_nil, List.head?_append, front]
  rfl

/-- The match that the lexer takes is the preferred match of its pattern. -/
theorem length?_of_matchFront {vocabulary : Vocabulary} {text : List Char} {pattern : Pattern}
    {length : Nat} (matched : matchFront vocabulary text = some (pattern, length)) :
    (expression vocabulary pattern).length? text = some length := by
  rw [matchFront_eq_head?_preferences, preferences, List.head?_flatMap] at matched
  obtain ⟨found, _, isFirst⟩ := List.exists_of_findSome?_eq_some matched
  rw [List.head?_map] at isFirst
  obtain ⟨_, isLength, same⟩ := Option.map_eq_some_iff.mp isFirst
  cases same
  exact isLength

theorem patternLength_of_matchFront {vocabulary : Vocabulary} {text : List Char}
    {pattern : Pattern} {length : Nat}
    (matched : matchFront vocabulary text = some (pattern, length)) :
    patternLength vocabulary text pattern = some length := by
  rw [← length?_expression]
  exact length?_of_matchFront matched

theorem mem_lengths_of_matchFront {vocabulary : Vocabulary} {text : List Char}
    {pattern : Pattern} {length : Nat}
    (matched : matchFront vocabulary text = some (pattern, length)) :
    length ∈ (expression vocabulary pattern).lengths text :=
  List.mem_of_head? (length?_of_matchFront matched)

end RuleMachine.Lexer
