import RuleMachine.Proofs.GrammarLayout
import RuleMachine.Proofs.RecursiveDescent

/-!
# Texts with many rules

Nothing limits the number of rules of a grammar text.  Distinct names, however many they
are, are the names of the rules of a text that has one line for each of them.  And there
is no lack of names: names of one length can be extended by several endings, and no two
of the longer names are equal.
-/

namespace RuleMachine.GrammarText

/-! ## A line for each rule -/

/-- The line of a rule that matches one token. -/
def ruleLine (name : List Char) : List Char :=
  name ++ [':', 'A', '\n']

/-- The text with a rule for each name. -/
def listing (names : List (List Char)) : String :=
  String.ofList (names.map ruleLine).flatten

/-- The lexemes in front of the end of the line of a rule. -/
def ruleLexemes (name : List Char) : List Lexeme :=
  [spelled .name name, spelled .operator [':'], spelled .name ['A']]

/-- The rule of a line, at no place. -/
def listedRule (name : List Char) : Rule where
  name := String.ofList name
  body := .term ⟨"A", false, .nowhere⟩

section Listing

variable {name : List Char} {names : List (List Char)}

theorem isNamePart_of_mem_name (isName : HasForm .name name) :
    ∀ character ∈ name, isNamePart character = true := by
  cases isName with
  | name starts areParts =>
      exact List.forall_mem_cons.mpr ⟨isNamePart_of_isNameStart starts, areParts⟩

theorem isLine_ruleLine (isName : HasForm .name name) : IsLine (ruleLine name) := by
  refine ⟨name ++ [':', 'A'], ?_, ?_⟩
  · intro isBreak
    rcases List.mem_append.mp isBreak with inName | inBody
    · have isPart := isNamePart_of_mem_name isName '\n' inName
      exact absurd isPart (by decide)
    · exact absurd inBody (by decide)
  · rw [List.append_assoc]
    rfl

theorem spells_ruleLine (isName : HasForm .name name) :
    Spells 0 (ruleLine name) (ruleLexemes name) 0 := by
  refine ⟨name ++ [':', 'A'], ['\n'], ?_, ?_, ?_⟩
  · rw [List.append_assoc]
    rfl
  · have colonEnds : EndsName [':', 'A'] := endsName_cons (by decide)
    have colon : IsCut .operator ':' [] ['A'] := ⟨.operator (by decide), by decide, nofun⟩
    have token : IsCut .name 'A' [] [] :=
      ⟨.name (by decide) (by simp), by decide, fun _ => endsName_nil⟩
    have body : LaidOut 0 [':', 'A'] [spelled .operator [':'], spelled .name ['A']] 0 :=
      LaidOut.lexeme colon (LaidOut.lexeme token (LaidOut.nil 0))
    cases isName with
    | @name first later starts areParts =>
        have noBracket : first ≠ '(' ∧ first ≠ '[' ∧ first ≠ ')' ∧ first ≠ ']' := by
          refine ⟨?_, ?_, ?_, ?_⟩
          all_goals
            rintro rfl
            exact absurd starts (by decide)
        have sameDepth := depthAfter_of_ne 0 noBracket
        apply LaidOut.lexeme ⟨.name starts areParts, by decide, fun _ => colonEnds⟩
        rw [sameDepth]
        exact body
  · intro first isFirst
    cases isFirst
    exact .inl rfl

theorem spellsLines_ruleLines (areNames : ∀ name ∈ names, HasForm .name name) :
    SpellsLines 0 (names.map ruleLine)
      (names.flatMap fun name => ruleLexemes name ++ [spelled .newline ['\n']]) 0 := by
  induction names with
  | nil => exact .nil 0
  | cons name later inductionHypothesis =>
      obtain ⟨isName, laterAreNames⟩ := List.forall_mem_cons.mp areNames
      exact .cons (spells_ruleLine isName) (inductionHypothesis laterAreNames)

theorem spellsRule_ruleLexemes (name : List Char) (behind : List Lexeme) :
    SpellsRule (ruleLexemes name ++ spelled .newline ['\n'] :: behind) (listedRule name)
      behind := by
  have body : SpellsAlternatives (spelled .name ['A'] :: spelled .newline ['\n'] :: behind)
      (.term ⟨"A", false, .nowhere⟩) (spelled .newline ['\n'] :: behind) :=
    .single (.single (.once (.name rfl)))
  exact .rule rfl rfl body rfl

theorem spellsFile_listedRules (names : List (List Char)) :
    SpellsFile
      ((names.flatMap fun name => ruleLexemes name ++ [spelled .newline ['\n']]) ++
        [Lexeme.finish 0])
      (names.map listedRule) := by
  induction names with
  | nil => exact .finish rfl
  | cons name later inductionHypothesis =>
      rw [List.flatMap_cons, List.append_assoc, List.append_assoc, List.singleton_append]
      exact .rule (spellsRule_ruleLexemes name _) inductionHypothesis

theorem SpellsFile.rulesOf_eq {lexemes : List Lexeme} {rules : List Rule}
    (isSpelled : SpellsFile lexemes rules) (notEmpty : rules ≠ [])
    (distinct : (rules.map Rule.name).Nodup) : rulesOf lexemes = .ok rules := by
  have fileRead : readFile lexemes.length [] lexemes = .ok rules :=
    isSpelled.read_eq (Nat.le_refl _) distinct
  cases rules with
  | nil => exact absurd rfl notEmpty
  | cons rule others => simp only [rulesOf, fileRead]

/-- Distinct names are the names of the rules of their listing, in their order. -/
theorem exists_readRules_listing (areNames : ∀ name ∈ names, HasForm .name name)
    (notEmpty : names ≠ []) (distinct : names.Nodup) :
    ∃ rules, readRules (listing names) = .ok rules ∧
      rules.map Rule.name = names.map String.ofList := by
  have areLines : ∀ characters ∈ names.map ruleLine, IsLine characters := by
    intro characters isLine
    obtain ⟨name, isName, rfl⟩ := List.mem_map.mp isLine
    exact isLine_ruleLine (areNames name isName)
  have joined : (names.map ruleLine).flatten = (listing names).toList := by
    rw [listing, String.toList_ofList]
  obtain ⟨lexemes, scanned, placeless_eq⟩ :=
    exists_scan_of_spellsLines areLines (.inl joined) (spellsLines_ruleLines areNames)
  have names_eq : (names.map listedRule).map Rule.name = names.map String.ofList := by
    rw [List.map_map]
    rfl
  -- Without its places, the text is read as the listed rules.
  have listed : placelessRules (rulesOf lexemes) = .ok (names.map listedRule) := by
    rw [← rulesOf_placeless, placeless_eq]
    apply (spellsFile_listedRules names).rulesOf_eq
    · exact mt List.map_eq_nil_iff.mp notEmpty
    · rw [names_eq]
      exact distinct.map fun _ _ => String.ofList_injective
  cases read : rulesOf lexemes with
  | error error =>
      rw [read] at listed
      cases listed
  | ok rules =>
      rw [read] at listed
      have rules_eq : rules.map Rule.placeless = names.map listedRule := Except.ok.inj listed
      refine ⟨rules, ?_, ?_⟩
      · simp only [readRules, scanned, read]
      · rw [← names_eq, ← rules_eq, List.map_map]
        rfl

end Listing

/-! ## As many names as one likes -/

/-- Every name with every ending. -/
def extended (names endings : List (List Char)) : List (List Char) :=
  endings.flatMap fun ending => names.map (· ++ ending)

section Extended

variable {names endings : List (List Char)} {size : Nat}

theorem length_extended (names endings : List (List Char)) :
    (extended names endings).length = endings.length * names.length := by
  induction endings with
  | nil => simp [extended]
  | cons ending later inductionHypothesis =>
      rw [extended, List.flatMap_cons, List.length_append, List.length_map, ← extended,
        inductionHypothesis, List.length_cons, Nat.succ_mul, Nat.add_comm]

theorem mem_extended {word : List Char} :
    word ∈ extended names endings ↔
      ∃ name ∈ names, ∃ ending ∈ endings, word = name ++ ending := by
  constructor
  · intro isExtended
    obtain ⟨ending, isEnding, isWord⟩ := List.mem_flatMap.mp isExtended
    obtain ⟨name, isName, rfl⟩ := List.mem_map.mp isWord
    exact ⟨name, isName, ending, isEnding, rfl⟩
  · rintro ⟨name, isName, ending, isEnding, rfl⟩
    apply List.mem_flatMap.mpr
    exact ⟨ending, isEnding, List.mem_map.mpr ⟨name, isName, rfl⟩⟩

/-- A longer name tells where it comes from: its first characters are the name that was
extended, and the others are the ending. -/
theorem nodup_extended (sameSize : ∀ name ∈ names, name.length = size)
    (namesDistinct : names.Nodup) (endingsDistinct : endings.Nodup) :
    (extended names endings).Nodup := by
  apply List.nodup_flatMap.mpr
  constructor
  · intro ending _
    exact namesDistinct.map (List.append_left_injective ending)
  · apply endingsDistinct.imp
    intro ending other differ
    apply List.disjoint_left.mpr
    intro word isFirst isSecond
    obtain ⟨name, isName, rfl⟩ := List.mem_map.mp isFirst
    obtain ⟨second, isSecondName, same⟩ := List.mem_map.mp isSecond
    have sameLength : second.length = name.length := by
      rw [sameSize second isSecondName, sameSize name isName]
    exact differ (List.append_inj_right same sameLength).symm

end Extended

/-- All words of a length over some letters. -/
def words (letters : List Char) : Nat → List (List Char)
  | 0 => [[]]
  | count + 1 => extended (words letters count) (letters.map fun letter => [letter])

section Words

variable {letters : List Char}

theorem length_words (letters : List Char) (count : Nat) :
    (words letters count).length = letters.length ^ count := by
  induction count with
  | zero => rfl
  | succ count inductionHypothesis =>
      rw [words, length_extended, List.length_map, inductionHypothesis, Nat.pow_succ,
        Nat.mul_comm]

theorem length_of_mem_words {count : Nat} {word : List Char}
    (isWord : word ∈ words letters count) : word.length = count := by
  induction count generalizing word with
  | zero => rw [List.mem_singleton.mp isWord, List.length_nil]
  | succ count inductionHypothesis =>
      obtain ⟨shorter, isShorter, ending, isEnding, rfl⟩ := mem_extended.mp isWord
      obtain ⟨letter, _, rfl⟩ := List.mem_map.mp isEnding
      rw [List.length_append, inductionHypothesis isShorter, List.length_singleton]

theorem mem_letters_of_mem_words {count : Nat} {word : List Char}
    (isWord : word ∈ words letters count) : ∀ character ∈ word, character ∈ letters := by
  induction count generalizing word with
  | zero =>
      rw [List.mem_singleton.mp isWord]
      exact nofun
  | succ count inductionHypothesis =>
      obtain ⟨shorter, isShorter, ending, isEnding, rfl⟩ := mem_extended.mp isWord
      obtain ⟨letter, isLetter, rfl⟩ := List.mem_map.mp isEnding
      intro character isCharacter
      rcases List.mem_append.mp isCharacter with inShorter | isLast
      · exact inductionHypothesis isShorter character inShorter
      · rw [List.mem_singleton.mp isLast]
        exact isLetter

theorem nodup_words (distinct : letters.Nodup) (count : Nat) : (words letters count).Nodup := by
  induction count with
  | zero => exact List.nodup_singleton []
  | succ count inductionHypothesis =>
      apply nodup_extended (fun _ => length_of_mem_words) inductionHypothesis
      exact distinct.map List.singleton_injective

/-- A word with an ending is a name, if every letter may begin one. -/
theorem isName_of_mem_words {count : Nat} {word ending : List Char}
    (lettersBegin : ∀ letter ∈ letters, isNameStart letter = true)
    (isWord : word ∈ words letters (count + 1))
    (areParts : ∀ character ∈ ending, isNamePart character = true) :
    HasForm .name (word ++ ending) := by
  have length_eq := length_of_mem_words isWord
  have areLetters := mem_letters_of_mem_words isWord
  cases word with
  | nil => cases length_eq
  | cons first later =>
      apply HasForm.name (lettersBegin first (areLetters first (.head later)))
      intro character isCharacter
      rcases List.mem_append.mp isCharacter with inWord | inEnding
      · apply isNamePart_of_isNameStart
        exact lettersBegin character (areLetters character (.tail first inWord))
      · exact areParts character inEnding

end Words

end RuleMachine.GrammarText
