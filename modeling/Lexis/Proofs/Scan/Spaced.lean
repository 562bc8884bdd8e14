import Lexis.Proofs.Scan.Parts
import Lexis.Proofs.Scan.Whole
import Lexis.Proofs.Vocabulary

/-!
# Spaced lexemes

Which tokens a scan can hand out is said without a scan (`Vocabulary.Legal`):
numbers, words of the kind that the vocabulary gives them, and live operators.
Where no operator contains a blank, legal tokens can be written down one after
the other with a space behind each, and a scan finds them again
(`ofSource_spaced`).
-/

namespace Lexis

open Text Segment

/-! ## Legal tokens -/

namespace Vocabulary

/-- The tokens that sources can hold under a vocabulary. -/
inductive Legal (vocabulary : Vocabulary) : Token → Prop
  | number {digits : List Char} :
      digits ≠ [] → (∀ char ∈ digits, char.isDigit = true) →
      Legal vocabulary (.number (String.ofList digits))
  | word {letters : List Char} :
      SpellsWord letters →
      Legal vocabulary
        (if vocabulary.hasKeyword (String.ofList letters) then .symbol (String.ofList letters)
          else .identifier (String.ofList letters))
  | operator {spelling : List Char} :
      LiveOperator vocabulary spelling → Legal vocabulary (.symbol (String.ofList spelling))

variable {vocabulary : Vocabulary} {token : Token} {segment : Segment} {rest : List Char}

theorem legal_of_begins {start stop behind : Nat} (begins : Begins vocabulary segment rest)
    (found : segment.event? vocabulary start stop = some (.token token behind)) :
    vocabulary.Legal token := by
  cases begins with
  | number notEmpty longest =>
      rcases found with ⟨⟩
      exact .number notEmpty longest.all_accepted
  | word letter longest =>
      rcases found with ⟨⟩
      exact .word ⟨letter, longest.all_accepted⟩
  | pair plain single pair =>
      rcases found with ⟨⟩
      exact .operator (.pair (.single plain single) pair)
  | single plain single =>
      rcases found with ⟨⟩
      exact .operator (.single plain single)
  | _ => simp [event?] at found

/-- A symbol that is legal spells a word that is registered, or spells the kind
of identifiers, or is a live operator. -/
theorem Legal.of_symbol {spelling : String} (legal : vocabulary.Legal (.symbol spelling)) :
    SpellsWord spelling.toList ∧
        (vocabulary.hasKeyword spelling = true ∨ spelling = Token.identifierKind) ∨
      vocabulary.LiveOperator spelling.toList := by
  generalize same : Token.symbol spelling = token at legal
  cases legal with
  | @number digits _ allDigits =>
      rcases Token.mk.inj same with ⟨rfl, lexeme⟩
      obtain rfl : Token.numberKind.toList = digits := by rw [lexeme, String.toList_ofList]
      exact absurd (allDigits 'n' (by decide)) (by decide)
  | @word letters spells =>
      rw [← word_eq_ite] at same
      have lexeme : spelling = String.ofList letters :=
        (congrArg Token.lexeme same).trans (vocabulary.lexeme_word _)
      subst lexeme
      rw [String.toList_ofList]
      refine .inl ⟨spells, ?_⟩
      by_cases registered : vocabulary.hasKeyword (String.ofList letters) = true
      · exact .inl registered
      · rw [Vocabulary.word, if_neg registered] at same
        exact .inr (Token.mk.inj same).1
  | operator live =>
      rcases Token.mk.inj same with ⟨rfl, -⟩
      rw [String.toList_ofList]
      exact .inr live

theorem Legal.kind_eq (legal : vocabulary.Legal token) :
    token.kind = Token.numberKind ∨ token.kind = Token.identifierKind ∨
      token.kind = token.lexeme := by
  cases legal with
  | number => exact .inl rfl
  | word =>
      split
      · exact .inr (.inr rfl)
      · exact .inr (.inl rfl)
  | operator => exact .inr (.inr rfl)

/-- The lexeme of a legal token contains no character that operators avoid,
letters and digits apart. -/
theorem Legal.not_mem_lexeme {avoided : Char → Bool} {char : Char}
    (avoid : vocabulary.OperatorsAvoid avoided) (isAvoided : avoided char = true)
    (notAlphanumeric : char.isAlphanum = false) (legal : vocabulary.Legal token) :
    char ∉ token.lexeme.toList := by
  intro found
  cases legal with
  | @number digits _ allDigits =>
      rw [Token.number, String.toList_ofList] at found
      rw [isAlphanum_of_isDigit (allDigits char found)] at notAlphanumeric
      contradiction
  | word spells =>
      rw [← word_eq_ite, lexeme_word, String.toList_ofList] at found
      rw [spells.isAlphanum found] at notAlphanumeric
      contradiction
  | operator live =>
      rw [Token.symbol, String.toList_ofList] at found
      have spared := avoid.isOperator_eq_false found isAvoided
      rw [live.isOperator] at spared
      contradiction

/-- A legal token is the token of a segment that may stand before a space. -/
theorem Legal.exists_segment (avoid : vocabulary.OperatorsAvoid isBlank)
    (legal : vocabulary.Legal token) :
    ∃ segment : Segment, segment.text = token.lexeme.toList ∧
      (∀ char ∈ segment.text.head?, isBlank char = false) ∧
      (∀ start stop, segment.event? vocabulary start stop = some (.token token stop)) ∧
      ∀ rest, Begins vocabulary segment (' ' :: rest) := by
  cases legal with
  | @number digits notEmpty allDigits =>
      refine ⟨.number digits, by simp [text, Token.number], ?_, fun _ _ => rfl, fun rest =>
        .number notEmpty ⟨allDigits, by simp⟩⟩
      intro char first
      have digit := allDigits char (List.mem_of_mem_head? first)
      exact isBlank_eq_false_of_isAlphanum (isAlphanum_of_isDigit digit)
  | word spells =>
      rcases spells with ⟨letter, allAlphanumeric⟩
      rw [← word_eq_ite]
      refine ⟨.word _, by simp [text, lexeme_word], ?_, event?_word vocabulary _, fun rest =>
        .word letter ⟨allAlphanumeric, by simp⟩⟩
      rintro char ⟨⟩
      exact isBlank_eq_false_of_isAlphanum (isAlphanum_of_isAlpha letter)
  | operator live =>
      cases live with
      | @single char plain single =>
          have blankAvoided : isOperator vocabulary [char, ' '] = false :=
            avoid.isOperator_eq_false (by simp) (rfl : isBlank ' ' = true)
          refine ⟨.operator [char], by simp [text, Token.symbol], ?_, fun _ _ => rfl, fun rest =>
            .single plain single ?_⟩
          · rintro first ⟨⟩
            exact plain.notBlank
          · rintro second behind ⟨⟩ -
            exact blankAvoided
      | @pair char second live pair =>
          rcases live with ⟨plain, single⟩
          refine ⟨.operator [char, second], by simp [text, Token.symbol], ?_, fun _ _ => rfl,
            fun rest => .pair plain single pair (List.cons_ne_nil ' ' rest)⟩
          rintro first ⟨⟩
          exact plain.notBlank

end Vocabulary

namespace Scan

variable {vocabulary : Vocabulary} {tokens : List Token}

/-- The lexemes of some tokens, each with a space behind it. -/
def spaced (tokens : List Token) : String :=
  String.ofList (tokens.flatMap fun token => token.lexeme.toList ++ [' '])

theorem legal_of_mem_tokens {source : String} {token : Token}
    (handed : token ∈ (ofSource vocabulary source).tokens) : vocabulary.Legal token := by
  rw [Scan.tokens, toList_journal_ofSource, List.mem_filterMap] at handed
  rcases handed with ⟨event, met, isToken⟩
  rcases exists_segment_of_mem_events met with ⟨earlier, segment, later, split, lies⟩
  have segmented := segmentation_segments vocabulary source.toList
  rcases segmented.exists_begins (split ▸ List.mem_append_cons_self) with ⟨rest, begins⟩
  cases event with
  | token found stop =>
      obtain rfl := Option.some_inj.mp isToken
      exact Vocabulary.legal_of_begins begins lies
  | _ => contradiction

/-- Spaced lexemes do not begin with a blank. -/
theorem isBlank_head?_spaced (avoid : vocabulary.OperatorsAvoid isBlank)
    (legal : ∀ token ∈ tokens, vocabulary.Legal token) :
    ∀ char ∈ (spaced tokens).toList.head?, isBlank char = false := by
  intro char first
  rw [spaced, String.toList_ofList] at first
  cases tokens with
  | nil => contradiction
  | cons token later =>
      rcases (legal token List.mem_cons_self).exists_segment avoid with
        ⟨segment, spells, notBlank, -, begins⟩
      rw [List.flatMap_cons, ← spells, List.append_assoc,
        List.head?_append_of_ne_nil _ (begins []).text_ne_nil] at first
      exact notBlank char first

/-- Spaced lexemes of legal tokens are read as these tokens and as nothing else. -/
theorem map_token?_events_spaced (avoid : vocabulary.OperatorsAvoid isBlank)
    (legal : ∀ token ∈ tokens, vocabulary.Legal token) (offset : Nat) :
    (events vocabulary offset (segments vocabulary (spaced tokens).toList)).map Event.token? =
      tokens.map some := by
  induction tokens generalizing offset with
  | nil =>
      rw [spaced, List.flatMap_nil, String.toList_ofList, segments]
      rfl
  | cons token later inductionHypothesis =>
      rcases List.forall_mem_cons.mp legal with ⟨here, legalLater⟩
      rcases here.exists_segment avoid with ⟨segment, spells, -, isToken, begins⟩
      have text : (spaced (token :: later)).toList =
          segment.text ++ ' ' :: (spaced later).toList := by
        simp only [spaced, String.toList_ofList, List.flatMap_cons, spells, List.append_assoc,
          List.singleton_append]
      have space : Begins vocabulary (.blanks [' ']) (spaced later).toList :=
        .blanks (List.cons_ne_nil _ _) ⟨by simp [isBlank], isBlank_head?_spaced avoid legalLater⟩
      have behind : segments vocabulary (' ' :: (spaced later).toList) =
          .blanks [' '] :: segments vocabulary (spaced later).toList := space.segments_eq
      rw [text, (begins _).segments_eq, behind, events, events, isToken, event?,
        Option.toList_none, List.nil_append, Option.toList_some, List.singleton_append,
        List.map_cons, inductionHypothesis legalLater, List.map_cons]
      rfl

theorem events_ofSource_spaced (avoid : vocabulary.OperatorsAvoid isBlank)
    (legal : ∀ token ∈ tokens, vocabulary.Legal token) :
    (ofSource vocabulary (spaced tokens)).tokens = tokens ∧
      (ofSource vocabulary (spaced tokens)).warnings = [] ∧
      ∀ event ∈ (ofSource vocabulary (spaced tokens)).journal, event.token?.isSome = true := by
  have read := map_token?_events_spaced avoid legal 0
  rw [← toList_journal_ofSource] at read
  have onlyTokens : ∀ event ∈ (ofSource vocabulary (spaced tokens)).journal.toList,
      event.token?.isSome = true := by
    intro event met
    have listed : event.token? ∈ tokens.map some := read ▸ List.mem_map_of_mem met
    rcases List.mem_map.mp listed with ⟨token, -, isToken⟩
    rw [← isToken, Option.isSome_some]
  refine ⟨?_, ?_, fun event met => onlyTokens event (Array.mem_toList_iff.mpr met)⟩
  · have found := congrArg (List.filterMap id) read
    rw [List.filterMap_map, List.filterMap_map] at found
    exact found.trans List.filterMap_some
  · rw [warnings, List.filterMap_eq_nil_iff]
    intro event met
    have isToken := onlyTokens event met
    cases event with
    | token => rfl
    | _ => contradiction

/-- Where no operator contains a blank, the spaced lexemes of legal tokens are
read as these tokens and as nothing else.  Every token of a scan is legal, so
the tokens of a source stay the same when it is written as its spaced lexemes. -/
theorem ofSource_spaced (vocabulary : Vocabulary) :
    (∀ source, ∀ token ∈ (ofSource vocabulary source).tokens, vocabulary.Legal token) ∧
    (vocabulary.OperatorsAvoid isBlank →
      (∀ tokens, (∀ token ∈ tokens, vocabulary.Legal token) →
        let scan := ofSource vocabulary (spaced tokens)
        scan.tokens = tokens ∧ scan.warnings = [] ∧
          ∀ event ∈ scan.journal, event.token?.isSome = true) ∧
      ∀ source, let tokens := (ofSource vocabulary source).tokens
        (ofSource vocabulary (spaced tokens)).tokens = tokens) := by
  refine ⟨fun _ _ => legal_of_mem_tokens, fun avoid => ⟨?_, ?_⟩⟩
  · intro tokens legal
    exact events_ofSource_spaced avoid legal
  · intro source
    exact (events_ofSource_spaced avoid fun _ => legal_of_mem_tokens).1

/-- A mark that is an operator opens no comment, and a pair of a mark and a
digit comes back whole. -/
theorem ofSource_spaced_marks :
    let vocabulary :=
      Vocabulary.empty.registerAll [.keyword "if", .operator "#", .operator "#1"]
    let tokens : List Token :=
      [.symbol "#1", .symbol "#", .symbol "if", .identifier "x1", .number "10"]
    vocabulary.OperatorsAvoid isBlank ∧ (∀ token ∈ tokens, vocabulary.Legal token) ∧
      (ofSource vocabulary "#1 # if x1 10 ").tokens = tokens := by
  intro vocabulary tokens
  have avoid : vocabulary.OperatorsAvoid isBlank := by
    have only : ∀ spelling, vocabulary.hasOperator spelling = true →
        spelling ∈ ["#", "#1"] := by
      intro spelling registered
      have entered := (Vocabulary.has_registerAll_iff _ (.operator spelling)).mp registered
      simpa [Vocabulary.Has, Vocabulary.hasOperator, Vocabulary.empty] using entered
    exact Vocabulary.operatorsAvoid_of_all only (by decide)
  have legal : ∀ token ∈ tokens, vocabulary.Legal token := by
    have single : vocabulary.LiveOperator ['#'] := .single plain_mark (by decide +kernel)
    have keyword : vocabulary.word "if" = .symbol "if" := by decide +kernel
    have identifier : vocabulary.word "x1" = .identifier "x1" := by decide +kernel
    have spellsIf : Vocabulary.SpellsWord ['i', 'f'] :=
      .intro (by decide) (List.all_eq_true.mp rfl)
    have spellsX : Vocabulary.SpellsWord ['x', '1'] :=
      .intro (by decide) (List.all_eq_true.mp rfl)
    have digits : ∀ char ∈ ['1', '0'], char.isDigit = true := List.all_eq_true.mp rfl
    simp only [tokens, List.forall_mem_cons, ← keyword, ← identifier]
    exact ⟨.operator (.pair single (by decide +kernel)), .operator single, .word spellsIf,
      .word spellsX, .number (List.cons_ne_nil _ _) digits, List.forall_mem_nil _⟩
  exact ⟨avoid, legal, (((ofSource_spaced vocabulary).2 avoid).1 tokens legal).1⟩

end Scan

end Lexis
