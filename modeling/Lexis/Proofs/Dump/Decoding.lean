import Lexis.Proofs.Dump

/-!
# Reading dumps back

Nothing in a dump is escaped: a lexeme may be a comma, end with a bracket or
hold a newline.  And yet the line of a token that a scan can hand out tells
which token it is and where it ends (`leading_line`), because such a token is
a word, a number or one or two operator characters.  So a dump can be read back
line by line (`decode_text`), and no two tokens of scans have the same text
(`tokens?_output`).
-/

namespace Lexis

open Segment Vocabulary

/-! ## The token of a line -/

namespace Token

/-- The kind that begins some characters: a word, or else the one or two
characters before a comma with a space. -/
def leadingKind : List Char → List Char
  | [] => []
  | char :: rest =>
      if char.isAlpha then char :: rest.takeWhile Char.isAlphanum
      else if [',', ' '].isPrefixOf rest then [char]
      else char :: rest.take 1

/-- The token whose line begins some characters.  Where the kind is a word, the
lexeme is the run of letters and digits behind it; an operator is its own kind. -/
def leading (line : List Char) : Token :=
  let inside := line.drop 1
  let kind := leadingKind inside
  let lexeme :=
    if inside.head?.any Char.isAlpha then
      (inside.drop (kind.length + 2)).takeWhile Char.isAlphanum
    else kind
  ⟨String.ofList kind, String.ofList lexeme⟩

theorem toList_line (token : Token) :
    token.line.toList =
      '<' :: (token.kind.toList ++ ',' :: ' ' :: (token.lexeme.toList ++ ['>', '\n'])) := by
  simp [line, text]

variable {vocabulary : Vocabulary} {kind lexeme spelling rest : List Char}

theorem takeWhile_isAlphanum_append {run : List Char} {char : Char}
    (allAlphanumeric : ∀ char ∈ run, char.isAlphanum = true) (other : char.isAlphanum = false) :
    (run ++ char :: rest).takeWhile Char.isAlphanum = run :=
  LongestRun.takeWhile_append ⟨allAlphanumeric, by simpa using other⟩

theorem leading_word (spells : SpellsWord kind)
    (allAlphanumeric : ∀ char ∈ lexeme, char.isAlphanum = true) (rest : List Char) :
    leading ('<' :: (kind ++ ',' :: ' ' :: (lexeme ++ '>' :: rest))) =
      ⟨String.ofList kind, String.ofList lexeme⟩ := by
  cases spells with
  | @intro letter others isLetter alphanumericOthers =>
      have found : leadingKind (letter :: others ++ ',' :: ' ' :: (lexeme ++ '>' :: rest)) =
          letter :: others := by
        rw [List.cons_append, leadingKind, if_pos isLetter,
          takeWhile_isAlphanum_append alphanumericOthers (by decide)]
      have behind : (letter :: others ++ ',' :: ' ' :: (lexeme ++ '>' :: rest)).drop
          ((letter :: others).length + 2) = lexeme ++ '>' :: rest := by
        rw [List.drop_append, List.drop_eq_nil_of_le (by omega)]
        simp
      have head : (letter :: others ++ ',' :: ' ' :: (lexeme ++ '>' :: rest)).head?.any
          Char.isAlpha = true := isLetter
      rw [leading, List.drop_one, List.tail_cons, found, behind, if_pos head,
        takeWhile_isAlphanum_append allAlphanumeric (by decide)]

theorem leading_operator (live : LiveOperator vocabulary spelling) (rest : List Char) :
    leading ('<' :: (spelling ++ ',' :: ' ' :: (spelling ++ '>' :: rest))) =
      symbol (String.ofList spelling) := by
  cases live with
  | single plain =>
      simp [leading, leadingKind, plain.notLetter, symbol]
  | @pair char second single =>
      rcases single with ⟨plain, -⟩
      have found : leadingKind ([char, second] ++ ',' :: ' ' ::
          ([char, second] ++ '>' :: rest)) = [char, second] := by
        rw [List.cons_append, leadingKind, if_neg (by simp [plain.notLetter]), if_neg (by simp)]
        rfl
      have head : ¬ ([char, second] ++ ',' :: ' ' ::
          ([char, second] ++ '>' :: rest)).head?.any Char.isAlpha = true := by
        simp [plain.notLetter]
      rw [leading, List.drop_one, List.tail_cons, found, if_neg head]
      rfl

end Token

/-- A legal token is written with a word as its kind and letters and digits as
its lexeme, or it is a live operator. -/
theorem Vocabulary.Legal.shape {vocabulary : Vocabulary} {token : Token}
    (legal : vocabulary.Legal token) :
    (SpellsWord token.kind.toList ∧
        ∀ char ∈ token.lexeme.toList, char.isAlphanum = true) ∨
      ∃ spelling, LiveOperator vocabulary spelling ∧
        token = .symbol (String.ofList spelling) := by
  cases legal with
  | @number digits _ allDigits =>
      left
      refine ⟨spellsWord_numberKind, ?_⟩
      rw [Token.number, String.toList_ofList]
      exact fun char found => Text.isAlphanum_of_isDigit (allDigits char found)
  | @word letters spells =>
      left
      rw [← word_eq_ite, lexeme_word, String.toList_ofList]
      refine ⟨?_, fun char => spells.isAlphanum⟩
      rw [Vocabulary.word]
      split
      · rwa [Token.symbol, String.toList_ofList]
      · exact spellsWord_identifierKind
  | operator live => exact .inr ⟨_, live, rfl⟩

/-- The line of a legal token is read as this token, whatever follows it. -/
theorem Token.leading_line {vocabulary : Vocabulary} {token : Token}
    (legal : vocabulary.Legal token) (rest : List Char) :
    leading (token.line.toList ++ rest) = token := by
  simp only [toList_line, List.cons_append, List.append_assoc, List.nil_append]
  rcases legal.shape with ⟨kind, lexeme⟩ | ⟨spelling, live, rfl⟩
  · rw [leading_word kind lexeme, String.ofList_toList, String.ofList_toList]
  · rw [symbol, String.toList_ofList, leading_operator live, symbol]

/-- Legal tokens with the same text are equal, even under two vocabularies. -/
theorem Token.eq_of_text_eq {vocabulary other : Vocabulary} {first second : Token}
    (firstLegal : vocabulary.Legal first) (secondLegal : other.Legal second)
    (same : first.text = second.text) : first = second := by
  have lines : first.line = second.line := by rw [line, line, same]
  rw [← leading_line firstLegal [], lines, leading_line secondLegal []]

/-! ## The tokens of a dump -/

namespace Dump

theorem length_line_pos (token : Token) : 0 < token.line.toList.length := by
  rw [Token.toList_line]
  exact Nat.succ_pos _

/-- The tokens of which some characters are the lines. -/
def decode : List Char → List Token
  | [] => []
  | char :: rest =>
      Token.leading (char :: rest) ::
        decode ((char :: rest).drop (Token.leading (char :: rest)).line.toList.length)
termination_by text => text.length
decreasing_by
  have positive := length_line_pos (Token.leading (char :: rest))
  simp only [List.length_drop, List.length_cons]
  omega

/-- The tokens of a dump that is there as bytes, if these are a text. -/
def tokens? (output : ByteArray) : Option (List Token) :=
  (String.fromUTF8? output).map fun text => decode text.toList

theorem decode_of_ne_nil {line : List Char} (notEmpty : line ≠ []) :
    decode line = Token.leading line ::
      decode (line.drop (Token.leading line).line.toList.length) := by
  rcases List.exists_cons_of_ne_nil notEmpty with ⟨char, rest, rfl⟩
  rw [decode]

theorem decode_line_append {vocabulary : Vocabulary} {token : Token}
    (legal : vocabulary.Legal token) (rest : List Char) :
    decode (token.line.toList ++ rest) = token :: decode rest := by
  have notEmpty : token.line.toList ++ rest ≠ [] :=
    List.append_ne_nil_of_left_ne_nil (List.ne_nil_of_length_pos (length_line_pos token)) rest
  rw [decode_of_ne_nil notEmpty, Token.leading_line legal, List.drop_left]

/-- The lines of legal tokens are read back, each under a vocabulary of its own. -/
theorem decode_text {tokens : List Token}
    (legal : ∀ token ∈ tokens, ∃ vocabulary : Vocabulary, vocabulary.Legal token) :
    decode (text tokens).toList = tokens := by
  induction tokens with
  | nil => rw [text, List.map_nil, String.join_nil, String.toList_empty, decode]
  | cons token later inductionHypothesis =>
      rcases List.forall_mem_cons.mp legal with ⟨⟨vocabulary, here⟩, legalLater⟩
      rw [text, List.map_cons, String.join_cons, String.toList_append, decode_line_append here,
        ← text, inductionHypothesis legalLater]

theorem tokens?_toByteArray (text : String) :
    tokens? text.toByteArray = some (decode text.toList) := by
  rw [tokens?, String.fromUTF8?, dif_pos text.isValidUTF8]
  rfl

/-- A dump loses nothing: the tokens of the source are read back from the bytes
of the dump, so two sources have equal dumps exactly when they have equal
tokens.  The text of a token tells the token among all that any scans hand
out, under whatever vocabularies, though not among all tokens there are. -/
theorem tokens?_output :
    (∀ source, tokens? (ofSource source none).output = some (tokensOf source)) ∧
    (∀ source other, (ofSource source none).output = (ofSource other none).output ↔
      tokensOf source = tokensOf other) ∧
    (∀ vocabulary source other otherSource,
      ∀ first ∈ (Scan.ofSource vocabulary source).tokens,
      ∀ second ∈ (Scan.ofSource other otherSource).tokens,
        first.text = second.text → first = second) ∧
    ∃ first second : Token, first.text = second.text ∧ first ≠ second := by
  have decoded : ∀ source, tokens? (ofSource source none).output = some (tokensOf source) := by
    intro source
    rw [ofSource_none, tokens?_toByteArray,
      decode_text fun token (handed : token ∈ tokensOf source) =>
        ⟨.arithmetic, Scan.legal_of_mem_tokens handed⟩]
  refine ⟨decoded, fun source other => ⟨?_, ?_⟩, ?_, ?_⟩
  · intro same
    exact Option.some_inj.mp (by rw [← decoded, same, decoded])
  · intro same
    rw [ofSource_none, ofSource_none, same]
  · intro vocabulary source other otherSource first firstHanded second secondHanded
    exact Token.eq_of_text_eq (Scan.legal_of_mem_tokens firstHanded)
      (Scan.legal_of_mem_tokens secondHanded)
  · exact ⟨⟨"a", "b, c"⟩, ⟨"a, b", "c"⟩, by decide, by decide⟩

/-- Blanks, comments and illegal characters leave no trace in a dump.  A comma
with a newline behind it is one token wherever it is scanned. -/
theorem tokens?_output_comma :
    let commas := Vocabulary.empty.registerAll [.operator ",", .operator ",\n"]
    let words := commas.registerAll [.keyword "num"]
    let first : Token := ⟨",\n", ",\n"⟩
    let second : Token := .symbol ",\n"
    (ofSource "1 #c# =é2" none).output = (ofSource "1=2" none).output ∧
      tokensOf "1 #c# =é2" = tokensOf "1=2" ∧
      first ∈ (Scan.ofSource commas ",\n1").tokens ∧
      second ∈ (Scan.ofSource words "num,\n,").tokens ∧ first.text = second.text ∧
      first = second := by
  intro commas words first second
  have outputs : (ofSource "1 #c# =é2" none).output = (ofSource "1=2" none).output := by
    decide +kernel
  have firstHanded : first ∈ (Scan.ofSource commas ",\n1").tokens := by decide +kernel
  have secondHanded : second ∈ (Scan.ofSource words "num,\n,").tokens := by decide +kernel
  rcases tokens?_output with ⟨-, tokens, texts, -⟩
  exact ⟨outputs, (tokens _ _).mp outputs, firstHanded, secondHanded, rfl,
    texts _ _ _ _ first firstHanded second secondHanded rfl⟩

/-- An operator may hold what divides a line from the next one. -/
example : decode "<,\n, ,\n>\n<num, num>\n".toList = [.symbol ",\n", .symbol "num"] := by
  decide +kernel

end Dump

end Lexis
