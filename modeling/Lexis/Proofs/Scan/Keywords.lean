import Lexis.Proofs.Scan.Recasting
import Lexis.Proofs.Scan.Spaced
import Lexis.Proofs.Scan.Summary
import Mathlib.Data.List.Forall2

/-!
# Keywords only name words

Which keywords are registered decides the kinds of words and nothing else.
Vocabularies with the same operators move through every source in the same
steps, to the same offsets and past the same warnings, and they hand out the
same lexemes; only a word is of the kind that each of them gives it
(`ofSource_of_same_operators`).
-/

namespace Lexis

open Text Segment

/-! ## Tokens under another vocabulary -/

namespace Vocabulary

/-- The token that a vocabulary makes of the lexeme of another token: a word is
of the kind that the vocabulary gives it. -/
def reread (vocabulary : Vocabulary) (token : Token) : Token :=
  if token.lexeme.toList.head?.any Char.isAlpha then vocabulary.word token.lexeme else token

/-- The tokens that two vocabularies make of one lexeme.  Numbers and operators
are the same, and a word has its kind from each vocabulary. -/
inductive Counterparts (left right : Vocabulary) : Token → Token → Prop
  | number {digits : List Char} :
      digits ≠ [] → (∀ char ∈ digits, char.isDigit = true) →
      Counterparts left right (.number (String.ofList digits)) (.number (String.ofList digits))
  | word {letters : List Char} :
      SpellsWord letters →
      Counterparts left right
        (if left.hasKeyword (String.ofList letters) then .symbol (String.ofList letters)
          else .identifier (String.ofList letters))
        (if right.hasKeyword (String.ofList letters) then .symbol (String.ofList letters)
          else .identifier (String.ofList letters))
  | operator {spelling : List Char} :
      LiveOperator left spelling →
      Counterparts left right (.symbol (String.ofList spelling)) (.symbol (String.ofList spelling))

variable {left right vocabulary : Vocabulary} {token : Token} {chars : List Char}

@[simp]
theorem lexeme_reread (vocabulary : Vocabulary) (token : Token) :
    (vocabulary.reread token).lexeme = token.lexeme := by
  rw [reread]
  split
  · exact vocabulary.lexeme_word token.lexeme
  · rfl

theorem reread_number (vocabulary : Vocabulary)
    (allDigits : ∀ char ∈ chars, char.isDigit = true) :
    vocabulary.reread (.number (String.ofList chars)) = .number (String.ofList chars) := by
  apply if_neg
  rw [Token.number, String.toList_ofList]
  cases chars with
  | nil => exact Bool.false_ne_true
  | cons char rest =>
      have notLetter := isAlpha_eq_false_of_isDigit (allDigits char List.mem_cons_self)
      rw [List.head?_cons, Option.any_some, notLetter]
      exact Bool.false_ne_true

theorem reread_word (left right : Vocabulary) (spells : SpellsWord chars) :
    right.reread (left.word (String.ofList chars)) = right.word (String.ofList chars) := by
  rw [reread, lexeme_word, String.toList_ofList, if_pos]
  rcases spells with ⟨letter, -⟩
  exact letter

theorem reread_symbol (vocabulary : Vocabulary) (live : left.LiveOperator chars) :
    vocabulary.reread (.symbol (String.ofList chars)) = .symbol (String.ofList chars) := by
  apply if_neg
  rw [Token.symbol, String.toList_ofList, Bool.not_eq_true]
  cases live with
  | single plain => exact plain.notLetter
  | pair single =>
      rcases single with ⟨plain, -⟩
      exact plain.notLetter

theorem Legal.counterparts (legal : left.Legal token) (right : Vocabulary) :
    Counterparts left right token (right.reread token) := by
  cases legal with
  | number notEmpty allDigits =>
      rw [reread_number right allDigits]
      exact .number notEmpty allDigits
  | word spells =>
      rw [← word_eq_ite, reread_word left right spells]
      exact .word spells
  | operator live =>
      rw [reread_symbol right live]
      exact .operator live

end Vocabulary

/-! ## Scans under another vocabulary -/

/-- An event with the token that a vocabulary makes of its lexeme. -/
def Event.reread (vocabulary : Vocabulary) : Event → Event
  | token found stop => token (vocabulary.reread found) stop
  | event => event

section SameOperators

variable {left right : Vocabulary}
  (same : ∀ spelling, left.hasOperator spelling = right.hasOperator spelling)
include same

theorem Vocabulary.LiveOperator.congr {spelling : List Char} (live : left.LiveOperator spelling) :
    right.LiveOperator spelling := by
  have registered : Segment.isOperator left = Segment.isOperator right := by
    funext chars
    rw [Segment.isOperator, Segment.isOperator, same]
  induction live with
  | single plain operator => exact .single plain (registered ▸ operator)
  | pair _ operator inductionHypothesis =>
      exact .pair inductionHypothesis (registered ▸ operator)

/-- Vocabularies with the same operators cut every text alike, and only words
are of other kinds. -/
theorem recasts_of_hasOperator : Recasts left right id (Event.reread right) := by
  refine recasts_of_liveOperator
    (fun _ => ⟨.congr same, .congr fun spelling => (same spelling).symm⟩)
    fun begins start stop => ?_
  cases begins with
  | number notEmpty longest =>
      simp only [event?, Option.map_some, Event.reread,
        Vocabulary.reread_number right longest.all_accepted]
  | word letter longest =>
      simp only [event?_word, Option.map_some, Event.reread,
        Vocabulary.reread_word left right ⟨letter, longest.all_accepted⟩]
  | pair plain single pair =>
      simp only [event?, Option.map_some, Event.reread,
        Vocabulary.reread_symbol right (.pair (.single plain single) pair)]
  | single plain single =>
      simp only [event?, Option.map_some, Event.reread,
        Vocabulary.reread_symbol right (.single plain single)]
  | _ => rfl

namespace Summary

theorem ended_of_hasOperator (source : String) :
    (ofSource right source).ended =
      (ofSource left source).ended.map fun ended => (right.reread ended.1, ended.2) := by
  rw [ofSource, ofSource, (recasts_of_hasOperator same).toList_journal_eq]
  refine Event.filterMap_map_of_commutes (fun event => ?_) _
  cases event <;> rfl

theorem warnings_of_hasOperator (source : String) :
    (ofSource right source).warnings = (ofSource left source).warnings := by
  simp only [ofSource, Scan.warnings, (recasts_of_hasOperator same).toList_journal_eq,
    List.filterMap_map]
  refine congrArg (List.filterMap · _) (funext fun event => ?_)
  cases event <;> rfl

end Summary

end SameOperators

namespace Summary

open Scan (advanced)

/-- Whatever their keywords are, vocabularies with the same operators find the
same lexemes in a source, each ending at the same offset, and the same
warnings.  Every move finds a token under both of them or under none, and leads
to the same offset, and both scans end at the same one.  The tokens are the
same as well, but for the kinds of words: a word is its own kind where it is a
keyword, and an identifier elsewhere. -/
theorem ofSource_of_same_operators (left right : Vocabulary) (source : String)
    (same : ∀ spelling, left.hasOperator spelling = right.hasOperator spelling) :
    let one := ofSource left source
    let two := ofSource right source
    one.ended.map (fun ended => (ended.1.lexeme, ended.2)) =
      two.ended.map (fun ended => (ended.1.lexeme, ended.2)) ∧
    one.warnings = two.warnings ∧
    (∀ count,
      (advanced left source count).next.1.isSome = (advanced right source count).next.1.isSome ∧
      (advanced left source count).position = (advanced right source count).position) ∧
    (Scan.ofSource left source).position = (Scan.ofSource right source).position ∧
    List.Forall₂ (Vocabulary.Counterparts left right) (Scan.ofSource left source).tokens
      (Scan.ofSource right source).tokens := by
  intro one two
  have ended : two.ended = one.ended.map fun ended => (right.reread ended.1, ended.2) :=
    ended_of_hasOperator same source
  refine ⟨?_, (warnings_of_hasOperator same source).symm, fun count => ⟨?_, ?_⟩, ?_, ?_⟩
  · rw [ended, List.map_map]
    simp only [Function.comp_def, Vocabulary.lexeme_reread]
  · rw [Scan.next_advanced, Scan.next_advanced, Option.isSome_map, Option.isSome_map]
    change one.ended[count]?.isSome = two.ended[count]?.isSome
    rw [ended, List.getElem?_map, Option.isSome_map]
  · rw [Scan.position_advanced, Scan.position_advanced]
    change one.position count = two.position count
    cases count with
    | zero => rfl
    | succ count =>
        rw [position, position, ended, List.getElem?_map]
        cases one.ended[count]? <;> rfl
  · rw [Scan.position, Scan.position, Scan.place_ofSource, Scan.place_ofSource]
  · have tokens : (Scan.ofSource right source).tokens =
        (Scan.ofSource left source).tokens.map right.reread := by
      rw [← map_fst_ended, ← map_fst_ended]
      change two.ended.map Prod.fst = (one.ended.map Prod.fst).map right.reread
      rw [ended, List.map_map, List.map_map]
      rfl
    rw [tokens, List.forall₂_map_right_iff, List.forall₂_same]
    intro token handed
    exact (Scan.legal_of_mem_tokens handed).counterparts right

/-- A keyword that begins a longer word does not cut it, and neither a number
nor an operator nor a mark is another one for being a keyword. -/
theorem ofSource_of_same_operators_words :
    let left := Vocabulary.arithmetic.registerAll [.keyword "if", .keyword "1", .keyword "+"]
    let right := Vocabulary.arithmetic.registerAll [.keyword "iffy", .keyword "i", .keyword "#"]
    (∀ spelling, left.hasOperator spelling = right.hasOperator spelling) ∧
      (ofSource right "if+iffy 1é#i").ended.map (fun ended => (ended.1.lexeme, ended.2)) =
        [("if", 2), ("+", 3), ("iffy", 7), ("1", 9)] ∧
      (ofSource right "if+iffy 1é#i").warnings = [⟨9, 'é'⟩] ∧
      (advanced right "if+iffy 1é#i" 5).position = 13 ∧
      List.Forall₂ (Vocabulary.Counterparts left right)
        [.symbol "if", .symbol "+", .identifier "iffy", .number "1"]
        [.identifier "if", .symbol "+", .symbol "iffy", .number "1"] := by
  intro left right
  have same : ∀ spelling, left.hasOperator spelling = right.hasOperator spelling := fun _ => rfl
  rcases ofSource_of_same_operators left right "if+iffy 1é#i" same with
    ⟨lexemes, warnings, moves, -, counterparts⟩
  have leftTokens : (Scan.ofSource left "if+iffy 1é#i").tokens =
      [.symbol "if", .symbol "+", .identifier "iffy", .number "1"] := by decide +kernel
  have rightTokens : (Scan.ofSource right "if+iffy 1é#i").tokens =
      [.identifier "if", .symbol "+", .symbol "iffy", .number "1"] := by decide +kernel
  rw [leftTokens, rightTokens] at counterparts
  refine ⟨same, lexemes.symm.trans ?_, warnings.symm.trans ?_, (moves 5).2.symm.trans ?_,
    counterparts⟩
  · decide +kernel
  · decide +kernel
  · decide +kernel

end Summary

end Lexis
