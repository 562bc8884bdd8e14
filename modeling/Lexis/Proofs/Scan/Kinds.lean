import Lexis.Proofs.Scan.LiveEntries

/-!
# Kinds that tell

The kinds of numbers and of identifiers are plain words, and a keyword is its
own kind.  So the kind of a token tells a number and an identifier from all
other tokens exactly when neither of the two words is a keyword.  Operators
have no part in this, for none that a scan can meet spells a word
(`kindsTell_iff_hasKeyword`).
-/

namespace Lexis.Vocabulary

open Segment

/-- Only a run of digits is of the kind of numbers, and only a word that is no
keyword is of the kind of identifiers. -/
structure KindTells (vocabulary : Vocabulary) (token : Token) : Prop where
  number : token.kind = Token.numberKind →
    token.lexeme ≠ "" ∧ ∀ char ∈ token.lexeme.toList, char.isDigit = true
  identifier : token.kind = Token.identifierKind →
    SpellsWord token.lexeme.toList ∧ vocabulary.hasKeyword token.lexeme = false

/-- The kinds of all tokens tell what they are, in every source. -/
def KindsTell (vocabulary : Vocabulary) : Prop :=
  ∀ source, ∀ token ∈ (Scan.ofSource vocabulary source).tokens, vocabulary.KindTells token

variable {vocabulary : Vocabulary} {token : Token}

/-! ## Keywords that break it -/

theorem KindsTell.of_keyword {spelling : String} (tells : vocabulary.KindsTell)
    (spells : SpellsWord spelling.toList) (registered : vocabulary.hasKeyword spelling = true) :
    vocabulary.KindTells (.symbol spelling) := by
  have handed := Scan.word_mem_tokens vocabulary spells
  rw [String.ofList_toList, word, if_pos registered] at handed
  exact tells _ _ handed

/-- A keyword spelled like the kind of numbers would be of that kind without
being a number. -/
theorem KindsTell.hasKeyword_numberKind (tells : vocabulary.KindsTell) :
    vocabulary.hasKeyword Token.numberKind = false := by
  rw [← Bool.not_eq_true]
  intro registered
  have digits := ((tells.of_keyword spellsWord_numberKind registered).number rfl).2
  exact absurd (digits 'n' (by decide)) (by decide)

/-- A keyword spelled like the kind of identifiers would be of that kind
although it is a keyword. -/
theorem KindsTell.hasKeyword_identifierKind (tells : vocabulary.KindsTell) :
    vocabulary.hasKeyword Token.identifierKind = false := by
  rw [← Bool.not_eq_true]
  intro registered
  have unregistered := ((tells.of_keyword spellsWord_identifierKind registered).identifier rfl).2
  exact absurd (registered.symm.trans unregistered) Bool.noConfusion

/-! ## Nothing else breaks it -/

/-- A keyword that is spelled like neither kind is of neither. -/
theorem kindTells_word {letters : List Char} (spells : SpellsWord letters)
    (numberFree : vocabulary.hasKeyword Token.numberKind = false)
    (identifierFree : vocabulary.hasKeyword Token.identifierKind = false) :
    vocabulary.KindTells (vocabulary.word (String.ofList letters)) := by
  rw [word]
  split
  next registered =>
      constructor
      · intro (kind : String.ofList letters = Token.numberKind)
        rw [kind, numberFree] at registered
        contradiction
      · intro (kind : String.ofList letters = Token.identifierKind)
        rw [kind, identifierFree] at registered
        contradiction
  next unregistered =>
      constructor
      · intro (kind : Token.identifierKind = Token.numberKind)
        exact absurd kind (by decide)
      · intro _
        rw [Token.identifier, String.toList_ofList]
        exact ⟨spells, Bool.eq_false_iff.mpr unregistered⟩

/-- An operator that a scan can meet is of neither kind, for it does not spell a
word. -/
theorem kindTells_symbol {spelling : List Char} (live : LiveOperator vocabulary spelling) :
    vocabulary.KindTells (.symbol (String.ofList spelling)) := by
  have other {kind : String} (spells : SpellsWord kind.toList)
      (same : String.ofList spelling = kind) : False := by
    apply live.not_spellsWord
    rwa [← same, String.toList_ofList] at spells
  exact ⟨fun kind => (other spellsWord_numberKind kind).elim,
    fun kind => (other spellsWord_identifierKind kind).elim⟩

theorem Legal.kindTells (legal : vocabulary.Legal token)
    (numberFree : vocabulary.hasKeyword Token.numberKind = false)
    (identifierFree : vocabulary.hasKeyword Token.identifierKind = false) :
    vocabulary.KindTells token := by
  cases legal with
  | @number digits notEmpty allDigits =>
      constructor
      · intro _
        rw [Token.number, Ne, ← String.toList_eq_nil_iff, String.toList_ofList]
        exact ⟨notEmpty, allDigits⟩
      · intro (kind : Token.numberKind = Token.identifierKind)
        exact absurd kind (by decide)
  | word spells =>
      rw [← word_eq_ite]
      exact kindTells_word spells numberFree identifierFree
  | operator live => exact kindTells_symbol live

theorem kindsTell_of_hasKeyword (numberFree : vocabulary.hasKeyword Token.numberKind = false)
    (identifierFree : vocabulary.hasKeyword Token.identifierKind = false) :
    vocabulary.KindsTell := by
  intro source token handed
  exact (Scan.legal_of_mem_tokens handed).kindTells numberFree identifierFree

/-! ## Exactly two keywords matter -/

theorem hasKeyword_registerAll_operators (vocabulary : Vocabulary) (operators : List String)
    (spelling : String) :
    (vocabulary.registerAll (operators.map .operator)).hasKeyword spelling =
      vocabulary.hasKeyword spelling := by
  have registered := @has_registerAll_iff vocabulary (operators.map .operator) (.keyword spelling)
  rw [Bool.eq_iff_iff]
  simpa [Has] using registered

/-- The kinds of all tokens tell what they are exactly when neither the kind of
numbers nor the kind of identifiers is a keyword, whatever operators are
registered as well. -/
theorem kindsTell_iff_hasKeyword (vocabulary : Vocabulary) (operators : List String) :
    (vocabulary.KindsTell ↔ vocabulary.hasKeyword Token.numberKind = false ∧
      vocabulary.hasKeyword Token.identifierKind = false) ∧
    ((vocabulary.registerAll (operators.map .operator)).KindsTell ↔
      vocabulary.hasKeyword Token.numberKind = false ∧
        vocabulary.hasKeyword Token.identifierKind = false) := by
  have tells_iff (any : Vocabulary) : any.KindsTell ↔
      any.hasKeyword Token.numberKind = false ∧ any.hasKeyword Token.identifierKind = false :=
    ⟨fun tells => ⟨tells.hasKeyword_numberKind, tells.hasKeyword_identifierKind⟩,
      fun free => kindsTell_of_hasKeyword free.1 free.2⟩
  refine ⟨tells_iff vocabulary, ?_⟩
  rw [tells_iff, hasKeyword_registerAll_operators, hasKeyword_registerAll_operators]

/-- Operators that are spelled like the two kinds are never met. -/
example :
    let vocabulary := Vocabulary.empty.registerAll [.operator "i", .operator "id", .operator "num"]
    (Scan.ofSource vocabulary "id num").tokens = [.identifier "id", .identifier "num"] := by
  decide +kernel

end Lexis.Vocabulary
