import Std.Data.TreeSet
import Lexis.Token

/-!
# Vocabularies

A vocabulary holds the spellings that are keywords and operators in a source.
Any text may be registered, whether or not a scan can ever meet it.
-/

namespace Lexis

/-- The registered keywords and operators. -/
structure Vocabulary where
  keywords : Std.TreeSet String
  operators : Std.TreeSet String

namespace Vocabulary

/-- The vocabulary in which nothing is registered. -/
def empty : Vocabulary :=
  ⟨∅, ∅⟩

/-- The vocabulary of plain arithmetic: eight operators and no keyword. -/
def arithmetic : Vocabulary :=
  ⟨∅, Std.TreeSet.ofList ["=", "+", "-", "*", "/", "(", ")", ";"]⟩

/-- Whether a spelling is a registered keyword. -/
def hasKeyword (vocabulary : Vocabulary) (spelling : String) : Bool :=
  vocabulary.keywords.contains spelling

/-- Whether a spelling is a registered operator. -/
def hasOperator (vocabulary : Vocabulary) (spelling : String) : Bool :=
  vocabulary.operators.contains spelling

/-- Put a spelling to some others, and say whether it is a new one. -/
def addSpelling (spellings : Std.TreeSet String) (spelling : String) :
    Bool × Std.TreeSet String :=
  let (known, more) := spellings.containsThenInsert spelling
  (!known, more)

/-- Register a keyword, and say whether it is a new one. -/
def addKeyword (vocabulary : Vocabulary) (spelling : String) : Bool × Vocabulary :=
  let (isNew, keywords) := addSpelling vocabulary.keywords spelling
  (isNew, { vocabulary with keywords })

/-- Register an operator, and say whether it is a new one. -/
def addOperator (vocabulary : Vocabulary) (spelling : String) : Bool × Vocabulary :=
  let (isNew, operators) := addSpelling vocabulary.operators spelling
  (isNew, { vocabulary with operators })

/-- Register a keyword. -/
def insertKeyword (vocabulary : Vocabulary) (spelling : String) : Vocabulary :=
  (vocabulary.addKeyword spelling).2

/-- Register an operator. -/
def insertOperator (vocabulary : Vocabulary) (spelling : String) : Vocabulary :=
  (vocabulary.addOperator spelling).2

/-- The token of a whole word: a keyword if it is registered as one. -/
def word (vocabulary : Vocabulary) (lexeme : String) : Token :=
  if vocabulary.hasKeyword lexeme then .symbol lexeme else .identifier lexeme

/-- Two vocabularies are the same when they register the same keywords and the
same operators, in whatever order they came to do so. -/
instance : BEq Vocabulary where
  beq left right :=
    left.keywords.toList == right.keywords.toList &&
      left.operators.toList == right.operators.toList

theorem word_eq_ite (vocabulary : Vocabulary) (lexeme : String) :
    vocabulary.word lexeme =
      if vocabulary.hasKeyword lexeme then .symbol lexeme else .identifier lexeme :=
  rfl

/-! ## What is registered after an insertion -/

theorem addSpelling_fst (spellings : Std.TreeSet String) (spelling : String) :
    (addSpelling spellings spelling).1 = !spellings.contains spelling :=
  congrArg not Std.TreeSet.containsThenInsert_fst

theorem contains_addSpelling_snd (spellings : Std.TreeSet String) (spelling other : String) :
    (addSpelling spellings spelling).2.contains other =
      (spelling == other || spellings.contains other) := by
  rw [addSpelling, Std.TreeSet.containsThenInsert_snd, Std.TreeSet.contains_insert,
    Std.compare_beq_eq_beq]

theorem addKeyword_fst (vocabulary : Vocabulary) (spelling : String) :
    (vocabulary.addKeyword spelling).1 = !vocabulary.hasKeyword spelling :=
  addSpelling_fst vocabulary.keywords spelling

theorem addOperator_fst (vocabulary : Vocabulary) (spelling : String) :
    (vocabulary.addOperator spelling).1 = !vocabulary.hasOperator spelling :=
  addSpelling_fst vocabulary.operators spelling

@[simp]
theorem hasKeyword_insertKeyword (vocabulary : Vocabulary) (spelling other : String) :
    (vocabulary.insertKeyword spelling).hasKeyword other =
      (spelling == other || vocabulary.hasKeyword other) :=
  contains_addSpelling_snd vocabulary.keywords spelling other

@[simp]
theorem hasOperator_insertOperator (vocabulary : Vocabulary) (spelling other : String) :
    (vocabulary.insertOperator spelling).hasOperator other =
      (spelling == other || vocabulary.hasOperator other) :=
  contains_addSpelling_snd vocabulary.operators spelling other

@[simp]
theorem hasOperator_insertKeyword (vocabulary : Vocabulary) (spelling : String) :
    (vocabulary.insertKeyword spelling).hasOperator = vocabulary.hasOperator :=
  rfl

@[simp]
theorem hasKeyword_insertOperator (vocabulary : Vocabulary) (spelling : String) :
    (vocabulary.insertOperator spelling).hasKeyword = vocabulary.hasKeyword :=
  rfl

end Vocabulary

end Lexis
