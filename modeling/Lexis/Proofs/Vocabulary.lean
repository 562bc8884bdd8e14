import Lexis.Proofs.Event.Reading
import Lexis.Proofs.Segmentation
import Lexis.Proofs.Session

/-!
# What a vocabulary can be asked

A scan looks up few of the spellings that a vocabulary may hold: words, plain
ASCII characters, and pairs of ASCII characters whose first one is an operator
alone.  A registered spelling that can be met is *live* (`LiveKeyword`,
`LiveOperator`); all other ones are dead, and may be registered or not.
-/

namespace Lexis.Vocabulary

open Text Segment

/-! ## Restrictions on operators -/

/-- No registered operator contains one of some characters. -/
def OperatorsAvoid (vocabulary : Vocabulary) (avoided : Char → Bool) : Prop :=
  ∀ spelling, vocabulary.hasOperator spelling = true →
    ∀ char ∈ spelling.toList, avoided char = false

/-- No registered operator is two bytes long. -/
def Unpaired (vocabulary : Vocabulary) : Prop :=
  ∀ spelling, vocabulary.hasOperator spelling = true → spelling.utf8ByteSize ≠ 2

variable {vocabulary : Vocabulary} {char second : Char} {chars : List Char}

theorem OperatorsAvoid.isOperator_eq_false {avoided : Char → Bool}
    (avoid : vocabulary.OperatorsAvoid avoided) (found : char ∈ chars)
    (isAvoided : avoided char = true) : isOperator vocabulary chars = false := by
  rw [Bool.eq_false_iff]
  intro operator
  have registered := (Event.isOperator_eq_true_iff.mp operator).2
  have spared := avoid _ registered char (by rwa [String.toList_ofList])
  rw [isAvoided] at spared
  contradiction

theorem Unpaired.isOperator_pair (unpaired : vocabulary.Unpaired) (char second : Char) :
    isOperator vocabulary [char, second] = false := by
  rw [Bool.eq_false_iff]
  intro operator
  rcases Event.isOperator_eq_true_iff.mp operator with ⟨ascii, registered⟩
  exact unpaired _ registered (byteSize_of_ascii ascii)

theorem hasOperator_arithmetic (spelling : String) :
    arithmetic.hasOperator spelling =
      ["=", "+", "-", "*", "/", "(", ")", ";"].contains spelling := by
  rw [hasOperator, arithmetic, Std.TreeSet.contains_ofList]

theorem unpaired_arithmetic : arithmetic.Unpaired := by
  intro spelling registered
  rw [hasOperator_arithmetic, List.contains_iff_mem] at registered
  revert spelling
  decide

theorem operatorsAvoid_of_all {avoided : Char → Bool} {spellings : List String}
    (only : ∀ spelling, vocabulary.hasOperator spelling = true → spelling ∈ spellings)
    (all : (spellings.all fun spelling => spelling.toList.all fun char => !avoided char) = true) :
    vocabulary.OperatorsAvoid avoided := by
  intro spelling registered char found
  have here := List.all_eq_true.mp all spelling (only spelling registered)
  simpa using List.all_eq_true.mp here char found

theorem operatorsAvoid_arithmetic {avoided : Char → Bool}
    (spared : (["=", "+", "-", "*", "/", "(", ")", ";"].all fun spelling =>
      spelling.toList.all fun char => !avoided char) = true) :
    arithmetic.OperatorsAvoid avoided := by
  have only : ∀ spelling, arithmetic.hasOperator spelling = true →
      spelling ∈ ["=", "+", "-", "*", "/", "(", ")", ";"] := by
    intro spelling registered
    rwa [hasOperator_arithmetic, List.contains_iff_mem] at registered
  exact operatorsAvoid_of_all only spared

theorem operatorsAvoid_mark_arithmetic : arithmetic.OperatorsAvoid (· == mark) :=
  operatorsAvoid_arithmetic (by decide)

theorem operatorsAvoid_newline_arithmetic : arithmetic.OperatorsAvoid (· == '\n') :=
  operatorsAvoid_arithmetic (by decide)

/-! ## Live entries -/

/-- Characters that spell a word: a letter, and letters and digits behind it. -/
inductive SpellsWord : List Char → Prop
  | intro {letter : Char} {others : List Char} :
      letter.isAlpha = true → (∀ char ∈ others, char.isAlphanum = true) →
      SpellsWord (letter :: others)

theorem SpellsWord.isAlphanum (spells : SpellsWord chars) (found : char ∈ chars) :
    char.isAlphanum = true := by
  rcases spells with ⟨letter, others⟩
  rcases List.mem_cons.mp found with rfl | later
  · exact isAlphanum_of_isAlpha letter
  · exact others char later

theorem spellsWord_numberKind : SpellsWord Token.numberKind.toList :=
  @SpellsWord.intro 'n' ['u', 'm'] (by decide) (List.all_eq_true.mp rfl)

theorem spellsWord_identifierKind : SpellsWord Token.identifierKind.toList :=
  @SpellsWord.intro 'i' ['d'] (by decide) (List.all_eq_true.mp rfl)

/-- A registered keyword that a scan can meet and that differs from the
identifier of the same spelling. -/
structure LiveKeyword (vocabulary : Vocabulary) (spelling : String) : Prop where
  registered : vocabulary.hasKeyword spelling = true
  spellsWord : SpellsWord spelling.toList
  ne_identifierKind : spelling ≠ Token.identifierKind

/-- The spelling of a registered operator that a scan can meet: a plain ASCII
character, or a pair of ASCII characters whose first one is live alone. -/
inductive LiveOperator (vocabulary : Vocabulary) : List Char → Prop
  | single {char : Char} :
      Plain char → isOperator vocabulary [char] = true → LiveOperator vocabulary [char]
  | pair {char second : Char} :
      LiveOperator vocabulary [char] → isOperator vocabulary [char, second] = true →
      LiveOperator vocabulary [char, second]

theorem liveOperator_single_iff (plain : Plain char) :
    LiveOperator vocabulary [char] ↔ isOperator vocabulary [char] = true := by
  constructor
  · rintro ⟨⟩
    assumption
  · exact .single plain

theorem liveOperator_pair_iff :
    LiveOperator vocabulary [char, second] ↔
      LiveOperator vocabulary [char] ∧ isOperator vocabulary [char, second] = true := by
  constructor
  · rintro (_ | ⟨single, pair⟩)
    exact ⟨single, pair⟩
  · exact fun ⟨single, pair⟩ => .pair single pair

theorem LiveOperator.isOperator (live : LiveOperator vocabulary chars) :
    isOperator vocabulary chars = true := by
  cases live with
  | single _ operator => exact operator
  | pair _ operator => exact operator

theorem LiveOperator.not_spellsWord (live : LiveOperator vocabulary chars) :
    ¬ SpellsWord chars := by
  rintro ⟨letter, -⟩
  cases live with
  | single plain => simp [plain.notLetter] at letter
  | pair single =>
      rcases single with ⟨plain, -⟩
      simp [plain.notLetter] at letter

/-! ## Registering -/

/-- Something that can be registered. -/
inductive Entry where
  | keyword (spelling : String)
  | operator (spelling : String)

/-- The spelling of an entry. -/
def Entry.spelling : Entry → String
  | keyword spelling => spelling
  | operator spelling => spelling

/-- Register a keyword or an operator. -/
def register (vocabulary : Vocabulary) : Entry → Vocabulary
  | .keyword spelling => vocabulary.insertKeyword spelling
  | .operator spelling => vocabulary.insertOperator spelling

/-- Register a keyword or an operator, and say whether it is a new one. -/
def add (vocabulary : Vocabulary) : Entry → Bool × Vocabulary
  | .keyword spelling => vocabulary.addKeyword spelling
  | .operator spelling => vocabulary.addOperator spelling

/-- Register several entries, one after the other. -/
def registerAll (vocabulary : Vocabulary) (entries : List Entry) : Vocabulary :=
  entries.foldl register vocabulary

/-- Whether an entry is registered. -/
def Has (vocabulary : Vocabulary) : Entry → Prop
  | .keyword spelling => vocabulary.hasKeyword spelling = true
  | .operator spelling => vocabulary.hasOperator spelling = true

/-- Whether an entry is registered and live. -/
def Live (vocabulary : Vocabulary) : Entry → Prop
  | .keyword spelling => vocabulary.LiveKeyword spelling
  | .operator spelling => vocabulary.LiveOperator spelling.toList

theorem has_register_iff (entry other : Entry) :
    (vocabulary.register entry).Has other ↔ other = entry ∨ vocabulary.Has other := by
  cases entry with
  | keyword spelling =>
      cases other with
      | keyword asked =>
          simp only [register, Has, hasKeyword_insertKeyword, Bool.or_eq_true, beq_iff_eq,
            Entry.keyword.injEq, eq_comm (a := asked)]
      | operator asked => simp [register, Has]
  | operator spelling =>
      cases other with
      | keyword asked => simp [register, Has]
      | operator asked =>
          simp only [register, Has, hasOperator_insertOperator, Bool.or_eq_true, beq_iff_eq,
            Entry.operator.injEq, eq_comm (a := asked)]

/-- What is registered was there before or is one of the entries. -/
theorem has_registerAll_iff (entries : List Entry) (other : Entry) :
    (vocabulary.registerAll entries).Has other ↔ other ∈ entries ∨ vocabulary.Has other := by
  induction entries generalizing vocabulary with
  | nil => simp [registerAll]
  | cons entry later inductionHypothesis =>
      have registered : ((vocabulary.register entry).registerAll later).Has other ↔
          other ∈ later ∨ other = entry ∨ vocabulary.Has other := by
        rw [inductionHypothesis, has_register_iff]
      rw [registerAll, List.foldl_cons, ← registerAll, registered, List.mem_cons]
      tauto

theorem add_snd (vocabulary : Vocabulary) (entry : Entry) :
    (vocabulary.add entry).2 = vocabulary.register entry := by
  cases entry with
  | keyword spelling => rfl
  | operator spelling => rfl

theorem add_fst_iff {entry : Entry} :
    (vocabulary.add entry).1 = true ↔ ¬ vocabulary.Has entry := by
  cases entry with
  | keyword spelling => rw [add, addKeyword_fst, Has, Bool.not_eq_true, Bool.not_eq_true']
  | operator spelling => rw [add, addOperator_fst, Has, Bool.not_eq_true, Bool.not_eq_true']

theorem run_add_snd (entries : List Entry) :
    (Session.run add vocabulary entries).2 = vocabulary.registerAll entries := by
  induction entries generalizing vocabulary with
  | nil => rfl
  | cons entry later inductionHypothesis =>
      rw [registerAll, List.foldl_cons, ← registerAll, ← add_snd]
      exact inductionHypothesis

/-- One after the other, the entries that are new are those that were not there
before and have not been registered since. -/
theorem run_add_fst_iff {entries : List Entry} {entry : Entry} {index : Nat}
    (found : entries[index]? = some entry) :
    (Session.run add vocabulary entries).1[index]? = some true ↔
      entry ∉ entries.take index ∧ ¬ vocabulary.Has entry := by
  rw [Session.getElem?_run, found, Option.map_some, Option.some_inj, add_fst_iff, run_add_snd,
    has_registerAll_iff, not_or]

/-- Characters stay avoided when the registered operators avoid them as well. -/
theorem OperatorsAvoid.registerAll {avoided : Char → Bool} {entries : List Entry}
    (avoid : vocabulary.OperatorsAvoid avoided)
    (spared : ∀ spelling, .operator spelling ∈ entries →
      ∀ char ∈ spelling.toList, avoided char = false) :
    (vocabulary.registerAll entries).OperatorsAvoid avoided := by
  intro spelling registered
  rcases (has_registerAll_iff entries (.operator spelling)).mp registered with entered | before
  · exact spared spelling entered
  · exact avoid spelling before

theorem Live.has {entry : Entry} (live : vocabulary.Live entry) : vocabulary.Has entry := by
  cases entry with
  | keyword spelling => exact live.registered
  | operator spelling =>
      have registered := (Event.isOperator_eq_true_iff.mp (LiveOperator.isOperator live)).2
      rwa [String.ofList_toList] at registered

/-- Live entries are kept where every live entry stays registered. -/
theorem Live.of_has {other : Vocabulary} (kept : ∀ entry, vocabulary.Live entry → other.Has entry)
    {entry : Entry} (live : vocabulary.Live entry) : other.Live entry := by
  have stays : ∀ spelling, LiveOperator vocabulary spelling →
      isOperator vocabulary spelling = true → isOperator other spelling = true := by
    intro spelling live operator
    rw [Event.isOperator_eq_true_iff] at operator ⊢
    refine ⟨operator.1, kept (.operator (String.ofList spelling)) ?_⟩
    rwa [Live, String.toList_ofList]
  cases entry with
  | keyword spelling => exact ⟨kept _ live, live.spellsWord, live.ne_identifierKind⟩
  | operator spelling =>
      rw [Live] at live ⊢
      generalize spelling.toList = chars at live
      induction live with
      | single plain operator => exact .single plain (stays _ (.single plain operator) operator)
      | pair single operator inductionHypothesis =>
          exact .pair inductionHypothesis (stays _ (.pair single operator) operator)

end Lexis.Vocabulary
