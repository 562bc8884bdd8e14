import Lexis.Proofs.Scan.Recasting
import Lexis.Proofs.Scan.Spaced
import Lexis.Proofs.Scan.Summary

/-!
# One more operator

A character that is illegal wherever a scan meets it can be registered as an
operator.  If it begins no pair and opens no comment (`Vocabulary.Spare`), its
warnings become tokens and nothing else changes: the scans of every source stay
in step, event by event (`Summary.ofSource_insertOperator`).
-/

namespace Lexis

open Text Segment

/-! ## Spare characters -/

/-- An ASCII character that a scan can only meet as an illegal one: it begins
neither blanks nor a word nor a number nor a comment, and no operator of one or
two bytes. -/
structure Vocabulary.Spare (vocabulary : Vocabulary) (char : Char) : Prop where
  ascii : char.toNat < 0x80
  plain : Plain char
  ne_mark : char ≠ mark
  unregistered : vocabulary.hasOperator (String.singleton char) = false
  unpaired : ∀ spelling, vocabulary.hasOperator spelling = true → spelling.utf8ByteSize = 2 →
    char ∉ spelling.toList.head?

/-- A segment with the operator in place of the illegal character. -/
def Segment.adopt (char : Char) : Segment → Segment
  | illegal other => if other = char then operator [char] else illegal other
  | segment => segment

theorem Segment.adopt_of_ne {char : Char} {segment : Segment} (other : segment ≠ illegal char) :
    segment.adopt char = segment := by
  cases segment with
  | illegal => exact if_neg (mt (congrArg illegal) other)
  | _ => rfl

/-- An event with the token of the operator in place of the warning. -/
def Event.adopt (char : Char) : Event → Event
  | illegal warning =>
      if warning.character = char then
        token (.symbol (String.singleton char)) (warning.position + 1)
      else illegal warning
  | event => event

namespace Vocabulary

variable {vocabulary : Vocabulary} {char second : Char} {chars spelling : List Char}

theorem isOperator_insertOperator_of_ne (other : chars ≠ spelling) :
    isOperator (vocabulary.insertOperator (String.ofList spelling)) chars =
      isOperator vocabulary chars := by
  have differ : (String.ofList spelling == String.ofList chars) = false := by
    rw [beq_eq_false_iff_ne]
    intro same
    exact other (String.ofList_injective same).symm
  rw [isOperator, isOperator, hasOperator_insertOperator, differ, Bool.false_or]

/-- Operators that begin with other characters stay what they are. -/
theorem agreeAt_insertOperator (other : second ≠ char) :
    AgreeAt vocabulary (vocabulary.insertOperator (String.ofList [char])) second where
  single := (isOperator_insertOperator_of_ne (by simpa using other)).symm
  pair _ _ := (isOperator_insertOperator_of_ne (by simp)).symm

namespace Spare

theorem isOperator_eq_false (spare : vocabulary.Spare char) :
    isOperator vocabulary [char] = false := by
  rw [isOperator, ← String.singleton_eq_ofList, spare.unregistered, Bool.and_false]

theorem isOperator_pair_eq_false (spare : vocabulary.Spare char) (second : Char) :
    isOperator vocabulary [char, second] = false := by
  rw [Bool.eq_false_iff]
  intro pair
  rcases Event.isOperator_eq_true_iff.mp pair with ⟨ascii, registered⟩
  have begins : char ∈ (String.ofList [char, second]).toList.head? := by
    rw [String.toList_ofList]
    rfl
  exact spare.unpaired _ registered (byteSize_of_ascii ascii) begins

theorem isOperator_insertOperator (spare : vocabulary.Spare char) :
    isOperator (vocabulary.insertOperator (String.ofList [char])) [char] = true := by
  rw [Event.isOperator_eq_true_iff, hasOperator_insertOperator, beq_self_eq_true, Bool.true_or]
  exact ⟨List.forall_mem_singleton.mpr spare.ascii, rfl⟩

/-- A spare character begins no segment but the one that is illegal. -/
theorem eq_illegal (spare : vocabulary.Spare char) {segment : Segment} {rest : List Char}
    (begins : Begins vocabulary segment rest) (begun : char ∈ segment.text.head?) :
    segment = illegal char := by
  rcases List.head?_eq_some_iff.mp begun with ⟨behind, text⟩
  have computed := first_eq_of_begins begins (by rw [text, List.cons_append])
  rw [spare.plain.first_eq, spare.isOperator_eq_false, if_neg Bool.false_ne_true,
    if_neg (by simpa using spare.ne_mark)] at computed
  exact computed.symm

/-- What begins a text still does with one more operator; an illegal character
that is registered now is one itself. -/
theorem begins_adopt (spare : vocabulary.Spare char) {segment : Segment} {rest : List Char}
    (begins : Begins vocabulary segment rest) :
    Begins (vocabulary.insertOperator (String.ofList [char])) (segment.adopt char) rest := by
  by_cases spared : segment = illegal char
  · rw [spared, Segment.adopt, if_pos rfl]
    refine .single spare.plain spare.isOperator_insertOperator fun second _ _ _ => ?_
    rw [isOperator_insertOperator_of_ne (by simp)]
    exact spare.isOperator_pair_eq_false second
  · rw [Segment.adopt_of_ne spared]
    refine begins.of_agreeAt fun other begun _ => ?_
    have differ : other ≠ char := by
      rintro rfl
      exact spared (spare.eq_illegal begins begun)
    exact agreeAt_insertOperator differ

theorem recasts (spare : vocabulary.Spare char) :
    Recasts vocabulary (vocabulary.insertOperator (String.singleton char)) (Segment.adopt char)
      (Event.adopt char) where
  text_eq segment := by
    cases segment with
    | illegal other =>
        rw [Segment.adopt]
        split
        next same => rw [same, text, text]
        next => rfl
    | _ => rfl
  begins begins := by
    rw [String.singleton_eq_ofList]
    exact spare.begins_adopt begins
  event?_eq {segment _} _ start := by
    cases segment with
    | illegal other =>
        by_cases same : other = char
        · subst same
          have size : (illegal other).size = 1 :=
            byteSize_of_ascii (List.forall_mem_singleton.mpr spare.ascii)
          rw [Segment.adopt, if_pos rfl, event?, event?, Option.map_some, Event.adopt, if_pos rfl,
            size, String.singleton_eq_ofList]
        · rw [Segment.adopt, if_neg same, event?, event?, Option.map_some, Event.adopt,
            if_neg same]
    | _ => rfl

theorem not_mem_tokens (spare : vocabulary.Spare char) (source : String) :
    .symbol (String.singleton char) ∉ (Scan.ofSource vocabulary source).tokens := by
  intro handed
  rcases (Scan.legal_of_mem_tokens handed).of_symbol with ⟨spells, -⟩ | live
  · rw [String.toList_singleton] at spells
    rcases spells with ⟨letter, -⟩
    rw [spare.plain.notLetter] at letter
    contradiction
  · rw [String.toList_singleton] at live
    have operator := live.isOperator
    rw [spare.isOperator_eq_false] at operator
    contradiction

end Spare

end Vocabulary

/-! ## What is seen of the events -/

namespace Event

variable {char : Char} {events : List Event}

theorem filterMap_warning?_map_adopt (char : Char) (events : List Event) :
    (events.map (adopt char)).filterMap warning? =
      (events.filterMap warning?).filter (·.character ≠ char) := by
  rw [List.filterMap_map, List.filter_filterMap]
  refine congrArg (List.filterMap · events) (funext fun event => ?_)
  cases event with
  | illegal warning =>
      by_cases same : warning.character = char
      · simp [adopt, warning?, Option.filter, same]
      · simp [adopt, warning?, Option.filter, same]
  | _ => rfl

/-- The tokens other than the operator are those that there were before. -/
theorem filter_ended_map_adopt
    (other : ∀ event ∈ events, event.token? ≠ some (.symbol (String.singleton char))) :
    ((events.map (adopt char)).filterMap ended?).filter
        (·.1 ≠ .symbol (String.singleton char)) =
      events.filterMap ended? := by
  rw [List.filterMap_map, List.filter_filterMap]
  apply List.filterMap_congr
  intro event met
  cases event with
  | token found stop =>
      have differ : found ≠ .symbol (String.singleton char) := fun same =>
        other _ met (congrArg some same)
      simp [adopt, ended?, differ]
  | comment => rfl
  | illegal warning =>
      by_cases same : warning.character = char
      · simp [adopt, ended?, same]
      · simp [adopt, ended?, same]

/-- The tokens of the operator end behind the characters that were illegal. -/
theorem map_snd_filter_ended_map_adopt
    (other : ∀ event ∈ events, event.token? ≠ some (.symbol (String.singleton char))) :
    (((events.map (adopt char)).filterMap ended?).filter
        (·.1 = .symbol (String.singleton char))).map Prod.snd =
      ((events.filterMap warning?).filter (·.character = char)).map (·.position + 1) := by
  rw [List.filterMap_map, List.filter_filterMap, List.filter_filterMap, List.map_filterMap,
    List.map_filterMap]
  apply List.filterMap_congr
  intro event met
  cases event with
  | token found stop =>
      have differ : found ≠ .symbol (String.singleton char) := fun same =>
        other _ met (congrArg some same)
      simp [adopt, ended?, warning?, differ]
  | comment => rfl
  | illegal warning =>
      by_cases same : warning.character = char
      · simp [adopt, ended?, warning?, Option.filter, same]
      · simp [adopt, ended?, warning?, Option.filter, same]

end Event

namespace Summary

/-- A spare character that is registered as an operator turns its own warnings
into tokens and changes nothing else.  The other warnings stay, the tokens other
than those of the operator stay with the offsets behind them, and the tokens of
the operator end one byte behind where the warnings were, in the same order.
The scans stay in step, event by event. -/
theorem ofSource_insertOperator (vocabulary : Vocabulary) (char : Char) (source : String)
    (spare : vocabulary.Spare char) :
    let spelling := String.singleton char
    let before := ofSource vocabulary source
    let after := ofSource (vocabulary.insertOperator spelling) source
    after.warnings = before.warnings.filter (·.character ≠ char) ∧
    after.ended.filter (·.1 ≠ .symbol spelling) = before.ended ∧
    (after.ended.filter (·.1 = .symbol spelling)).map Prod.snd =
      (before.warnings.filter (·.character = char)).map (·.position + 1) ∧
    (Scan.ofSource (vocabulary.insertOperator spelling) source).journal.toList =
      (Scan.ofSource vocabulary source).journal.toList.map (Event.adopt char) := by
  intro spelling before after
  have journal := spare.recasts.toList_journal_eq source
  have other : ∀ event ∈ (Scan.ofSource vocabulary source).journal.toList,
      event.token? ≠ some (.symbol (String.singleton char)) := by
    intro event met isToken
    exact spare.not_mem_tokens source (List.mem_filterMap.mpr ⟨event, met, isToken⟩)
  refine ⟨?_, ?_, ?_, journal⟩
  · simp only [after, before, spelling, ofSource, Scan.warnings, journal]
    exact Event.filterMap_warning?_map_adopt char _
  · simp only [after, before, spelling, ofSource, journal]
    exact Event.filter_ended_map_adopt other
  · simp only [after, before, spelling, ofSource, Scan.warnings, journal]
    exact Event.map_snd_filter_ended_map_adopt other

/-- The second character of a pair and the body of a comment are not read as the
new operator, but the last character of the source is, where the pair before it
is cut apart. -/
theorem ofSource_insertOperator_mark :
    let vocabulary := Vocabulary.arithmetic.registerAll [.operator "<", .operator "<?"]
    let after := ofSource (vocabulary.insertOperator "?") "1?<?é#?#<?"
    vocabulary.Spare '?' ∧
      after.warnings = [⟨4, 'é'⟩] ∧
      after.ended.filter (·.1 ≠ .symbol "?") =
        [(.number "1", 1), (.symbol "<?", 4), (.symbol "<", 10)] ∧
      (after.ended.filter (·.1 = .symbol "?")).map Prod.snd = [2, 11] := by
  intro vocabulary after
  have unpaired : ∀ spelling, vocabulary.hasOperator spelling = true →
      spelling.utf8ByteSize = 2 → '?' ∉ spelling.toList.head? := by
    intro spelling registered size
    rcases (Vocabulary.has_registerAll_iff _ (.operator spelling)).mp registered with
      entered | before
    · have spelled : spelling = "<" ∨ spelling = "<?" := by simpa using entered
      rcases spelled with rfl | rfl
      · decide
      · decide
    · exact absurd size (Vocabulary.unpaired_arithmetic spelling before)
  have spare : vocabulary.Spare '?' :=
    ⟨by decide, ⟨by decide, by decide, by decide⟩, by decide, by decide +kernel, unpaired⟩
  rcases ofSource_insertOperator vocabulary '?' "1?<?é#?#<?" spare with
    ⟨warnings, tokens, stops, -⟩
  refine ⟨spare, warnings.trans ?_, tokens.trans ?_, stops.trans ?_⟩
  · decide +kernel
  · decide +kernel
  · decide +kernel

end Summary

end Lexis
