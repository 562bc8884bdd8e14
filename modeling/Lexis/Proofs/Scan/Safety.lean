import Lexis.Proofs.Scan.Session
import Lexis.Proofs.Text.Action

/-!
# Safe scans

Reading an event is a short list of actions on the place (`Event.actions`), and
asking for the next token is one list after the other, with the blanks skipped
before each (`Scan.actions`).  In a session none of these actions ever goes
wrong: nothing is cut inside a character, there always is a character to take,
and no offset is far past the end (`session_safe`).
-/

namespace Lexis

open Text Text.Place

/-! ## Reading an event -/

namespace Event

/-- The actions that read the event at a place, in their order. -/
def actions (vocabulary : Vocabulary) (place : Place) : List Action :=
  match place.byte? with
  | none => []
  | some byte =>
      if CharClass.digit.contains byte then [.skip .digit, .cut place.offset]
      else if CharClass.letter.contains byte then
        [.skip .letter, .skip .alphanumeric, .cut place.offset]
      else if atOperator vocabulary place then
        [.peek 1, .measure 2, .peek 2,
          .advance (if atOperatorPair vocabulary place then 2 else 1), .cut place.offset]
      else if byte == commentMark then
        [.peek 1, .run commentMark none, .seek commentMark,
          .run commentMark (some ((place.skipRun commentMark none).offset - place.offset))]
      else [.peek 1, .take]

variable {vocabulary : Vocabulary} {place behind : Place} {before rest : List Char} {char : Char}
  {event : Event}

theorem safeRun_cut {piece after : List Char} {first : Nat}
    (splits : place.Splits (before ++ piece) after) (begins : first = byteSize before)
    (notEmpty : piece ≠ []) : SafeRun place [.cut first] place := by
  subst begins
  apply SafeRun.cons (splits.safe_cut notEmpty) ?_ .nil
  rw [Action.perform, splits.textSince?_eq, Option.map_some]

theorem safeRun_number (splits : place.Splits before (char :: rest)) (digit : char.isDigit = true) :
    SafeRun place [.skip .digit, .cut place.offset] (place.skipWhile CharClass.digit.contains) := by
  apply SafeRun.cons (splits.safe_skip .digit) rfl
  apply safeRun_cut (splits.skipWhile decides_digit) splits.offset_eq
  simp [digit]

/-- The letters of a word are skipped before its other characters. -/
theorem safeRun_word (splits : place.Splits before (char :: rest)) (letter : char.isAlpha = true) :
    SafeRun place [.skip .letter, .skip .alphanumeric, .cut place.offset]
      (place.skipWhile CharClass.alphanumeric.contains) := by
  have phases : (place.skipWhile CharClass.letter.contains).skipWhile
      CharClass.alphanumeric.contains = place.skipWhile CharClass.alphanumeric.contains :=
    skipWhile_skipWhile (fun _ => CharClass.alphanumeric_of_letter) place
  have alphanumeric := isAlphanum_of_isAlpha letter
  apply SafeRun.cons (splits.safe_skip .letter) rfl
  apply SafeRun.cons ((splits.skipWhile decides_letter).safe_skip .alphanumeric) rfl
  rw [phases]
  apply safeRun_cut (splits.skipWhile decides_alphanumeric) splits.offset_eq
  simp [alphanumeric]

theorem safeRun_operator (splits : place.Splits before (char :: rest))
    (single : Segment.isOperator vocabulary [char] = true) :
    SafeRun place [.peek 1, .measure 2, .peek 2,
        .advance (if atOperatorPair vocabulary place then 2 else 1), .cut place.offset]
      (place.advance (if atOperatorPair vocabulary place then 2 else 1)) := by
  have width := byteSize_operatorAt vocabulary splits (utf8Size_of_isOperator single)
  have near : byteSize (Segment.operatorAt vocabulary char rest) ≤ 2 := by
    rw [width]
    split <;> decide
  apply SafeRun.cons (splits.safe_peek (by decide)) rfl
  apply SafeRun.cons (splits.safe_measure (by decide)) rfl
  apply SafeRun.cons (splits.safe_peek (by decide)) rfl
  rcases operatorAt_prefix vocabulary char rest with ⟨behind, whole⟩
  rw [← whole] at splits
  have moved := splits.forward
  rw [← splits.advance_eq_forward] at moved
  rw [← width]
  apply SafeRun.cons (splits.safe_advance near) rfl
  apply safeRun_cut moved splits.offset_eq
  intro empty
  rw [empty, byteSize_nil] at width
  split at width <;> contradiction

theorem safeRun_comment (splits : place.Splits before rest) :
    SafeRun place [.peek 1, .run commentMark none, .seek commentMark,
        .run commentMark (some ((place.skipRun commentMark none).offset - place.offset))]
      (readComment place).2 := by
  have opened := splits.skipRun_none mark_ascii
  have bodied := opened.skipTo mark_ascii
  apply SafeRun.cons (splits.safe_peek (by decide)) rfl
  apply SafeRun.cons (splits.safe_run mark_ascii none) rfl
  apply SafeRun.cons (opened.safe_seek mark_ascii) (if_pos opened.proper.1)
  exact .cons (bodied.safe_run mark_ascii _) rfl .nil

theorem safeRun_illegal (splits : place.Splits before (char :: rest)) :
    SafeRun place [.peek 1, .take] (place.forward char.utf8Size) := by
  apply SafeRun.cons (splits.safe_peek (by decide)) rfl
  apply SafeRun.cons splits.safe_take ?_ .nil
  rw [Action.perform, splits.takeChar?_cons, Option.map_some]

/-- Reading the event at a place between characters is safe, whatever it is. -/
theorem safeRun_actions (splits : place.Splits before (char :: rest))
    (met : read? vocabulary place = some (event, behind)) :
    SafeRun place (actions vocabulary place) behind := by
  rcases splits.exists_byte?_eq_some with ⟨byte, found, head⟩
  rw [actions, found]
  rw [read?, found] at met
  dsimp only at met ⊢
  by_cases digit : CharClass.digit.contains byte = true
  · rw [if_pos digit] at met ⊢
    rcases readToken?_eq_some_iff.mp met with ⟨rfl, -⟩
    exact safeRun_number splits (head _ _ decides_digit ▸ digit)
  rw [if_neg digit] at met ⊢
  by_cases letter : CharClass.letter.contains byte = true
  · rw [if_pos letter] at met ⊢
    rcases readToken?_eq_some_iff.mp met with ⟨rfl, -⟩
    exact safeRun_word splits (head _ _ decides_letter ▸ letter)
  rw [if_neg letter] at met ⊢
  by_cases operator : atOperator vocabulary place = true
  · rw [if_pos operator] at met ⊢
    rcases readToken?_eq_some_iff.mp met with ⟨rfl, -⟩
    exact safeRun_operator splits (atOperator_eq splits ▸ operator)
  rw [if_neg operator] at met ⊢
  by_cases marked : (byte == commentMark) = true
  · rw [if_pos marked] at met ⊢
    rcases Prod.mk.inj (Option.some_inj.mp met) with ⟨-, rfl⟩
    exact safeRun_comment splits
  · rw [if_neg marked] at met ⊢
    rw [readIllegal?, splits.takeChar?_cons] at met
    rcases Prod.mk.inj (Option.some_inj.mp met) with ⟨-, rfl⟩
    exact safeRun_illegal splits

end Event

/-! ## Asking for the next token -/

namespace Scan

/-- The actions that lead to the next token, or to the end: each event is read
behind the blanks before it. -/
def actions (scan : Scan) : List Action :=
  .skip .whitespace :: (Event.actions scan.vocabulary scan.behindWhitespace ++
    match _ : Event.read? scan.vocabulary scan.behindWhitespace with
    | none => []
    | some (event, behind) =>
        match event.token? with
        | some _ => []
        | none => actions (scan.record event behind))
termination_by scan.remaining
decreasing_by exact remaining_record_lt ‹_›

variable {vocabulary : Vocabulary} {text : String} {scan : Scan} {event : Event} {behind : Place}

theorem actions_of_read?_eq_none
    (nothing : Event.read? scan.vocabulary scan.behindWhitespace = none) :
    scan.actions =
      .skip .whitespace :: (Event.actions scan.vocabulary scan.behindWhitespace ++ []) := by
  rw [actions]
  split
  next => rfl
  next met =>
      rw [nothing] at met
      contradiction

theorem actions_of_read?_eq_some
    (met : Event.read? scan.vocabulary scan.behindWhitespace = some (event, behind)) :
    scan.actions =
      .skip .whitespace :: (Event.actions scan.vocabulary scan.behindWhitespace ++
        match event.token? with
        | some _ => []
        | none => (scan.record event behind).actions) := by
  rw [actions]
  split
  next nothing =>
      rw [met] at nothing
      contradiction
  next same =>
      rw [met, Option.some_inj, Prod.mk.injEq] at same
      rcases same with ⟨rfl, rfl⟩
      rfl

theorem Sound.safe_blanks (sound : scan.Sound vocabulary text) :
    (Action.skip .whitespace).Safe scan.place ∧
      ∃ before after, scan.behindWhitespace.Splits before after := by
  rcases sound.exists_ahead with ⟨events, before, after, splits, -⟩
  exact ⟨splits.safe_skip .whitespace, _, _, splits.skipWhile decides_whitespace⟩

/-- Reading an event behind the blanks never goes wrong: there is one, or the
source ends. -/
theorem Sound.byte?_eq_none (sound : scan.Sound vocabulary text)
    (nothing : Event.read? scan.vocabulary scan.behindWhitespace = none) :
    scan.behindWhitespace.byte? = none := by
  rcases sound.exists_ahead with ⟨events, ahead⟩
  cases events with
  | nil => exact (behindWhitespace_of_ahead_nil ahead).2
  | cons event later =>
      rcases pass_of_ahead_cons ahead with ⟨behind, passed, -⟩
      rw [pass_of_read?_eq_none nothing] at passed
      simp at passed

theorem Sound.safeRun_event (sound : scan.Sound vocabulary text)
    (met : Event.read? scan.vocabulary scan.behindWhitespace = some (event, behind)) :
    SafeRun scan.behindWhitespace (Event.actions scan.vocabulary scan.behindWhitespace)
      behind := by
  rcases sound.safe_blanks with ⟨-, before, after, splits⟩
  cases after with
  | nil =>
      rw [Event.read?, splits.byte?_eq_none_iff.mpr rfl] at met
      contradiction
  | cons char rest => exact Event.safeRun_actions splits met

/-- Asking for the next token is a safe run of actions. -/
theorem Sound.safeRun_next (sound : scan.Sound vocabulary text) :
    SafeRun scan.place scan.actions scan.next.2.place := by
  fun_induction Scan.next scan with
  | case1 scan nothing =>
      rw [actions_of_read?_eq_none nothing, Event.actions, sound.byte?_eq_none nothing]
      exact .cons sound.safe_blanks.1 rfl .nil
  | case2 scan event behind met token isToken =>
      rw [actions_of_read?_eq_some met, isToken]
      exact .cons sound.safe_blanks.1 rfl ((sound.safeRun_event met).append .nil)
  | case3 scan event behind met notToken inductionHypothesis =>
      have soundBehind := sound.pass
      rw [pass_of_read?_eq_some met] at soundBehind
      rw [actions_of_read?_eq_some met, notToken]
      apply SafeRun.cons sound.safe_blanks.1 rfl
      apply (sound.safeRun_event met).append
      exact inductionHypothesis soundBehind

/-- In every state of a session the scan lies between characters, and the
actions that lead on from there to the next token are all safe: they cut out
whole, nonempty texts, take a character where they need one, stop between
characters only, and compute no offset more than two bytes past the end. -/
theorem session_safe (vocabulary : Vocabulary) (source : String) (calls : List Call) :
    let scan := (Session.run answer (start vocabulary source) calls).2
    scan.source = source ∧ scan.place.Proper ∧
      SafeRun scan.place scan.actions scan.next.2.place := by
  intro scan
  have sound := (sound_start vocabulary source).run calls
  rcases sound.exists_ahead with ⟨events, before, after, splits, -⟩
  exact ⟨sound.source_eq, splits.proper, sound.safeRun_next⟩

end Scan

end Lexis
