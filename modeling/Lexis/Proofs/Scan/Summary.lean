import Lexis.Proofs.Scan.Session
import Lexis.Proofs.Scan.Whole

/-!
# What a session sees

Scanning a source in one go gives its tokens with the offsets behind them and
its warnings (`Summary`).  A session on the same source can ask in any order,
and yet it sees nothing else: every reply is read off the summary once it is
known by how many tokens the session has moved on (`session_start`).
-/

namespace Lexis

open Scan (Call Reply)

/-- The result of scanning a source in one go. -/
structure Summary where
  source : String
  /-- The tokens, each with the offset behind it. -/
  ended : List (Token × Nat)
  warnings : List Warning

namespace Summary

/-- The summary of a finished scan. -/
def ofSource (vocabulary : Vocabulary) (source : String) : Summary where
  source := source
  ended := (Scan.ofSource vocabulary source).journal.toList.filterMap Event.ended?
  warnings := (Scan.ofSource vocabulary source).warnings

theorem map_fst_ended (vocabulary : Vocabulary) (source : String) :
    (ofSource vocabulary source).ended.map Prod.fst =
      (Scan.ofSource vocabulary source).tokens :=
  Event.map_fst_filterMap_ended? _

/-! ## After so many moves -/

/-- The current token after a number of moves: none before the first, and the
last one for good. -/
def current? (whole : Summary) (count : Nat) : Option Token :=
  if count = 0 then none
  else whole.ended[min count whole.ended.length - 1]?.map Prod.fst

/-- The offset that is reached after a number of moves. -/
def position (whole : Summary) : Nat → Nat
  | 0 => 0
  | count + 1 => whole.ended[count]?.elim whole.source.utf8ByteSize Prod.snd

/-- The warnings that are known after a number of moves. -/
def known (whole : Summary) : Nat → List Warning
  | 0 => []
  | count + 1 =>
      match whole.ended[count]? with
      | some (_, stop) => whole.warnings.filter (·.position < stop)
      | none => whole.warnings

/-- The reply to a call after a number of moves, and the number of moves after
the call. -/
def answer (whole : Summary) (count : Nat) : Call → Reply × Nat
  | .next => (.advanced (count < whole.ended.length), count + 1)
  | .expect expected =>
      match whole.current? count with
      | none => (.expected (.error (.missing (whole.position count))), count)
      | some found =>
          if found = expected then (.expected (.ok ()), count + 1)
          else (.expected (.error (.unexpected (whole.position count) expected found)), count)
  | .current =>
      match whole.current? count with
      | none => (.current (.error (.missing (whole.position count))), count)
      | some found => (.current (.ok found), count)
  | .position => (.position (whole.position count), count)
  | .atEnd => (.atEnd (whole.source.utf8ByteSize ≤ whole.position count), count)
  | .source => (.source whole.source, count)
  | .warnings => (.warnings (whole.known count), count)
  | .draw => (.drawn (whole.ended[count]?.map Prod.fst), count + 1)

/-- The next token becomes the current one, if there is a next one. -/
theorem current?_succ (whole : Summary) (count : Nat) :
    whole.current? (count + 1) =
      (whole.ended[count]?.map Prod.fst <|> whole.current? count) := by
  rw [current?, if_neg (Nat.succ_ne_zero count)]
  by_cases inside : count < whole.ended.length
  · have index : min (count + 1) whole.ended.length - 1 = count := by omega
    rw [index, List.getElem?_eq_getElem inside]
    rfl
  · rw [List.getElem?_eq_none (by omega : whole.ended.length ≤ count), Option.map_none]
    change _ = whole.current? count
    rw [current?]
    by_cases fresh : count = 0
    · rw [if_pos fresh, List.getElem?_eq_none (by omega), Option.map_none]
    · have index : min (count + 1) whole.ended.length = min count whole.ended.length := by omega
      rw [if_neg fresh, index]

theorem answer_snd (whole : Summary) (count : Nat) (call : Call) :
    (whole.answer count call).2 = count + if (whole.answer count call).1.moves then 1 else 0 := by
  cases call with
  | expect expected =>
      rw [answer]
      split
      · rfl
      split <;> rfl
  | current =>
      rw [answer]
      split <;> rfl
  | _ => rfl

/-- The number of moves goes up with every reply that follows a move. -/
theorem run_snd (whole : Summary) (count : Nat) (calls : List Call) :
    (Session.run whole.answer count calls).2 =
      count + (Session.run whole.answer count calls).1.countP Reply.moves := by
  induction calls generalizing count with
  | nil => rfl
  | cons call later inductionHypothesis =>
      rw [Session.run, inductionHypothesis, List.countP_cons, answer_snd]
      omega

end Summary

namespace Scan

/-! ## One token further -/

variable {vocabulary : Vocabulary} {text : String} {scan : Scan}

theorem next_fst (scan : Scan) : scan.next.1 = scan.handed.head?.map Prod.fst := by
  rcases found : scan.next with ⟨_ | token, after⟩
  · rw [handed_of_next_none found]
    rfl
  · rw [handed_of_next_some found]
    rfl

/-- When there is no next token, the scan is finished and stays so. -/
theorem Sound.next_of_none (sound : scan.Sound vocabulary text) (ended : scan.next.1 = none) :
    scan.next.2 = scan.finish ∧ scan.finish.next = (none, scan.finish) := by
  rcases sound.exists_ahead with ⟨events, ahead⟩
  exact ⟨(finish_of_next_none (Prod.ext ended rfl)).symm, next_finish ahead⟩

theorem Sound.handed_next (sound : scan.Sound vocabulary text) :
    scan.next.2.handed = scan.handed.tail := by
  cases found : scan.next.1 with
  | none =>
      rcases sound.next_of_none found with ⟨finished, stays⟩
      rw [finished, handed_of_next_none stays, handed_of_next_none (Prod.ext found rfl),
        List.tail_nil]
  | some token => rw [handed_of_next_some (Prod.ext found rfl), List.tail_cons]

theorem Sound.finish_next (sound : scan.Sound vocabulary text) :
    scan.next.2.finish = scan.finish := by
  cases found : scan.next.1 with
  | none =>
      rcases sound.next_of_none found with ⟨finished, stays⟩
      rw [finished, finish_of_next_none stays]
  | some token => rw [finish_of_next_some (Prod.ext found rfl)]

theorem Sound.position_next (sound : scan.Sound vocabulary text) :
    scan.next.2.position = scan.handed.head?.elim text.utf8ByteSize Prod.snd := by
  cases found : scan.next.1 with
  | none =>
      rcases sound.exists_ahead with ⟨events, ahead⟩
      rw [(sound.next_of_none found).1, handed_of_next_none (Prod.ext found rfl),
        finish_of_ahead ahead, ← sound.source_eq]
      rfl
  | some token =>
      rw [handed_of_next_some (Prod.ext found rfl)]
      rfl

theorem position_le_of_ahead {events : List Event} (ahead : scan.Ahead events) :
    ∀ warning ∈ events.filterMap Event.warning?, scan.position ≤ warning.position := by
  induction events generalizing scan with
  | nil =>
      intro warning found
      contradiction
  | cons event later inductionHypothesis =>
      rcases pass_of_ahead_cons ahead with ⟨behind, passed, aheadLater, -, within⟩
      intro warning found
      rw [← List.singleton_append, List.filterMap_append, List.mem_append] at found
      rcases found with here | further
      · rcases List.mem_filterMap.mp here with ⟨illegal, only, isWarning⟩
        obtain rfl := List.mem_singleton.mp only
        cases illegal with
        | illegal met =>
            obtain rfl := Option.some_inj.mp isWarning
            exact within.1
        | _ => contradiction
      · exact Nat.le_trans (Nat.le_of_lt (position_lt_of_pass passed))
          (inductionHypothesis aheadLater warning further)

/-- The warnings of a scan are those of the finished scan that lie behind it. -/
theorem Sound.warnings_eq (sound : scan.Sound vocabulary text) :
    scan.warnings = scan.finish.warnings.filter (·.position < scan.position) := by
  rcases sound.exists_ahead with ⟨events, ahead⟩
  have whole : scan.finish.warnings = scan.warnings ++ events.filterMap Event.warning? := by
    rw [finish_of_ahead ahead, warnings, warnings, Array.toList_appendList, List.filterMap_append]
  have behind : scan.warnings.filter (·.position < scan.position) = scan.warnings := by
    rw [List.filter_eq_self]
    intro warning found
    exact decide_eq_true (sound.warnings_lt warning found)
  have ahead : (events.filterMap Event.warning?).filter (·.position < scan.position) = [] := by
    rw [List.filter_eq_nil_iff]
    intro warning found
    rw [decide_eq_true_iff, Nat.not_lt]
    exact position_le_of_ahead ahead warning found
  rw [whole, List.filter_append, behind, ahead, List.append_nil]

/-! ## Many tokens further -/

/-- The scan of a source moved on a number of times. -/
def advanced (vocabulary : Vocabulary) (source : String) : Nat → Scan
  | 0 => start vocabulary source
  | count + 1 => (advanced vocabulary source count).next.2

theorem sound_advanced (vocabulary : Vocabulary) (source : String) (count : Nat) :
    (advanced vocabulary source count).Sound vocabulary source := by
  induction count with
  | zero => exact sound_start vocabulary source
  | succ count inductionHypothesis => exact inductionHypothesis.next

/-- Every move takes one token off those of the whole source. -/
theorem handed_advanced (vocabulary : Vocabulary) (source : String) (count : Nat) :
    (advanced vocabulary source count).handed =
      (Summary.ofSource vocabulary source).ended.drop count := by
  induction count with
  | zero =>
      have ahead := ahead_start vocabulary source
      rw [advanced, handed_of_ahead ahead, List.drop_zero, Summary.ofSource, ofSource,
        finish_of_ahead ahead, Array.toList_appendList]
      rfl
  | succ count inductionHypothesis =>
      rw [advanced, (sound_advanced vocabulary source count).handed_next,
        inductionHypothesis, List.tail_drop]

theorem finish_advanced (vocabulary : Vocabulary) (source : String) (count : Nat) :
    (advanced vocabulary source count).finish = ofSource vocabulary source := by
  induction count with
  | zero => rfl
  | succ count inductionHypothesis =>
      rw [advanced, (sound_advanced vocabulary source count).finish_next,
        inductionHypothesis]

theorem next_advanced (vocabulary : Vocabulary) (source : String) (count : Nat) :
    (advanced vocabulary source count).next.1 =
      (Summary.ofSource vocabulary source).ended[count]?.map Prod.fst := by
  rw [next_fst, handed_advanced, List.head?_drop]

theorem current?_advanced (vocabulary : Vocabulary) (source : String) (count : Nat) :
    (advanced vocabulary source count).current? =
      (Summary.ofSource vocabulary source).current? count := by
  induction count with
  | zero => rfl
  | succ count inductionHypothesis =>
      rw [advanced, current?_next, next_advanced, inductionHypothesis,
        Summary.current?_succ]

theorem position_advanced (vocabulary : Vocabulary) (source : String) (count : Nat) :
    (advanced vocabulary source count).position =
      (Summary.ofSource vocabulary source).position count := by
  cases count with
  | zero => rfl
  | succ count =>
      rw [advanced, (sound_advanced vocabulary source count).position_next,
        handed_advanced, List.head?_drop]
      rfl

theorem warnings_advanced (vocabulary : Vocabulary) (source : String) (count : Nat) :
    (advanced vocabulary source count).warnings =
      (Summary.ofSource vocabulary source).known count := by
  have behind := (sound_advanced vocabulary source count).warnings_eq
  rw [finish_advanced, position_advanced] at behind
  cases count with
  | zero => rfl
  | succ count =>
      cases found : (Summary.ofSource vocabulary source).ended[count]? with
      | some ended =>
          rw [behind, Summary.known, Summary.position, found]
          rfl
      | none =>
          have sound := sound_advanced vocabulary source count
          have last : (advanced vocabulary source count).next.1 = none := by
            rw [next_advanced, found, Option.map_none]
          rw [Summary.known, found, advanced, (sound.next_of_none last).1, finish_advanced]
          rfl

/-! ## What has been met -/

/-- Moving on hands out the tokens of the source, one after the other. -/
theorem next_fst_advanced (vocabulary : Vocabulary) (source : String) (count : Nat) :
    (advanced vocabulary source count).next.1 = (ofSource vocabulary source).tokens[count]? := by
  rw [next_advanced, ← List.getElem?_map, Summary.map_fst_ended]

theorem next_advanced_of_getElem? {index : Nat} {token : Token}
    (found : (ofSource vocabulary text).tokens[index]? = some token) :
    (advanced vocabulary text index).next = (some token, advanced vocabulary text (index + 1)) :=
  Prod.ext ((next_fst_advanced vocabulary text index).trans found) rfl

/-- What a scan has met and what it will meet are the events of the source. -/
theorem exists_ahead_advanced (vocabulary : Vocabulary) (source : String) (count : Nat) :
    ∃ events, (advanced vocabulary source count).Ahead events ∧
      (ofSource vocabulary source).journal =
        (advanced vocabulary source count).journal ++ events := by
  rcases (sound_advanced vocabulary source count).exists_ahead with ⟨events, ahead⟩
  refine ⟨events, ahead, ?_⟩
  rw [← finish_advanced vocabulary source count, finish_of_ahead ahead]

theorem tokens_advanced (vocabulary : Vocabulary) (source : String) (count : Nat) :
    (advanced vocabulary source count).tokens =
      (ofSource vocabulary source).tokens.take count := by
  rcases exists_ahead_advanced vocabulary source count with ⟨events, ahead, journal⟩
  have left : events.filterMap Event.token? = (ofSource vocabulary source).tokens.drop count := by
    rw [← Summary.map_fst_ended, ← List.map_drop, ← handed_advanced, handed_of_ahead ahead,
      Event.map_fst_filterMap_ended?]
  have whole : (ofSource vocabulary source).tokens =
      (advanced vocabulary source count).tokens ++ events.filterMap Event.token? := by
    rw [tokens, tokens, journal, Array.toList_appendList, List.filterMap_append]
  rw [left] at whole
  have divided := (List.take_append_drop count (ofSource vocabulary source).tokens).trans whole
  exact (List.append_cancel_right divided).symm

/-- When a token is handed out, it is the last event met so far, and all that
was met before it stands before it in the source. -/
theorem exists_journal_advanced {index : Nat} {token : Token}
    (found : (ofSource vocabulary text).tokens[index]? = some token) :
    ∃ earlier later,
      let scan := advanced vocabulary text (index + 1)
      (ofSource vocabulary text).journal.toList =
        earlier ++ .token token scan.position :: later ∧
      earlier.filterMap Event.token? = (ofSource vocabulary text).tokens.take index ∧
      scan.journal.toList = earlier ++ [.token token scan.position] := by
  rcases exists_ahead_advanced vocabulary text index with ⟨events, ahead, whole⟩
  rcases exists_of_next_eq_some ahead (next_advanced_of_getElem? found) with
    ⟨skipped, later, rfl, noToken, journal, -⟩
  refine ⟨(advanced vocabulary text index).journal.toList ++ skipped, later, ?_, ?_, ?_⟩
  · rw [whole, Array.toList_appendList, List.append_assoc]
  · rw [List.filterMap_append, noToken, List.append_nil]
    exact tokens_advanced vocabulary text index
  · rw [journal, Array.toList_appendList, List.append_assoc]

/-! ## Any session -/

/-- A reply is read off the summary, and a call moves on as the summary says. -/
theorem answer_advanced (vocabulary : Vocabulary) (source : String) (count : Nat) (call : Call) :
    (advanced vocabulary source count).answer call =
      (((Summary.ofSource vocabulary source).answer count call).1,
        advanced vocabulary source ((Summary.ofSource vocabulary source).answer count call).2) := by
  have current := current?_advanced vocabulary source count
  have position := position_advanced vocabulary source count
  have sound := sound_advanced vocabulary source count
  cases call with
  | next =>
      have inside : (advanced vocabulary source count).next.1.isSome =
          decide (count < (Summary.ofSource vocabulary source).ended.length) := by
        rw [next_advanced, Option.isSome_map, Bool.eq_iff_iff, isSome_getElem?,
          decide_eq_true_iff]
      rw [answer, inside]
      rfl
  | draw =>
      rw [answer, next_advanced]
      rfl
  | expect expected =>
      rw [answer, expect, Scan.current, current, Summary.answer]
      cases (Summary.ofSource vocabulary source).current? count with
      | none => rw [position]
      | some found =>
          by_cases same : found = expected
          · simp only [if_pos same, advanced]
          · simp only [if_neg same, position]
  | current =>
      rw [answer, Scan.current, current, Summary.answer]
      cases (Summary.ofSource vocabulary source).current? count with
      | none => rw [position]
      | some found => rfl
  | position => rw [answer, position, Summary.answer]
  | atEnd =>
      have ended : (advanced vocabulary source count).atEnd =
          decide (source.utf8ByteSize ≤ (Summary.ofSource vocabulary source).position count) := by
        rw [← position, atEnd, Text.Place.atEnd]
        exact congrArg (fun text => decide (text.utf8ByteSize ≤ _)) sound.source_eq
      rw [answer, ended]
      rfl
  | source =>
      rw [answer, sound.source_eq]
      rfl
  | warnings => rw [answer, warnings_advanced, Summary.answer]

/-- Draws hand out the tokens that are left, and then nothing for good. -/
theorem run_draws (vocabulary : Vocabulary) (source : String) (count draws : Nat) :
    Session.run answer (advanced vocabulary source count) (List.replicate draws .draw) =
      ((List.range draws).map fun index =>
          .drawn ((Summary.ofSource vocabulary source).ended[count + index]?.map Prod.fst),
        advanced vocabulary source (count + draws)) := by
  induction draws generalizing count with
  | zero => rfl
  | succ draws inductionHypothesis =>
      have further : (advanced vocabulary source count).next.2 =
          advanced vocabulary source (count + 1) := rfl
      rw [List.replicate_succ, Session.run, answer, further, inductionHypothesis,
        List.range_succ_eq_map, List.map_cons, List.map_map, next_advanced]
      simp only [Function.comp_def, Nat.add_zero, Nat.succ_eq_add_one, Nat.add_assoc,
        Nat.add_comm 1]

/-- A session on a source sees the summary of the source and how often it has
moved on, nothing else: its replies, the state it reaches, every further reply,
and the tokens that can still be drawn.  A call that does not move on leaves
the whole scan as it is. -/
theorem session_start (vocabulary : Vocabulary) (source : String) (calls : List Call) :
    let whole := Summary.ofSource vocabulary source
    let replies := (Session.run answer (start vocabulary source) calls).1
    let scan := (Session.run answer (start vocabulary source) calls).2
    let count := replies.countP Reply.moves
    replies = (Session.run whole.answer 0 calls).1 ∧
    scan = advanced vocabulary source count ∧
    scan.current? = whole.current? count ∧
    scan.position = whole.position count ∧
    scan.warnings = whole.known count ∧
    scan.source = source ∧
    (∀ call, (scan.answer call).1 = (whole.answer count call).1 ∧
      ((scan.answer call).1.moves = false → (scan.answer call).2 = scan)) ∧
    scan.handed = whole.ended.drop count ∧
    ∀ draws, Session.run answer scan (List.replicate draws .draw) =
      ((List.range draws).map fun index => .drawn (whole.ended[count + index]?.map Prod.fst),
        advanced vocabulary source (count + draws)) := by
  intro whole replies scan count
  have simulated : Session.run answer (start vocabulary source) calls =
      ((Session.run whole.answer 0 calls).1,
        advanced vocabulary source (Session.run whole.answer 0 calls).2) :=
    Session.run_of_view (answer_advanced vocabulary source) 0 calls
  have same : replies = (Session.run whole.answer 0 calls).1 := congrArg Prod.fst simulated
  have counted : (Session.run whole.answer 0 calls).2 = count := by
    rw [Summary.run_snd, Nat.zero_add, ← same]
  have reached : scan = advanced vocabulary source count := by
    rw [← counted]
    exact congrArg Prod.snd simulated
  rw [reached]
  refine ⟨same, rfl, current?_advanced .., position_advanced .., warnings_advanced ..,
    (sound_advanced ..).source_eq, fun call => ⟨?_, fun stays => ?_⟩, handed_advanced ..,
    run_draws vocabulary source count⟩
  · rw [answer_advanced]
  · rw [answer_snd, stays]
    rfl

end Scan

end Lexis
