import Lexis.Dump
import Lexis.Proofs.Scan.Spaced
import Lexis.Proofs.Scan.Summary

/-!
# Dumps to outputs of any capacity

A dump writes its lines in pieces, and the output may refuse in the middle of
each.  What is accepted does not depend on the pieces (`Sink.write_eq`), so a
dump goes on as the scan does while whole lines fit (`run_advanced`).  It ends
at the end of the source or with the first line that does not fit
(`ofSource_limited`).
-/

namespace Lexis

open Text Segment

/-! ## Offers in turn -/

namespace Sink

variable {sink : Sink} {bytes later : ByteArray} {count further : Nat}

theorem offer_offer (sink : Sink) (bytes later : ByteArray) :
    (sink.offer bytes).offer later = sink.offer (bytes ++ later) := by
  rcases sink with ⟨accepted, _ | capacity, within⟩
  · simp only [offer, ByteArray.append_assoc]
  · have room : capacity - (accepted.size + min (capacity - accepted.size) bytes.size) =
        capacity - accepted.size - bytes.size := by omega
    simp only [offer, ByteArray.append_assoc, ByteArray.extract_append, ByteArray.size_append,
      ByteArray.size_extract, Nat.sub_zero, Nat.zero_sub, room]

theorem offer_empty (sink : Sink) : sink.offer ByteArray.empty = sink := by
  rcases sink with ⟨accepted, _ | capacity, within⟩
  · simp only [offer, ByteArray.append_empty]
  · have nothing : ByteArray.empty.extract 0 (capacity - accepted.size) = ByteArray.empty :=
      ByteArray.extract_eq_empty_iff.mpr (Nat.min_le_right _ 0)
    simp only [offer, nothing, ByteArray.append_empty]

theorem hasRoom_zero (sink : Sink) : sink.hasRoom 0 = true := by
  rcases sink with ⟨accepted, _ | capacity, within⟩
  · rfl
  · exact decide_eq_true (within capacity rfl)

theorem hasRoom_of_le (room : sink.hasRoom further = true) (less : count ≤ further) :
    sink.hasRoom count = true := by
  rcases sink with ⟨accepted, _ | capacity, within⟩
  · rfl
  · simp only [hasRoom, Option.all_some, decide_eq_true_eq] at room ⊢
    omega

theorem hasRoom_offer (room : sink.hasRoom bytes.size = true) (count : Nat) :
    (sink.offer bytes).hasRoom count = sink.hasRoom (bytes.size + count) := by
  rcases sink with ⟨accepted, _ | capacity, within⟩
  · rfl
  · simp only [hasRoom, Option.all_some, decide_eq_true_eq] at room
    have whole : min (capacity - accepted.size) bytes.size = bytes.size := by omega
    simp only [hasRoom, offer, Option.all_some, ByteArray.size_append, ByteArray.size_extract,
      Nat.sub_zero, whole, Nat.add_assoc]

theorem offer_append_of_full (full : sink.hasRoom bytes.size = false) (later : ByteArray) :
    sink.offer (bytes ++ later) = sink.offer bytes := by
  rcases sink with ⟨accepted, _ | capacity, within⟩
  · contradiction
  · simp only [hasRoom, Option.all_some, decide_eq_false_iff_not] at full
    have nothing : later.extract 0 (capacity - accepted.size - bytes.size) = ByteArray.empty := by
      rw [ByteArray.extract_eq_empty_iff]
      omega
    simp only [offer, ByteArray.extract_append, Nat.zero_sub, nothing, ByteArray.append_empty]

/-- Writing pieces is offering their text, which is taken whole if there is
room for it. -/
theorem write_eq (sink : Sink) (pieces : List String) :
    sink.write pieces =
      (sink.offer (String.join pieces).toByteArray,
        sink.hasRoom (String.join pieces).utf8ByteSize) := by
  induction pieces generalizing sink with
  | nil =>
      rw [write, String.join_nil]
      exact Prod.ext sink.offer_empty.symm sink.hasRoom_zero.symm
  | cons piece others inductionHypothesis =>
      have text : (String.join (piece :: others)).toByteArray =
          piece.toByteArray ++ (String.join others).toByteArray := by
        rw [String.join_cons, String.toByteArray_append]
      rw [write, text, String.join_cons, String.utf8ByteSize_append]
      cases room : sink.hasRoom piece.utf8ByteSize with
      | true =>
          rw [if_pos rfl, inductionHypothesis, offer_offer, hasRoom_offer room]
          rfl
      | false =>
          have full : sink.hasRoom (piece.utf8ByteSize + (String.join others).utf8ByteSize) =
              false := by
            rw [Bool.eq_false_iff] at room ⊢
            exact fun larger => room (hasRoom_of_le larger (Nat.le_add_right _ _))
          rw [if_neg Bool.false_ne_true, offer_append_of_full room, full]

/-- A limited output accepts the first bytes that it is offered. -/
theorem accepted_offer_new (limit : Nat) (bytes : ByteArray) :
    ((new (some limit)).offer bytes).accepted = bytes.extract 0 (min limit bytes.size) :=
  calc
    ((new (some limit)).offer bytes).accepted = bytes.extract 0 limit := ByteArray.empty_append
    _ = (bytes.extract 0 bytes.size).extract 0 limit := by rw [ByteArray.extract_zero_size]
    _ = bytes.extract 0 (min limit bytes.size) := by
      rw [ByteArray.extract_extract, Nat.zero_add, Nat.zero_add]

theorem hasRoom_new (limit count : Nat) :
    (new (some limit)).hasRoom count = decide (count ≤ limit) := by
  simp [hasRoom, new]

end Sink

/-! ## Lines -/

/-- The text of a dump: the lines of some tokens. -/
def Dump.text (tokens : List Token) : String :=
  String.join (tokens.map Token.line)

theorem Token.join_linePieces (token : Token) : String.join token.linePieces = token.line := by
  simp only [linePieces, line, text, String.join_cons, String.join_nil, String.append_empty,
    String.append_assoc]

theorem Dump.text_append (earlier later : List Token) :
    text (earlier ++ later) = text earlier ++ text later := by
  rw [text, List.map_append, String.join_append]
  rfl

theorem Dump.text_singleton (token : Token) : text [token] = token.line := by
  rw [text, List.map_singleton, String.join_cons, String.join_nil, String.append_empty]

theorem Vocabulary.Legal.count_newline_line {vocabulary : Vocabulary} {token : Token}
    (avoid : vocabulary.OperatorsAvoid (· == '\n')) (legal : vocabulary.Legal token) :
    token.line.toList.count '\n' = 1 := by
  have lexeme : token.lexeme.toList.count '\n' = 0 :=
    List.count_eq_zero.mpr (Legal.not_mem_lexeme avoid rfl rfl legal)
  have kind : token.kind.toList.count '\n' = 0 := by
    rcases legal.kind_eq with number | identifier | same
    · rw [number]
      rfl
    · rw [identifier]
      rfl
    · rw [same, lexeme]
  simp [Token.line, Token.text, kind, lexeme]

theorem Dump.count_newline_text {tokens : List Token}
    (single : ∀ token ∈ tokens, token.line.toList.count '\n' = 1) :
    (text tokens).toList.count '\n' = tokens.length := by
  induction tokens with
  | nil => rfl
  | cons token later inductionHypothesis =>
      rcases List.forall_mem_cons.mp single with ⟨here, singleLater⟩
      rw [text, List.map_cons, String.join_cons, String.toList_append, List.count_append, here,
        ← text, inductionHypothesis singleLater, List.length_cons, Nat.add_comm]

/-! ## The records of events -/

/-- The words of a warning begin as no other message does. -/
theorem Warning.message_ne {warning : Warning} {words : String}
    (differs : words.toList.head? ≠ some 'i') : warning.message ≠ words := by
  rintro rfl
  apply differs
  unfold message
  rw [String.append_assoc, String.append_assoc, String.toList_append, List.head?_append]
  rfl

namespace Event

/-- No event is recorded as the end of a dump. -/
theorem message_ne_finished (events : List Event) :
    ∀ record ∈ events.map Event.record, record.message ≠ "lex finished" := by
  intro record found
  rcases List.mem_map.mp found with ⟨event, -, rfl⟩
  cases event with
  | token => simp [Event.record]
  | comment => simp [Event.record]
  | illegal warning => exact Warning.message_ne (by decide)

/-- The tokens among some events are those that are recorded as scanned. -/
theorem countP_record_scanned (events : List Event) :
    (events.map record).countP (·.message = "scanned") = (events.filterMap token?).length := by
  rw [List.countP_map, List.length_filterMap_eq_countP]
  refine congrArg (List.countP · events) (funext fun event => ?_)
  cases event with
  | token => rfl
  | comment => rfl
  | illegal warning =>
      exact decide_eq_false (Warning.message_ne (by decide) : warning.message ≠ "scanned")

/-- The illegal characters among some events are those that are recorded as a
warning to the user. -/
theorem countP_record_warn (events : List Event) :
    (events.map record).countP (·.severity = .warn) = (events.filterMap warning?).length := by
  rw [List.countP_map, List.length_filterMap_eq_countP]
  refine congrArg (List.countP · events) (funext fun event => ?_)
  cases event <;> rfl

end Event

/-! ## Dumping line after line -/

theorem Scan.current_of_next_eq_some {scan after : Scan} {token : Token}
    (handed : scan.next = (some token, after)) : after.current = .ok token := by
  have held := scan.current?_next
  rw [handed] at held
  have current : after.current? = some token := held
  rw [Scan.current, current]

namespace Dump

variable {scan after : Scan} {sink : Sink} {token : Token} {lines : Nat}

theorem run_of_next_none (ended : scan.next = (none, after)) :
    run scan sink lines = ⟨after, sink.accepted, lines, none⟩ := by
  rw [run]
  split
  next last same =>
      rw [(Prod.mk.inj (same.symm.trans ended)).2]
  next same => simp [ended] at same

/-- A token is dumped as its line, and what was handed out is always there to
be dumped. -/
theorem run_of_next_some (handed : scan.next = (some token, after)) :
    run scan sink lines =
      if sink.hasRoom token.line.utf8ByteSize then
        run after (sink.offer token.line.toByteArray) (lines + 1)
      else ⟨after, (sink.offer token.line.toByteArray).accepted, lines, some .refused⟩ := by
  rw [run]
  split
  next same => simp [handed] at same
  next same =>
      rcases Prod.mk.inj (same.symm.trans handed) with ⟨-, rfl⟩
      rw [Scan.current_of_next_eq_some handed]
      dsimp only
      rw [Sink.write_eq, Token.join_linePieces]
      cases sink.hasRoom token.line.utf8ByteSize <;> rfl

/-! ## Dumping a source -/

variable {source : String} {index : Nat}

theorem text_take_succ {tokens : List Token} (found : tokens[index]? = some token) :
    text (tokens.take (index + 1)) = text (tokens.take index) ++ token.line := by
  rw [List.take_add_one, found, Option.toList_some, text_append, text_singleton]

/-- While the lines fit, a dump goes on as the scan does. -/
theorem run_advanced (vocabulary : Vocabulary) (source : String) (sink : Sink) (count : Nat) :
    let tokens := (Scan.ofSource vocabulary source).tokens
    count ≤ tokens.length →
    sink.hasRoom (text (tokens.take count)).utf8ByteSize = true →
    run (.start vocabulary source) sink 0 =
      run (.advanced vocabulary source count)
        (sink.offer (text (tokens.take count)).toByteArray) count := by
  intro tokens inside fits
  induction count with
  | zero =>
      have nothing : (text (tokens.take 0)).toByteArray = ByteArray.empty := rfl
      rw [nothing, Sink.offer_empty]
      rfl
  | succ count inductionHypothesis =>
      have found : tokens[count]? = some tokens[count] := List.getElem?_eq_getElem inside
      rw [text_take_succ found, String.utf8ByteSize_append] at fits
      have earlier := Sink.hasRoom_of_le fits (Nat.le_add_right _ _)
      have room : (sink.offer (text (tokens.take count)).toByteArray).hasRoom
          tokens[count].line.utf8ByteSize = true :=
        (Sink.hasRoom_offer earlier _).trans fits
      rw [inductionHypothesis (Nat.le_of_succ_le inside) earlier,
        run_of_next_some (Scan.next_advanced_of_getElem? found), if_pos room, Sink.offer_offer,
        text_take_succ found, String.toByteArray_append]

/-- A dump whose lines all fit comes to the end of the source. -/
theorem ofSource_of_hasRoom {capacity? : Option Nat}
    (fits : (Sink.new capacity?).hasRoom (text (tokensOf source)).utf8ByteSize = true) :
    ofSource source capacity? =
      ⟨Scan.ofSource .arithmetic source,
        ((Sink.new capacity?).offer (text (tokensOf source)).toByteArray).accepted,
        (tokensOf source).length, none⟩ := by
  have ended : (Scan.advanced .arithmetic source (tokensOf source).length).next.1 = none :=
    (Scan.next_fst_advanced ..).trans (List.getElem?_eq_none (Nat.le_refl _))
  have finished := ((Scan.sound_advanced ..).next_of_none ended).1
  rw [Scan.finish_advanced] at finished
  have whole : (tokensOf source).take (tokensOf source).length = tokensOf source :=
    List.take_length
  have reached := run_advanced .arithmetic source (.new capacity?) (tokensOf source).length
    (Nat.le_refl _) (by rwa [← tokensOf, whole])
  rw [← tokensOf, whole, run_of_next_none (Prod.ext ended finished)] at reached
  exact reached

/-- An output without a limit takes the lines of all tokens. -/
theorem ofSource_none (source : String) :
    ofSource source none =
      ⟨Scan.ofSource .arithmetic source, (text (tokensOf source)).toByteArray,
        (tokensOf source).length, none⟩ := by
  have accepted : ((Sink.new none).offer (text (tokensOf source)).toByteArray).accepted =
      (text (tokensOf source)).toByteArray := ByteArray.empty_append
  rw [ofSource_of_hasRoom rfl, accepted]

/-- A dump stops behind the first token whose line does not fit. -/
theorem ofSource_of_full {capacity? : Option Nat} (found : (tokensOf source)[index]? = some token)
    (fits : (Sink.new capacity?).hasRoom
      (text ((tokensOf source).take index)).utf8ByteSize = true)
    (full : (Sink.new capacity?).hasRoom
      (text ((tokensOf source).take (index + 1))).utf8ByteSize = false) :
    ofSource source capacity? =
      ⟨.advanced .arithmetic source (index + 1),
        ((Sink.new capacity?).offer (text (tokensOf source)).toByteArray).accepted,
        index, some .refused⟩ := by
  have inside : index ≤ (tokensOf source).length :=
    Nat.le_of_lt (List.getElem?_eq_some_iff.mp found).1
  have reached := run_advanced .arithmetic source (.new capacity?) index inside fits
  have refused : ((Sink.new capacity?).offer
      (text ((tokensOf source).take index)).toByteArray).hasRoom token.line.utf8ByteSize =
        false := by
    rw [text_take_succ found, String.utf8ByteSize_append] at full
    exact (Sink.hasRoom_offer fits _).trans full
  have divided : text (tokensOf source) = text ((tokensOf source).take (index + 1)) ++
      text ((tokensOf source).drop (index + 1)) := by
    rw [← text_append, List.take_append_drop]
  rw [← tokensOf, run_of_next_some (Scan.next_advanced_of_getElem? found), refused,
    if_neg Bool.false_ne_true, Sink.offer_offer, ← String.toByteArray_append,
    ← text_take_succ found] at reached
  rw [divided, String.toByteArray_append, Sink.offer_append_of_full full]
  exact reached

/-- If there is no room for all lines, some line is the first that does not fit. -/
theorem exists_first_full {tokens : List Token}
    (full : sink.hasRoom (text tokens).utf8ByteSize = false) :
    ∃ index token, tokens[index]? = some token ∧
      sink.hasRoom (text (tokens.take index)).utf8ByteSize = true ∧
      sink.hasRoom (text (tokens.take (index + 1))).utf8ByteSize = false := by
  have first : ∀ count, sink.hasRoom (text (tokens.take count)).utf8ByteSize = false →
      ∃ index, sink.hasRoom (text (tokens.take index)).utf8ByteSize = true ∧
        sink.hasRoom (text (tokens.take (index + 1))).utf8ByteSize = false := by
    intro count fullHere
    induction count with
    | zero => exact absurd sink.hasRoom_zero (Bool.eq_false_iff.mp fullHere)
    | succ count inductionHypothesis =>
        cases room : sink.hasRoom (text (tokens.take count)).utf8ByteSize with
        | true => exact ⟨count, room, fullHere⟩
        | false => exact inductionHypothesis room
  rcases first tokens.length (by rwa [List.take_length]) with ⟨index, fits, fullNext⟩
  have inside : index < tokens.length := by
    by_contra outside
    rw [Nat.not_lt] at outside
    rw [List.take_of_length_le outside, full] at fits
    contradiction
  exact ⟨index, tokens[index], List.getElem?_eq_getElem inside, fits, fullNext⟩

/-- A dump to a limited output accepts the first bytes of the lines of all
tokens.  If all lines fit, up to the very last byte, the dump succeeds, and the
record that says so comes last and tells the numbers of lines and of illegal
characters.  If not, the output has refused the first line that does not fit:
the scan has come to the token of this line, what was logged ends with this
token, and no record says that the dump has finished. -/
theorem ofSource_limited (source : String) (limit : Nat) :
    let tokens := tokensOf source
    let whole := text tokens
    let full := Scan.ofSource .arithmetic source
    let events := full.journal.toList
    let dump := ofSource source (some limit)
    dump.output = whole.toByteArray.extract 0 (min limit whole.utf8ByteSize) ∧
    (whole.utf8ByteSize ≤ limit ∧ dump.failure? = none ∧
        dump.records = events.map Event.record ++
          [⟨.debug, "minic::commands", "lex finished",
            [("tokens", toString tokens.length),
              ("warnings", toString full.warnings.length)]⟩] ∧
        (∀ record ∈ events.map Event.record, record.message ≠ "lex finished") ∧
        whole.toList.count '\n' = tokens.length ∧
        (events.map Event.record).countP (·.message = "scanned") = tokens.length ∧
        (events.map Event.record).countP (·.severity = .warn) = full.warnings.length ∨
      limit < whole.utf8ByteSize ∧ dump.failure? = some .refused ∧
        ∃ index token stop earlier later,
          tokens[index]? = some token ∧
          (text (tokens.take index)).utf8ByteSize ≤ limit ∧
          limit < (text (tokens.take (index + 1))).utf8ByteSize ∧
          dump.scan = Scan.advanced .arithmetic source (index + 1) ∧
          events = earlier ++ .token token stop :: later ∧
          earlier.filterMap Event.token? = tokens.take index ∧
          dump.records = (earlier ++ [.token token stop]).map Event.record ∧
          ∀ record ∈ dump.records, record.message ≠ "lex finished") := by
  intro tokens whole full events dump
  have firstBytes : ((Sink.new (some limit)).offer whole.toByteArray).accepted =
      whole.toByteArray.extract 0 (min limit whole.utf8ByteSize) :=
    Sink.accepted_offer_new limit whole.toByteArray
  cases room : (Sink.new (some limit)).hasRoom whole.utf8ByteSize with
  | true =>
      have dumped : dump = _ := ofSource_of_hasRoom room
      rw [Sink.hasRoom_new, decide_eq_true_iff] at room
      rw [dumped]
      refine ⟨firstBytes, .inl ⟨room, rfl, rfl, Event.message_ne_finished events, ?_, ?_, ?_⟩⟩
      · exact count_newline_text fun token handed =>
          (Scan.legal_of_mem_tokens handed).count_newline_line
            Vocabulary.operatorsAvoid_newline_arithmetic
      · exact Event.countP_record_scanned events
      · exact Event.countP_record_warn events
  | false =>
      rcases exists_first_full room with ⟨index, token, found, fits, fullNext⟩
      have dumped : dump = _ := ofSource_of_full found fits fullNext
      rcases Scan.exists_journal_advanced found with ⟨earlier, later, divided, before, journal⟩
      rw [Sink.hasRoom_new, decide_eq_false_iff_not, Nat.not_le] at room fullNext
      rw [Sink.hasRoom_new, decide_eq_true_iff] at fits
      have records : dump.records = (earlier ++ [Event.token token
          (Scan.advanced .arithmetic source (index + 1)).position]).map Event.record := by
        rw [dumped, Dump.records, journal]
        exact List.append_nil _
      rw [records, dumped]
      exact ⟨firstBytes, .inr ⟨room, rfl, index, token, _, earlier, later, found, fits, fullNext,
        rfl, divided, before, rfl, Event.message_ne_finished _⟩⟩

/-- A line may be cut before its closing bracket. -/
example : (ofSource "x = 1" (some 13)).output = "<id, x>\n<=, =".toByteArray := by
  decide +kernel

end Dump

end Lexis
