import Lexis.Proofs.Scan.Summary
import Lexis.Proofs.Segmentation.Joining

/-!
# Scanning on from anywhere

A scan keeps nothing in mind but where it is: what it will do is what a new
scan of the text behind it does.  Every state of the new scan is a state of the
old one once offsets are counted from the beginning (`Scan.resumed`), and
taking the next token commutes with this (`next_resumed`).
-/

namespace Lexis

open Text Segment

/-! ## Places behind other text -/

namespace Text.Place

/-- The same place once other text stands before its source. -/
def behind (place : Place) (earlier : String) : Place :=
  ⟨earlier ++ place.source, place.offset + earlier.utf8ByteSize⟩

variable {place : Place} {before after : List Char}

theorem Splits.behind (splits : place.Splits before after) (earlier : String) :
    (place.behind earlier).Splits (earlier.toList ++ before) after where
  source_eq := by
    rw [List.append_assoc, String.ofList_append, String.ofList_toList, ← splits.source_eq]
    rfl
  offset_eq := by
    rw [Place.behind, splits.offset_eq, byteSize_append, byteSize_toList, Nat.add_comm]

theorem forward_behind (place : Place) (earlier : String) (count : Nat) :
    (place.behind earlier).forward count = (place.forward count).behind earlier := by
  simp only [forward, behind, Nat.add_right_comm]

theorem Splits.skipWhile_behind {accepts : UInt8 → Bool} {accepted : Char → Bool}
    (splits : place.Splits before after) (decides : Decides accepts accepted) (earlier : String) :
    (place.behind earlier).skipWhile accepts = (place.skipWhile accepts).behind earlier := by
  rw [(splits.behind earlier).skipWhile_eq decides, splits.skipWhile_eq decides, forward_behind]

end Text.Place

/-- What is read at a place does not depend on the text before it, offsets
apart. -/
theorem Event.read?_behind {vocabulary : Vocabulary} {place : Place} {before after : List Char}
    (splits : place.Splits before after) (notBlank : ∀ char ∈ after.head?, isBlank char = false)
    (earlier : String) :
    read? vocabulary (place.behind earlier) =
      (read? vocabulary place).map fun (event, behind) =>
        (event.shift earlier.utf8ByteSize, behind.behind earlier) := by
  have splitsBehind := splits.behind earlier
  cases after with
  | nil =>
      have nothing := splits.byte?_eq_none_iff.mpr rfl
      have nothingBehind := splitsBehind.byte?_eq_none_iff.mpr rfl
      rw [read?, read?, nothing, nothingBehind]
      rfl
  | cons char rest =>
      rcases @read?_of_splits vocabulary _ _ _ _ splits (notBlank char rfl) with
        ⟨event, found, met⟩
      rcases @read?_of_splits vocabulary _ _ _ _ splitsBehind (notBlank char rfl) with
        ⟨other, foundBehind, metBehind⟩
      have offsets : (place.behind earlier).offset + (first vocabulary char rest).size =
          place.offset + (first vocabulary char rest).size + earlier.utf8ByteSize :=
        Nat.add_right_comm ..
      rw [offsets] at foundBehind
      have shifted := event?_add vocabulary (first vocabulary char rest) place.offset
        (place.offset + (first vocabulary char rest).size) earlier.utf8ByteSize
      rw [found] at shifted
      obtain rfl : other = event.shift earlier.utf8ByteSize :=
        Option.some_inj.mp (foundBehind.symm.trans shifted)
      rw [met, metBehind, Place.forward_behind]
      rfl

namespace Scan

/-! ## Scans behind other scans -/

/-- The state of a scan that has gone on as another scan does, which has begun
at the place of the first one. -/
def resumed (scan fresh : Scan) : Scan where
  vocabulary := fresh.vocabulary
  place := ⟨scan.source, fresh.position + scan.position⟩
  current? := fresh.current? <|> scan.current?
  journal := scan.journal ++ fresh.journal.map (Event.shift scan.position)

/-- The place of a scan divides its source into the text before the place and
the text behind it. -/
structure Divides (scan : Scan) (earlier rest : String) : Prop where
  source_eq : scan.source = earlier ++ rest
  position_eq : scan.position = earlier.utf8ByteSize

variable {vocabulary : Vocabulary} {earlier rest source : String} {scan fresh : Scan}

theorem Sound.exists_divides (sound : scan.Sound vocabulary source) :
    ∃ earlier rest, scan.Divides earlier rest := by
  rcases sound.exists_ahead with ⟨events, before, after, splits, -⟩
  refine ⟨String.ofList before, String.ofList after, ?_, splits.offset_eq⟩
  rw [Scan.source, splits.source_eq, String.ofList_append]

/-- A new scan that has not moved yet leaves the scan where it is. -/
theorem resumed_start (scan : Scan) (rest : String) :
    scan.resumed (start scan.vocabulary rest) = scan := by
  rcases scan with ⟨vocabulary, ⟨source, offset⟩, current?, journal⟩
  simp [resumed, start, Scan.position, Scan.source, Place.start]

/-- The place of the new scan, in the whole source. -/
theorem Divides.behind_eq (divides : scan.Divides earlier rest) {place : Place}
    (sameSource : place.source = rest) :
    place.behind earlier = ⟨scan.source, place.offset + scan.position⟩ := by
  rw [Place.behind, sameSource, divides.source_eq, divides.position_eq]

/-- Recording an event commutes with going on behind another scan. -/
theorem record_resumed (divides : scan.Divides earlier rest) (event : Event) {behind : Place}
    (sameSource : behind.source = rest) :
    (scan.resumed fresh).record (event.shift scan.position) (behind.behind earlier) =
      scan.resumed (fresh.record event behind) := by
  rw [divides.behind_eq sameSource]
  simp [resumed, record, Scan.position, Option.or_assoc]

/-! ## What is seen of a scan behind another scan -/

theorem toList_journal_resumed (scan fresh : Scan) :
    (scan.resumed fresh).journal.toList =
      scan.journal.toList ++ fresh.journal.toList.map (Event.shift scan.position) := by
  rw [resumed, Array.toList_append, Array.toList_map]

theorem warnings_resumed (scan fresh : Scan) :
    (scan.resumed fresh).warnings =
      scan.warnings ++ fresh.warnings.map (Warning.shift scan.position) := by
  rw [warnings, toList_journal_resumed, List.filterMap_append, Event.filterMap_warning?_map_shift]
  rfl

theorem atEnd_resumed (divides : scan.Divides earlier rest)
    (sound : fresh.Sound vocabulary rest) : (scan.resumed fresh).atEnd = fresh.atEnd := by
  have size : (scan.resumed fresh).source.utf8ByteSize =
      fresh.source.utf8ByteSize + scan.position := by
    rw [sound.source_eq, divides.position_eq, Nat.add_comm, ← String.utf8ByteSize_append,
      ← divides.source_eq]
    rfl
  have place : (scan.resumed fresh).place.offset = fresh.place.offset + scan.position := rfl
  rw [Bool.eq_iff_iff, atEnd, atEnd, Place.atEnd, Place.atEnd, decide_eq_true_iff,
    decide_eq_true_iff, place]
  exact (congrArg (· ≤ _) size).to_iff.trans Nat.add_le_add_iff_right

/-! ## One token further -/

theorem behindWhitespace_resumed (divides : scan.Divides earlier rest)
    (sound : fresh.Sound vocabulary rest) :
    (scan.resumed fresh).behindWhitespace = fresh.behindWhitespace.behind earlier := by
  rcases sound.exists_ahead with ⟨events, before, after, splits, -⟩
  have place : (scan.resumed fresh).place = fresh.place.behind earlier :=
    (divides.behind_eq sound.source_eq).symm
  rw [behindWhitespace, place, splits.skipWhile_behind decides_whitespace]
  rfl

theorem pass_resumed (divides : scan.Divides earlier rest) (sound : fresh.Sound vocabulary rest) :
    (scan.resumed fresh).pass =
      (fresh.pass.1.map (Event.shift scan.position), scan.resumed fresh.pass.2) := by
  rcases sound.exists_ahead with ⟨events, ahead⟩
  rcases ahead.behindWhitespace with ⟨before, after, splits, notBlank, -, -⟩
  have read := @Event.read?_behind fresh.vocabulary _ _ _ splits notBlank earlier
  have sameSource : fresh.behindWhitespace.source = rest := sound.source_eq
  have blanks := behindWhitespace_resumed divides sound
  rw [← blanks] at read
  cases met : Event.read? fresh.vocabulary fresh.behindWhitespace with
  | none =>
      rw [met, Option.map_none] at read
      rw [divides.behind_eq sameSource] at blanks
      rw [pass_of_read?_eq_none read, pass_of_read?_eq_none met, blanks]
      rfl
  | some found =>
      rcases found with ⟨event, behind⟩
      have behindSource := (Event.source_of_read?_eq_some met).trans sameSource
      rw [met, Option.map_some, ← divides.position_eq] at read
      rw [pass_of_read?_eq_some read, pass_of_read?_eq_some met,
        record_resumed divides event behindSource]
      rfl

/-- Taking the next token commutes with going on behind another scan. -/
theorem next_resumed (divides : scan.Divides earlier rest) (sound : fresh.Sound vocabulary rest) :
    (scan.resumed fresh).next = (fresh.next.1, scan.resumed fresh.next.2) := by
  fun_induction next fresh with
  | case1 fresh nothing =>
      have passed := pass_resumed divides sound
      rw [pass_of_read?_eq_none nothing] at passed
      exact next_of_pass_none passed
  | case2 fresh event behind met token isToken =>
      have passed := pass_resumed divides sound
      rw [pass_of_read?_eq_some met] at passed
      exact next_of_pass_token passed ((event.token?_shift scan.position).trans isToken)
  | case3 fresh event behind met notToken inductionHypothesis =>
      have passed := pass_resumed divides sound
      have soundLater := sound.pass
      rw [pass_of_read?_eq_some met] at passed soundLater
      rw [next_of_pass_skipped passed ((event.token?_shift scan.position).trans notToken)]
      exact inductionHypothesis soundLater

/-! ## To the end -/

theorem finish_resumed (divides : scan.Divides earlier rest) (sound : fresh.Sound vocabulary rest) :
    (scan.resumed fresh).finish = scan.resumed fresh.finish := by
  fun_induction finish fresh with
  | case1 fresh last ended =>
      have moved := next_resumed divides sound
      rw [ended] at moved
      exact finish_of_next_none moved
  | case2 fresh token after found inductionHypothesis =>
      have moved := next_resumed divides sound
      have soundLater := sound.next
      rw [found] at moved soundLater
      rw [finish_of_next_some moved]
      exact inductionHypothesis soundLater

/-- The tokens that are left are those of the new scan, further on. -/
theorem handed_resumed (divides : scan.Divides earlier rest) (sound : fresh.Sound vocabulary rest) :
    (scan.resumed fresh).handed =
      fresh.handed.map fun (token, stop) => (token, stop + scan.position) := by
  fun_induction handed fresh with
  | case1 fresh last ended =>
      have moved := next_resumed divides sound
      rw [ended] at moved
      exact handed_of_next_none moved
  | case2 fresh token after found inductionHypothesis =>
      have moved := next_resumed divides sound
      have soundLater := sound.next
      rw [found] at moved soundLater
      rw [handed_of_next_some moved, inductionHypothesis soundLater, List.map_cons]
      rfl

/-- Moving on commutes with going on behind another scan. -/
theorem advanced_add {count : Nat}
    (divides : (advanced vocabulary source count).Divides earlier rest) (further : Nat) :
    advanced vocabulary source (count + further) =
      (advanced vocabulary source count).resumed (advanced vocabulary rest further) := by
  induction further with
  | zero =>
      have unmoved := resumed_start (advanced vocabulary source count) rest
      rw [(sound_advanced vocabulary source count).vocabulary_eq] at unmoved
      exact unmoved.symm
  | succ further inductionHypothesis =>
      rw [← Nat.add_assoc, advanced, inductionHypothesis,
        next_resumed divides (sound_advanced vocabulary rest further)]
      rfl

/-- Wherever a scan has come to by handing out tokens, it divides its source,
and from there on it does what a new scan of the rest does: it hands out the
same tokens, stops at the same offsets further on, meets the same warnings and
comments further on, and comes to its end at the same time. -/
theorem advanced_eq_resumed (vocabulary : Vocabulary) (source : String) (count : Nat) :
    let scan := advanced vocabulary source count
    ∃ earlier rest, source = earlier ++ rest ∧ scan.position = earlier.utf8ByteSize ∧
      (∀ further,
        let later := advanced vocabulary source (count + further)
        let fresh := advanced vocabulary rest further
        later.next.1 = fresh.next.1 ∧
        later.current? = (fresh.current? <|> scan.current?) ∧
        later.position = fresh.position + scan.position ∧
        later.atEnd = fresh.atEnd ∧
        later.warnings = scan.warnings ++ fresh.warnings.map (Warning.shift scan.position) ∧
        later.journal.toList =
          scan.journal.toList ++ fresh.journal.toList.map (Event.shift scan.position)) ∧
      scan.handed = (start vocabulary rest).handed.map
        (fun (token, stop) => (token, stop + scan.position)) ∧
      ofSource vocabulary source = scan.resumed (ofSource vocabulary rest) := by
  intro scan
  have sound : scan.Sound vocabulary source := sound_advanced vocabulary source count
  rcases sound.exists_divides with ⟨earlier, rest, divides⟩
  have whole : source = earlier ++ rest := sound.source_eq.symm.trans divides.source_eq
  have unmoved := resumed_start scan rest
  rw [sound.vocabulary_eq] at unmoved
  refine ⟨earlier, rest, whole, divides.position_eq, ?_, ?_, ?_⟩
  · intro further later fresh
    have soundFresh : fresh.Sound vocabulary rest := sound_advanced vocabulary rest further
    have moved : later = scan.resumed fresh := advanced_add divides further
    rw [moved, next_resumed divides soundFresh]
    exact ⟨rfl, rfl, rfl, atEnd_resumed divides soundFresh, warnings_resumed scan fresh,
      toList_journal_resumed scan fresh⟩
  · have handed := handed_resumed divides (sound_start vocabulary rest)
    rwa [unmoved] at handed
  · have finished := finish_resumed divides (sound_start vocabulary rest)
    rwa [unmoved, finish_advanced] at finished

end Scan

end Lexis
