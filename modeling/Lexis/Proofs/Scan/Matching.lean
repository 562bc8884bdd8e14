import Lexis.Proofs.Scan.Summary

/-!
# Matching tokens in turn

A reader of tokens requires one after the other, up to the first that is not
there (`Scan.expectAll`).  What it can match is the tokens of the source in
their order, and the last one again and again; a refusal names the token that
is there instead and costs nothing (`expectAll_next_start`).
-/

namespace Lexis

/-- How requiring tokens in turn has ended. -/
structure Matching where
  /-- The number of tokens that were there. -/
  matched : Nat
  /-- Why the next one was refused, if not all were there. -/
  refusal? : Option SyntaxError
  scan : Scan

namespace Scan

/-- Require tokens in turn, up to the first that is refused. -/
def expectAll (scan : Scan) : List Token → Matching
  | [] => ⟨0, none, scan⟩
  | expected :: later =>
      match scan.expect expected with
      | .error error => ⟨0, some error, scan⟩
      | .ok after =>
          let rest := after.expectAll later
          { rest with matched := rest.matched + 1 }

/-- Tokens that are all there may be required before the others. -/
theorem expectAll_append {scan : Scan} {earlier : List Token} (later : List Token)
    (all : (scan.expectAll earlier).refusal? = none) :
    scan.expectAll (earlier ++ later) =
      let rest := (scan.expectAll earlier).scan.expectAll later
      { rest with matched := (scan.expectAll earlier).matched + rest.matched } := by
  induction earlier generalizing scan with
  | nil => simp [expectAll]
  | cons expected others inductionHypothesis =>
      rw [List.cons_append, expectAll]
      rw [expectAll] at all ⊢
      cases outcome : scan.expect expected with
      | error error => simp [outcome] at all
      | ok after =>
          simp only [outcome] at all ⊢
          rw [inductionHypothesis all]
          simp only [Nat.add_right_comm]

end Scan

namespace Summary

/-- The tokens that can be matched in turn: those of the source, and then the
last one for good. -/
def matching? (whole : Summary) (index : Nat) : Option Token :=
  whole.ended[min index (whole.ended.length - 1)]?.map Prod.fst

theorem current?_succ_eq_matching? (whole : Summary) (index : Nat) :
    whole.current? (index + 1) = whole.matching? index := by
  have same : min (index + 1) whole.ended.length - 1 = min index (whole.ended.length - 1) := by
    omega
  rw [current?, if_neg (Nat.succ_ne_zero index), same, matching?]

/-- There is always a token to match, unless the source has none. -/
theorem matching?_eq_none_iff {whole : Summary} {index : Nat} :
    whole.matching? index = none ↔ whole.ended = [] := by
  rw [matching?, Option.map_eq_none_iff, List.getElem?_eq_none_iff, ← List.length_eq_zero_iff]
  omega

/-- Why a token is refused after a number of moves, if it is. -/
def refusal? (whole : Summary) (count : Nat) (expected : Token) : Option SyntaxError :=
  match whole.current? count with
  | none => some (.missing (whole.position count))
  | some found =>
      if found = expected then none else some (.unexpected (whole.position count) expected found)

theorem refusal?_eq_none_iff {whole : Summary} {count : Nat} {expected : Token} :
    whole.refusal? count expected = none ↔ whole.current? count = some expected := by
  rw [refusal?]
  cases whole.current? count with
  | none => simp
  | some found => by_cases same : found = expected <;> simp [same]

end Summary

namespace Scan

variable {vocabulary : Vocabulary} {source : String} {count : Nat}

/-- Requiring a token moves on, or is refused as the summary says. -/
theorem expect_advanced (vocabulary : Vocabulary) (source : String) (count : Nat)
    (expected : Token) :
    (advanced vocabulary source count).expect expected =
      match (Summary.ofSource vocabulary source).refusal? count expected with
      | none => .ok (advanced vocabulary source (count + 1))
      | some error => .error error := by
  rw [expect, Scan.current, current?_advanced, position_advanced, Summary.refusal?]
  cases (Summary.ofSource vocabulary source).current? count with
  | none => rfl
  | some found =>
      by_cases same : found = expected
      · simp only [if_pos same, advanced]
      · simp only [if_neg same]

/-- Tokens are matched as long as they are current, each moves on by one, and
the first that is not current is refused. -/
theorem expectAll_advanced (vocabulary : Vocabulary) (source : String) (count : Nat)
    (expected : List Token) :
    let whole := Summary.ofSource vocabulary source
    let run := (advanced vocabulary source count).expectAll expected
    run.scan = advanced vocabulary source (count + run.matched) ∧
    (∀ index < run.matched, expected[index]? = whole.current? (count + index)) ∧
    match run.refusal? with
    | none => run.matched = expected.length
    | some error => ∃ asked, expected[run.matched]? = some asked ∧
        whole.refusal? (count + run.matched) asked = some error := by
  induction expected generalizing count with
  | nil => exact ⟨rfl, fun _ less => absurd less (Nat.not_lt_zero _), rfl⟩
  | cons asked later inductionHypothesis =>
      intro whole run
      have stepped := expect_advanced vocabulary source count asked
      cases refused : whole.refusal? count asked with
      | some error =>
          rw [refused] at stepped
          have stopped : run = ⟨0, some error, advanced vocabulary source count⟩ := by
            simp only [run, expectAll, stepped]
          rw [stopped]
          exact ⟨rfl, fun _ less => absurd less (Nat.not_lt_zero _), asked, rfl, refused⟩
      | none =>
          rw [refused] at stepped
          have here := Summary.refusal?_eq_none_iff.mp refused
          rcases inductionHypothesis (count + 1) with ⟨reached, matched, outcome⟩
          have moved : run =
              { (advanced vocabulary source (count + 1)).expectAll later with
                matched :=
                  ((advanced vocabulary source (count + 1)).expectAll later).matched + 1 } := by
            simp only [run, expectAll, stepped]
          rw [moved]
          generalize (advanced vocabulary source (count + 1)).expectAll later = rest
            at reached matched outcome
          have further : count + (rest.matched + 1) = count + 1 + rest.matched := by omega
          refine ⟨further ▸ reached, ?_, ?_⟩
          · intro index less
            cases index with
            | zero => exact here.symm
            | succ index =>
                rw [List.getElem?_cons_succ, matched index (Nat.lt_of_succ_lt_succ less)]
                congr 1
                omega
          · simp only [further, List.getElem?_cons_succ, List.length_cons, Nat.add_right_cancel_iff]
            exact outcome

theorem expectAll_advanced_of_current {expected : List Token}
    (current : ∀ index < expected.length,
      expected[index]? = (Summary.ofSource vocabulary source).current? (count + index)) :
    (advanced vocabulary source count).expectAll expected =
      ⟨expected.length, none, advanced vocabulary source (count + expected.length)⟩ := by
  rcases expectAll_advanced vocabulary source count expected with ⟨reached, -, outcome⟩
  generalize (advanced vocabulary source count).expectAll expected = run at reached outcome
  rcases run with ⟨matched, refusal?, scan⟩
  cases refusal? with
  | none =>
      obtain rfl : matched = expected.length := outcome
      rw [show scan = _ from reached]
  | some error =>
      rcases outcome with ⟨asked, found, refused⟩
      have inside := (List.getElem?_eq_some_iff.mp found).1
      rw [Summary.refusal?_eq_none_iff.mpr ((current matched inside).symm.trans found)] at refused
      contradiction

/-- All tokens are there exactly when they are current in turn. -/
theorem refusal?_expectAll_eq_none_iff {expected : List Token} :
    ((advanced vocabulary source count).expectAll expected).refusal? = none ↔
      ∀ index < expected.length,
        expected[index]? = (Summary.ofSource vocabulary source).current? (count + index) := by
  constructor
  · intro all
    rcases expectAll_advanced vocabulary source count expected with ⟨-, matched, outcome⟩
    rw [all] at outcome
    rwa [outcome] at matched
  · intro current
    rw [expectAll_advanced_of_current current]

theorem matched_expectAll_le (expected : List Token) :
    ((advanced vocabulary source count).expectAll expected).matched ≤ expected.length := by
  rcases expectAll_advanced vocabulary source count expected with ⟨-, -, outcome⟩
  split at outcome
  · exact Nat.le_of_eq outcome
  · rcases outcome with ⟨asked, found, -⟩
    exact Nat.le_of_lt (List.getElem?_eq_some_iff.mp found).1

/-- Wherever a run has stopped, requiring the token that is there goes on like
a single run that has required it in the first place. -/
theorem expectAll_resumed (expected later : List Token) {found : Token}
    (there : (Summary.ofSource vocabulary source).current?
      (count + ((advanced vocabulary source count).expectAll expected).matched) = some found) :
    let run := (advanced vocabulary source count).expectAll expected
    let resumed := run.scan.expectAll (found :: later)
    0 < resumed.matched ∧
      (advanced vocabulary source count).expectAll (expected.take run.matched ++ found :: later) =
        { resumed with matched := run.matched + resumed.matched } := by
  intro run resumed
  rcases expectAll_advanced vocabulary source count expected with ⟨reached, matched, -⟩
  have length : (expected.take run.matched).length = run.matched := by
    rw [List.length_take, Nat.min_eq_left (matched_expectAll_le expected)]
  have before : ∀ index < (expected.take run.matched).length,
      (expected.take run.matched)[index]? =
        (Summary.ofSource vocabulary source).current? (count + index) := by
    intro index less
    rw [length] at less
    rw [List.getElem?_take_of_lt less]
    exact matched index less
  have all := expectAll_advanced_of_current before
  rw [length, ← reached] at all
  constructor
  · rw [show resumed = run.scan.expectAll (found :: later) from rfl, reached, expectAll,
      expect_advanced, Summary.refusal?_eq_none_iff.mpr there]
    exact Nat.succ_pos _
  · rw [expectAll_append _ (congrArg Matching.refusal? all), all]

/-- After the first move, the tokens that can be matched in turn are those of
the source and then the last one for good.  The first other token is refused
with the token that is there and with the offset that is reached: behind that
token, and at the end of the source once the last token is matched again.
Requiring the right token instead goes on as if there had been no refusal. -/
theorem expectAll_next_start (vocabulary : Vocabulary) (source : String)
    (expected : List Token) :
    let whole := Summary.ofSource vocabulary source
    let ready := (start vocabulary source).next.2
    let run := ready.expectAll expected
    (run.refusal? = none ↔ expected = [] ∨
      whole.ended ≠ [] ∧ ∀ index < expected.length, expected[index]? = whole.matching? index) ∧
    ∀ error, run.refusal? = some error →
      ∃ asked, expected[run.matched]? = some asked ∧
        (whole.ended = [] ∧ error = .missing source.utf8ByteSize ∨
          ∃ found, whole.matching? run.matched = some found ∧ found ≠ asked ∧
            error = .unexpected
              (whole.ended[run.matched]?.elim source.utf8ByteSize Prod.snd) asked found ∧
            ∀ later,
              let resumed := run.scan.expectAll (found :: later)
              0 < resumed.matched ∧
              ready.expectAll (expected.take run.matched ++ found :: later) =
                { resumed with matched := run.matched + resumed.matched }) := by
  intro whole ready run
  have moved : ready = advanced vocabulary source 1 := rfl
  have current (index : Nat) : whole.current? (1 + index) = whole.matching? index := by
    rw [Nat.add_comm, Summary.current?_succ_eq_matching?]
  constructor
  · have all : run.refusal? = none ↔
        ∀ index < expected.length, expected[index]? = whole.matching? index := by
      simp only [← current]
      exact @refusal?_expectAll_eq_none_iff vocabulary source 1 expected
    rw [all]
    constructor
    · intro each
      by_cases empty : expected = []
      · exact .inl empty
      · refine .inr ⟨fun none => ?_, each⟩
        have first := each 0 (List.length_pos_iff.mpr empty)
        rw [Summary.matching?_eq_none_iff.mpr none, List.getElem?_eq_none_iff] at first
        exact empty (List.length_eq_zero_iff.mp (Nat.le_zero.mp first))
    · rintro (rfl | ⟨-, each⟩)
      · exact fun _ less => absurd less (Nat.not_lt_zero _)
      · exact each
  · intro error refused
    rcases expectAll_advanced vocabulary source 1 expected with ⟨-, -, outcome⟩
    rw [← moved, show ready.expectAll expected = run from rfl, refused] at outcome
    rcases outcome with ⟨asked, found, isRefusal⟩
    have position : whole.position (1 + run.matched) =
        whole.ended[run.matched]?.elim source.utf8ByteSize Prod.snd := by
      rw [Nat.add_comm]
      rfl
    refine ⟨asked, found, ?_⟩
    rw [Summary.refusal?, current, position] at isRefusal
    cases there : whole.matching? run.matched with
    | none =>
        have empty := Summary.matching?_eq_none_iff.mp there
        rw [there, empty] at isRefusal
        exact .inl ⟨empty, (Option.some_inj.mp isRefusal).symm⟩
    | some right =>
        rw [there] at isRefusal
        dsimp only at isRefusal
        split at isRefusal
        · contradiction
        next other =>
            have resumed := fun later => expectAll_resumed expected later ((current _).trans there)
            exact .inr ⟨right, rfl, other, (Option.some_inj.mp isRefusal).symm, resumed⟩

end Scan

end Lexis
