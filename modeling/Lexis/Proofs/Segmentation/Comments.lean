import Lexis.Proofs.Segmentation.Continuing
import Mathlib.Data.List.SplitBy

/-!
# Commented-out text

Where no operator contains a mark, the runs of marks alone decide which text
is commented out.  A text is split into its longest runs of marks and the
stretches between them (`pieces`); each run leads out of a comment or into one
(`Side.behind`), and a stretch is read exactly when it lies outside
(`readsAs_pieces`).
-/

namespace Lexis

open Text Segment

/-! ## Inside and outside -/

/-- Whether text lies outside comments, or inside one that so many marks
opened. -/
inductive Side where
  | outside
  | inside (width : Nat)
  deriving DecidableEq

namespace Side

/-- Whether the side is a comment. -/
def isInside : Side → Bool
  | outside => false
  | inside _ => true

/-- The side behind a run of marks.  A comment is closed by at most as many
marks as opened it, and the marks that are left over open another one. -/
def behind : Side → Nat → Side
  | outside, run => inside run
  | inside width, run => if run ≤ width then outside else inside (run - width)

/-- The side behind a run of marks or a stretch without marks. -/
def past (side : Side) (piece : List Char) : Side :=
  if mark ∈ piece then side.behind piece.length else side

/-- The side behind several pieces. -/
def pastAll (side : Side) (pieces : List (List Char)) : Side :=
  pieces.foldl past side

/-- The stretches that are entered outside comments, each with the offset at
which it begins. -/
def stretches (side : Side) (offset : Nat) : List (List Char) → List (Nat × List Char)
  | [] => []
  | piece :: later =>
      (if mark ∉ piece ∧ side = outside then [(offset, piece)] else []) ++
        (side.past piece).stretches (offset + byteSize piece) later

end Side

namespace Segment

/-! ## Runs of marks and the stretches between them -/

/-- Whether two characters are both marks or both none. -/
def alike (first second : Char) : Bool :=
  (first == mark) == (second == mark)

/-- The longest runs of marks of a text and the stretches between them. -/
def pieces (chars : List Char) : List (List Char) :=
  chars.splitBy alike

/-- Pieces in turn: runs of marks that no mark follows, and stretches without
marks that only a mark follows. -/
inductive Alternating : List (List Char) → Prop
  | nil : Alternating []
  | run {count : Nat} {later : List (List Char)} :
      0 < count → mark ∉ later.flatten.head? → Alternating later →
      Alternating (List.replicate count mark :: later)
  | stretch {piece : List Char} {later : List (List Char)} :
      piece ≠ [] → mark ∉ piece → (∀ char ∈ later.flatten.head?, char = mark) →
      Alternating later → Alternating (piece :: later)

theorem alike_iff {first second : Char} :
    alike first second = true ↔ (first = mark ↔ second = mark) := by
  rw [alike, beq_iff_eq, Bool.eq_iff_iff, beq_iff_eq, beq_iff_eq]

/-- All characters of a piece are like its first one. -/
theorem eq_mark_iff_of_isChain {first char : Char} {others : List Char}
    (chain : (first :: others).IsChain fun left right => alike left right = true)
    (found : char ∈ first :: others) : first = mark ↔ char = mark := by
  induction others generalizing first with
  | nil => rw [List.mem_singleton.mp found]
  | cons second others inductionHypothesis =>
      rcases List.isChain_cons_cons.mp chain with ⟨same, later⟩
      rcases List.mem_cons.mp found with rfl | behind
      · rfl
      · exact (alike_iff.mp same).trans (inductionHypothesis later behind)

/-- Splitting where marks begin or end makes pieces in turn. -/
theorem alternating_of_isChain {pieces : List (List Char)} (notEmpty : [] ∉ pieces)
    (uniform : ∀ piece ∈ pieces, piece.IsChain fun left right => alike left right = true)
    (turns : pieces.IsChain fun left right =>
      ∃ someLeft someRight, alike (left.getLast someLeft) (right.head someRight) = false) :
    Alternating pieces := by
  induction pieces with
  | nil => exact .nil
  | cons piece later inductionHypothesis =>
      obtain ⟨first, others, rfl⟩ :=
        List.exists_cons_of_ne_nil (Ne.symm (List.ne_of_not_mem_cons notEmpty))
      rcases List.forall_mem_cons.mp uniform with ⟨here, uniformLater⟩
      have alternating := inductionHypothesis (List.not_mem_of_not_mem_cons notEmpty)
        uniformLater turns.tail
      have unlike : ∀ char ∈ later.flatten.head?, (first = mark ↔ char ≠ mark) := by
        intro char next
        cases later with
        | nil => contradiction
        | cons other more =>
            rcases (List.isChain_cons_cons.mp turns).1 with ⟨someLeft, someRight, differ⟩
            obtain ⟨second, rest, rfl⟩ := List.exists_cons_of_ne_nil someRight
            obtain rfl : second = char := Option.some_inj.mp next
            have last := eq_mark_iff_of_isChain here (List.getLast_mem someLeft)
            rw [← Bool.not_eq_true, alike_iff, List.head_cons, ← last] at differ
            tauto
      have same : ∀ char ∈ first :: others, (first = mark ↔ char = mark) :=
        fun _ => eq_mark_iff_of_isChain here
      by_cases marked : first = mark
      · have run : first :: others = List.replicate (first :: others).length mark :=
          List.eq_replicate_iff.mpr ⟨rfl, fun char found => (same char found).mp marked⟩
        rw [run]
        exact .run (Nat.succ_pos _) (fun next => (unlike mark next).mp marked rfl) alternating
      · refine .stretch (List.cons_ne_nil _ _) (fun found => marked ((same mark found).mpr rfl))
          (fun char next => ?_) alternating
        by_contra other
        exact marked ((unlike char next).mpr other)

theorem alternating_pieces (chars : List Char) : Alternating (pieces chars) :=
  alternating_of_isChain (List.nil_notMem_splitBy _ _) (fun _ => List.isChain_of_mem_splitBy)
    (List.isChain_getLast_head_splitBy _ _)

/-! ## Segments of the pieces -/

variable {vocabulary : Vocabulary} {piece rest : List Char} {width run : Nat}

/-- A stretch without marks is cut on its own, up to a mark or the end. -/
theorem segments_stretch (unpaired : vocabulary.Unpaired) (noMark : mark ∉ piece)
    (stops : ∀ char ∈ rest.head?, char = mark) :
    segments vocabulary (piece ++ rest) =
      segments vocabulary piece ++ segments vocabulary rest := by
  apply segments_append
  intro segment after suffix begins
  have noMark : mark ∉ segment.text := fun found =>
    noMark (suffix.subset (List.mem_append_left _ found))
  apply begins.append
  · intro _ char next
    rw [stops char next]
    cases begins with
    | single => exact unpaired.isOperator_pair _ _
    | comment _ positive => simp [text, Nat.ne_of_gt positive] at noMark
    | _ => rfl
  · intro char second _ _ _
    exact unpaired.isOperator_pair char second

/-- Marks and a body without marks begin a comment if nothing but marks is
behind them. -/
theorem begins_comment_of_body {opening closing : Nat} {body : List Char}
    (notOperator : isOperator vocabulary [mark] = false) (positive : 0 < opening)
    (noMark : mark ∉ body) (atMost : closing ≤ opening)
    (ends : ∀ char ∈ (List.replicate closing mark ++ rest).head?, char = mark ∧ body ≠ [])
    (all : closing < opening → mark ∉ rest.head?) :
    Begins vocabulary (comment opening body closing) rest := by
  refine .comment notOperator positive ⟨by simp, ?_⟩ ⟨?_, ?_⟩ atMost all
  · intro char next
    rw [beq_eq_false_iff_ne]
    rintro rfl
    cases body with
    | nil => exact absurd rfl (ends mark next).2
    | cons first others => exact noMark (List.mem_of_mem_head? next)
  · intro char found
    rw [bne_iff_ne]
    rintro rfl
    exact noMark found
  · intro char next
    simp [(ends char next).1]

/-- A body between two runs of marks makes a comment, and so does a body that
ends the text.  Marks beyond the width are left over. -/
theorem begins_comment (notOperator : isOperator vocabulary [mark] = false) (positive : 0 < width)
    (noMark : mark ∉ piece) (bodied : piece = [] → run = 0) (ended : run = 0 → rest = [])
    (longest : mark ∉ rest.head?) :
    Begins vocabulary (comment width piece (min width run))
      (List.replicate (run - width) mark ++ rest) := by
  apply begins_comment_of_body notOperator positive noMark (Nat.min_le_left ..)
  · intro char next
    cases run with
    | zero =>
        obtain rfl := ended rfl
        simp at next
    | succ more =>
        obtain ⟨less, rfl⟩ := Nat.exists_eq_succ_of_ne_zero (Nat.ne_of_gt positive)
        rw [Nat.succ_min_succ, List.replicate_succ] at next
        exact ⟨(Option.some_inj.mp next).symm, fun empty => Nat.succ_ne_zero more (bodied empty)⟩
  · intro short
    have nothing : run - width = 0 := by omega
    rwa [nothing]

/-- Marks around a body are cut into the comment and the marks left over. -/
theorem segments_comment (notOperator : isOperator vocabulary [mark] = false) (positive : 0 < width)
    (noMark : mark ∉ piece) (bodied : piece = [] → run = 0) (ended : run = 0 → rest = [])
    (longest : mark ∉ rest.head?) :
    segments vocabulary
        (List.replicate width mark ++ piece ++ (List.replicate run mark ++ rest)) =
      comment width piece (min width run) ::
        segments vocabulary (List.replicate (run - width) mark ++ rest) := by
  have whole : List.replicate width mark ++ piece ++ (List.replicate run mark ++ rest) =
      (comment width piece (min width run)).text ++
        (List.replicate (run - width) mark ++ rest) := by
    have marks : run = min width run + (run - width) := by omega
    conv => lhs; rw [marks, List.replicate_add]
    simp only [text, List.append_assoc]
  rw [whole]
  exact (begins_comment notOperator positive noMark bodied ended longest).segments_eq

/-- Whether a segment is a comment that no mark closes. -/
def isUnclosed : Segment → Bool
  | comment _ _ closing => closing == 0
  | _ => false

/-- Nothing is behind a comment that no mark closes. -/
theorem Begins.eq_nil_of_isUnclosed {segment : Segment} (begins : Begins vocabulary segment rest)
    (unclosed : segment.isUnclosed = true) : rest = [] := by
  cases begins with
  | comment _ positive _ bodied _ all =>
      obtain rfl := eq_of_beq unclosed
      cases rest with
      | nil => rfl
      | cons char others =>
          have marked : char = mark := by simpa using bodied.stops char rfl
          exact absurd (congrArg some marked) (all positive)
  | _ => contradiction

theorem any_isUnclosed_eq_false {chars : List Char} {found : List Segment}
    (segmented : Segmentation vocabulary chars found) (noMark : mark ∉ chars) :
    found.any isUnclosed = false := by
  induction segmented with
  | nil => rfl
  | @cons segment after later begins _ inductionHypothesis =>
      rw [List.mem_append, not_or] at noMark
      have closed : isUnclosed segment = false := by
        cases begins with
        | comment _ positive => simp [text, Nat.ne_of_gt positive] at noMark
        | _ => rfl
      rw [List.any_cons, closed, inductionHypothesis noMark.2, Bool.or_false]

/-! ## Reading the pieces -/

/-- What begins a text whose later pieces lie on a side: nothing outside, and
inside as many marks as opened the comment with the part of its body that is
already known. -/
inductive Opens : Side → List Char → List Char → Prop
  | outside {rest : List Char} : Opens .outside [] rest
  | inside {width : Nat} {body rest : List Char} :
      0 < width → mark ∉ body → (body = [] → mark ∉ rest.head?) →
      Opens (.inside width) (List.replicate width mark ++ body) rest

/-- A comment that was opened by the given number of marks is open. -/
theorem opens_replicate (positive : 0 < width) (longest : mark ∉ rest.head?) :
    Opens (.inside width) (List.replicate width mark) rest := by
  rw [← List.append_nil (List.replicate width mark)]
  exact .inside positive List.not_mem_nil fun _ => longest

/-- Marks beyond the width of a comment open another one. -/
theorem opens_behind_inside (longest : mark ∉ rest.head?) :
    Opens ((Side.inside width).behind run) (List.replicate (run - width) mark) rest := by
  rw [Side.behind]
  split
  next closed =>
      rw [Nat.sub_eq_zero_of_le closed]
      exact .outside
  next => exact opens_replicate (by omega) longest

section Seeing

variable {α : Type} {see : Event → Option α}

/-- A text whose front puts its pieces on a side is read like these pieces:
what is seen of its events, other than comments, is what is seen of the
stretches outside, and there is an unclosed comment exactly when the pieces end
inside. -/
def ReadsAs (vocabulary : Vocabulary) (see : Event → Option α) (side : Side)
    (opened : List Char) (pieces : List (List Char)) : Prop :=
  (∀ offset,
    (events vocabulary offset (segments vocabulary (opened ++ pieces.flatten))).filterMap see =
      (side.stretches (offset + byteSize opened) pieces).flatMap fun stretch =>
        (events vocabulary stretch.1 (segments vocabulary stretch.2)).filterMap see) ∧
  (segments vocabulary (opened ++ pieces.flatten)).any isUnclosed = (side.pastAll pieces).isInside

variable {side : Side} {opened : List Char} {later : List (List Char)} {count : Nat}

/-- Behind the last piece there is nothing, or a comment that is not closed. -/
theorem readsAs_nil (unseen : ∀ start stop, see (.comment start stop) = none)
    (notOperator : isOperator vocabulary [mark] = false) (opens : Opens side opened []) :
    ReadsAs vocabulary see side opened [] := by
  cases opens with
  | outside =>
      rw [ReadsAs, List.flatten_nil, List.append_nil, segments]
      exact ⟨fun _ => rfl, rfl⟩
  | @inside width body _ positive noMark =>
      have cut : segments vocabulary (List.replicate width mark ++ body ++
          (List.replicate 0 mark ++ [])) = _ :=
        segments_comment notOperator positive noMark (fun _ => rfl) (fun _ => rfl) (by simp)
      rw [Nat.min_zero, Nat.zero_sub, List.replicate_zero, List.append_nil, List.append_nil,
        segments] at cut
      rw [ReadsAs, List.flatten_nil, List.append_nil, cut]
      refine ⟨fun offset => ?_, rfl⟩
      rw [events, event?, Option.toList_some, List.singleton_append,
        List.filterMap_cons_none (unseen _ _)]
      rfl

/-- A run of marks leads to the side behind it. -/
theorem readsAs_run (unseen : ∀ start stop, see (.comment start stop) = none)
    (notOperator : isOperator vocabulary [mark] = false) (positive : 0 < count)
    (longest : mark ∉ later.flatten.head?)
    (behind : ∀ {side opened}, Opens side opened later.flatten →
      ReadsAs vocabulary see side opened later)
    (opens : Opens side opened (List.replicate count mark :: later).flatten) :
    ReadsAs vocabulary see side opened (List.replicate count mark :: later) := by
  have marked : mark ∈ List.replicate count mark :=
    List.mem_replicate.mpr ⟨Nat.ne_of_gt positive, rfl⟩
  have passed : side.past (List.replicate count mark) = side.behind count := by
    rw [Side.past, if_pos marked, List.length_replicate]
  have noStretch : ¬ (mark ∉ List.replicate count mark ∧ side = .outside) := fun both =>
    both.1 marked
  simp only [ReadsAs, Side.stretches, if_neg noStretch, List.nil_append, passed, Side.pastAll,
    List.foldl_cons, List.flatten_cons, byteSize_replicate Event.mark_ascii]
  cases opens with
  | outside =>
      have read := behind (opens_replicate positive longest)
      simp only [ReadsAs, byteSize_replicate Event.mark_ascii] at read
      exact read
  | @inside width body _ wide noMark bodied =>
      have next : mark ∈ (List.replicate count mark :: later).flatten.head? := by
        obtain ⟨less, rfl⟩ := Nat.exists_eq_succ_of_ne_zero (Nat.ne_of_gt positive)
        rfl
      have cut := segments_comment notOperator wide noMark (fun empty => absurd next (bodied empty))
        (fun none => absurd none (Nat.ne_of_gt positive)) longest
      have leftOver : Opens ((Side.inside width).behind count)
          (List.replicate (count - width) mark) later.flatten := opens_behind_inside longest
      have read := behind leftOver
      rw [cut, List.any_cons]
      constructor
      · intro offset
        have size : offset + (width + byteSize body + min width count) + (count - width) =
            offset + byteSize (List.replicate width mark ++ body) + count := by
          rw [byteSize_append, byteSize_replicate Event.mark_ascii]
          omega
        rw [events, event?, Option.toList_some, List.singleton_append,
          List.filterMap_cons_none (unseen _ _), read.1, Event.size_comment,
          byteSize_replicate Event.mark_ascii, size]
      · have closed : isUnclosed (comment width body (min width count)) = false := by
          rw [isUnclosed, beq_eq_false_iff_ne]
          omega
        rw [closed, Bool.false_or]
        exact read.2

/-- A stretch is read outside, and belongs to the comment inside. -/
theorem readsAs_stretch (unpaired : vocabulary.Unpaired) (notEmpty : piece ≠ [])
    (noMark : mark ∉ piece) (stops : ∀ char ∈ later.flatten.head?, char = mark)
    (behind : ∀ {side opened}, Opens side opened later.flatten →
      ReadsAs vocabulary see side opened later)
    (opens : Opens side opened (piece :: later).flatten) :
    ReadsAs vocabulary see side opened (piece :: later) := by
  have passed : side.past piece = side := if_neg noMark
  simp only [ReadsAs, Side.stretches, passed, Side.pastAll, List.foldl_cons, List.flatten_cons]
  cases opens with
  | outside =>
      have read := behind .outside
      simp only [ReadsAs, List.nil_append, byteSize_nil, Nat.add_zero] at read
      rw [List.nil_append, segments_stretch unpaired noMark stops, List.any_append,
        any_isUnclosed_eq_false (segmentation_segments ..) noMark, Bool.false_or]
      refine ⟨fun offset => ?_, read.2⟩
      rw [events_append, flatMap_text_segments, List.filterMap_append, read.1,
        if_pos ⟨noMark, rfl⟩]
      rfl
  | @inside width body _ wide bodyNoMark bodied =>
      have longer : Opens (.inside width) (List.replicate width mark ++ (body ++ piece))
          later.flatten := .inside wide (by simp [bodyNoMark, noMark]) (by simp [notEmpty])
      have read := behind longer
      have outside : ¬ (mark ∉ piece ∧ Side.inside width = .outside) := fun both => by
        cases both.2
      have whole : List.replicate width mark ++ body ++ (piece ++ later.flatten) =
          List.replicate width mark ++ (body ++ piece) ++ later.flatten := by
        simp only [List.append_assoc]
      rw [whole]
      refine ⟨fun offset => ?_, read.2⟩
      rw [read.1, if_neg outside, List.nil_append, ← List.append_assoc, byteSize_append _ piece,
        Nat.add_assoc]

/-- A text is read like its pieces. -/
theorem readsAs_pieces (unseen : ∀ start stop, see (.comment start stop) = none)
    (unpaired : vocabulary.Unpaired) (notOperator : isOperator vocabulary [mark] = false)
    {pieces : List (List Char)} (alternating : Alternating pieces)
    (opens : Opens side opened pieces.flatten) : ReadsAs vocabulary see side opened pieces := by
  induction alternating generalizing side opened with
  | nil => exact readsAs_nil unseen notOperator opens
  | run positive longest _ inductionHypothesis =>
      exact readsAs_run unseen notOperator positive longest inductionHypothesis opens
  | stretch notEmpty noMark stops _ inductionHypothesis =>
      exact readsAs_stretch unpaired notEmpty noMark stops inductionHypothesis opens

end Seeing

end Segment

end Lexis
