import Lexis.Log.Filter
import Mathlib.Data.List.Induction

/-!
# What a filter decides

Of any two directives one gives way to the other, and so among those that are
for a record there is a last one to which all the others give way.  It is the
one that decides (`directiveFor?_eq_some_iff`), and a record is written when it
lets the record through (`admits_iff`).  The text of a filter is read directive
by directive (`ofText?_append`).
-/

namespace Lexis.Log

/-! ## Giving way -/

namespace Directive

variable {first second third : Directive}

theorem givesWayTo_iff :
    first.givesWayTo second = true ↔
      first.target.utf8ByteSize < second.target.utf8ByteSize ∨
        first.target.utf8ByteSize = second.target.utf8ByteSize ∧
          first.condition.fieldName ≤ second.condition.fieldName := by
  rw [givesWayTo]
  split
  next same =>
      simp only [Bool.not_eq_true', decide_eq_false_iff_not, String.not_lt, same,
        Nat.lt_irrefl, false_or, true_and]
  next differ => simp only [decide_eq_true_iff, differ, false_and, or_false]

theorem givesWayTo_refl (directive : Directive) : directive.givesWayTo directive = true :=
  givesWayTo_iff.mpr (.inr ⟨rfl, String.le_refl _⟩)

theorem givesWayTo_of_eq_false (prevails : first.givesWayTo second = false) :
    second.givesWayTo first = true := by
  rw [Bool.eq_false_iff, Ne, givesWayTo_iff, not_or, not_and] at prevails
  rcases prevails with ⟨notShorter, notBefore⟩
  rw [givesWayTo_iff]
  rcases Nat.lt_or_eq_of_le (Nat.le_of_not_lt notShorter) with shorter | same
  · exact .inl shorter
  · exact .inr ⟨same, (String.le_total _ _).resolve_left (notBefore same.symm)⟩

theorem givesWayTo_trans (near : first.givesWayTo second = true)
    (far : second.givesWayTo third = true) : first.givesWayTo third = true := by
  rw [givesWayTo_iff] at near far ⊢
  rcases near with shorter | ⟨same, before⟩
  · rcases far with further | ⟨equal, -⟩
    · exact .inl (Nat.lt_trans shorter further)
    · exact .inl (equal ▸ shorter)
  · rcases far with further | ⟨equal, behind⟩
    · exact .inl (same ▸ further)
    · exact .inr ⟨same.trans equal, String.le_trans before behind⟩

theorem exists_prevailing (held? : Option Directive) (next : Directive) :
    ∃ winner, prevailing held? next = some winner ∧ next.givesWayTo winner = true ∧
      ∀ held ∈ held?, held.givesWayTo winner = true := by
  rw [prevailing]
  split
  next all => exact ⟨next, rfl, givesWayTo_refl next, (Option.all_eq_true ..).mp all⟩
  next notAll =>
      cases held? with
      | none => contradiction
      | some held =>
          refine ⟨held, rfl, givesWayTo_of_eq_false (Bool.eq_false_iff.mpr notAll), ?_⟩
          rintro _ ⟨⟩
          exact givesWayTo_refl held

end Directive

/-! ## The directive that decides -/

namespace Filter

open Directive

variable {directives : List Directive} {directive other : Directive} {record : Record}

theorem directiveFor?_append_singleton (earlier : List Directive) (next : Directive)
    (record : Record) :
    directiveFor? ⟨earlier ++ [next]⟩ record =
      if next.covers record then prevailing (directiveFor? ⟨earlier⟩ record) next
      else directiveFor? ⟨earlier⟩ record := by
  rw [directiveFor?, List.filter_append, List.foldl_append, List.filter_cons, List.filter_nil]
  split <;> rfl

/-- Where a directive is for a record, one decides to which it gives way. -/
theorem exists_directiveFor? (found : other ∈ directives) (covers : other.covers record = true) :
    ∃ winner, directiveFor? ⟨directives⟩ record = some winner ∧
      other.givesWayTo winner = true := by
  induction directives using List.reverseRecOn with
  | nil => contradiction
  | append_singleton earlier next inductionHypothesis =>
      rw [directiveFor?_append_singleton]
      rcases exists_prevailing (directiveFor? ⟨earlier⟩ record) next with
        ⟨winner, prevails, nextGivesWay, heldGivesWay⟩
      rcases List.mem_append.mp found with here | last
      · rcases inductionHypothesis here with ⟨held, decides, givesWay⟩
        split
        · exact ⟨winner, prevails, givesWayTo_trans givesWay (heldGivesWay held decides)⟩
        · exact ⟨held, decides, givesWay⟩
      · obtain rfl := List.mem_singleton.mp last
        rw [if_pos covers]
        exact ⟨winner, prevails, nextGivesWay⟩

/-- A directive decides about a record when it is for the record, all earlier
ones that are for it give way, and it gives way to none of the later ones. -/
def Decides (directives : List Directive) (record : Record) (directive : Directive) : Prop :=
  ∃ earlier later, directives = earlier ++ directive :: later ∧
    directive.covers record = true ∧
    (∀ other ∈ earlier, other.covers record = true → other.givesWayTo directive = true) ∧
    ∀ other ∈ later, other.covers record = true → directive.givesWayTo other = false

theorem Decides.append_singleton {next : Directive} (decides : Decides directives record directive)
    (stays : next.covers record = true → directive.givesWayTo next = false) :
    Decides (directives ++ [next]) record directive := by
  rcases decides with ⟨earlier, later, rfl, covers, before, behind⟩
  refine ⟨earlier, later ++ [next], List.append_assoc .., covers, before, ?_⟩
  intro other found
  rcases List.mem_append.mp found with here | last
  · exact behind other here
  · obtain rfl := List.mem_singleton.mp last
    exact stays

theorem decides_of_directiveFor? (found : directiveFor? ⟨directives⟩ record = some directive) :
    Decides directives record directive := by
  induction directives using List.reverseRecOn generalizing directive with
  | nil => contradiction
  | append_singleton earlier next inductionHypothesis =>
      rw [directiveFor?_append_singleton] at found
      split at found
      next covers =>
          rw [prevailing] at found
          split at found
          next all =>
              obtain rfl := Option.some_inj.mp found
              refine ⟨earlier, [], rfl, covers, ?_, List.forall_mem_nil _⟩
              intro other here isFor
              rcases exists_directiveFor? here isFor with ⟨held, decides, givesWay⟩
              exact givesWayTo_trans givesWay ((Option.all_eq_true ..).mp all held decides)
          next notAll =>
              apply (inductionHypothesis found).append_singleton
              intro _
              rwa [found, Option.all_some, Bool.not_eq_true] at notAll
      next spares =>
          exact (inductionHypothesis found).append_singleton fun covers => absurd covers spares

/-- One directive at most decides, and it is the one that the filter finds. -/
theorem directiveFor?_eq_some_iff :
    directiveFor? ⟨directives⟩ record = some directive ↔ Decides directives record directive := by
  constructor
  · exact decides_of_directiveFor?
  · rintro ⟨earlier, later, rfl, covers, before, behind⟩
    induction later using List.reverseRecOn with
    | nil =>
        have all : (directiveFor? ⟨earlier⟩ record).all (·.givesWayTo directive) = true := by
          rw [Option.all_eq_true]
          intro held found
          rcases decides_of_directiveFor? found with ⟨first, last, rfl, isFor, -⟩
          exact before held (List.mem_append_right first List.mem_cons_self) isFor
        rw [directiveFor?_append_singleton, if_pos covers, prevailing, if_pos all]
    | append_singleton later next inductionHypothesis =>
        rw [← List.cons_append, ← List.append_assoc, directiveFor?_append_singleton,
          inductionHypothesis fun other found => behind other (List.mem_append_left _ found)]
        split
        next isFor =>
            have stays := behind next (List.mem_append_right _ List.mem_cons_self) isFor
            rw [prevailing, Option.all_some, stays, if_neg Bool.false_ne_true]
        next => rfl

theorem admits_iff :
    admits ⟨directives⟩ record = true ↔
      ∃ directive, Decides directives record directive ∧
        directive.threshold.admits record.severity = true := by
  rw [admits, Option.any_eq_true]
  simp only [directiveFor?_eq_some_iff]

/-! ## Reading -/

/-- A filter is read on both sides of a comma, and holds what is read there. -/
theorem ofText?_append (first second : String) :
    ofText? (first ++ "," ++ second) = (do
      let left ← ofText? first
      let right ← ofText? second
      return ⟨left.directives ++ right.directives⟩) := by
  have divided : Text.pieces ',' (first ++ "," ++ second) =
      Text.pieces ',' first ++ Text.pieces ',' second := Text.pieces_append ',' first second
  rw [ofText?, divided, List.filter_append, List.mapM_append, ofText?, ofText?]
  cases ((Text.pieces ',' first).filter (! ·.isEmpty)).mapM Directive.ofText? with
  | none => rfl
  | some left =>
      cases ((Text.pieces ',' second).filter (! ·.isEmpty)).mapM Directive.ofText? with
      | none => rfl
      | some right => rfl

end Filter

end Lexis.Log
