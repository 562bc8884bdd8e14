import Lexis.Proofs.Scan.Recasting
import Lexis.Proofs.Scan.Spaced
import Lexis.Proofs.Scan.Summary

/-!
# Only live entries matter

What a scan finds in a source depends on the live entries of its vocabulary
and on nothing else that is registered.  Every live entry can be told from a
scan: there is a source on which a vocabulary without it finds something else
(`summary_eq_iff_live`).
-/

namespace Lexis

open Text Segment

/-- The keyword that is spelled like the kind of identifiers is no different
from an identifier. -/
theorem Vocabulary.word_identifierKind (vocabulary : Vocabulary) :
    vocabulary.word Token.identifierKind = .identifier Token.identifierKind := by
  unfold word
  split <;> rfl

namespace Segment

variable {left right : Vocabulary} {segment : Segment} {chars rest : List Char}

/-! ## The same live entries, the same events -/

section SameLive

variable (same : ∀ entry, left.Live entry ↔ right.Live entry)
include same

theorem liveOperator_congr (spelling : List Char) :
    left.LiveOperator spelling ↔ right.LiveOperator spelling := by
  have live := same (.operator (String.ofList spelling))
  rwa [Vocabulary.Live, Vocabulary.Live, String.toList_ofList] at live

theorem word_congr (spells : Vocabulary.SpellsWord chars) :
    left.word (String.ofList chars) = right.word (String.ofList chars) := by
  have keyword := same (.keyword (String.ofList chars))
  have spells : Vocabulary.SpellsWord (String.ofList chars).toList := by
    rwa [String.toList_ofList]
  by_cases kind : String.ofList chars = Token.identifierKind
  · rw [kind, Vocabulary.word_identifierKind, Vocabulary.word_identifierKind]
  · have registered : left.hasKeyword (String.ofList chars) =
        right.hasKeyword (String.ofList chars) := by
      rw [Bool.eq_iff_iff]
      exact ⟨fun registered => (keyword.mp ⟨registered, spells, kind⟩).registered,
        fun registered => (keyword.mpr ⟨registered, spells, kind⟩).registered⟩
    rw [Vocabulary.word, Vocabulary.word, registered]

theorem event?_congr (begins : Begins left segment rest) (start stop : Nat) :
    segment.event? right start stop = segment.event? left start stop := by
  cases begins with
  | word letter longest =>
      rw [event?_word, event?_word, word_congr same ⟨letter, longest.all_accepted⟩]
  | _ => rfl

/-- Vocabularies with the same live entries cut every text alike and take the
segments for the same things. -/
theorem recasts_of_live : Recasts left right id id := by
  refine recasts_of_liveOperator (liveOperator_congr same) fun begins start stop => ?_
  rw [event?_congr same begins, Option.map_id, id_eq]

end SameLive

end Segment

namespace Scan

variable {vocabulary : Vocabulary} {segment : Segment} {chars rest : List Char}
  {entry : Vocabulary.Entry}

/-! ## Every live entry shows in a scan -/

theorem mem_tokens_of_begins {token : Token} {stop : Nat}
    (begins : Begins vocabulary segment rest)
    (isToken : segment.event? vocabulary 0 (0 + segment.size) = some (.token token stop)) :
    token ∈ (ofSource vocabulary (String.ofList (segment.text ++ rest))).tokens := by
  rw [tokens, toList_journal_ofSource, String.toList_ofList, begins.segments_eq, events, isToken]
  exact List.mem_cons_self

theorem word_mem_tokens (vocabulary : Vocabulary) (spells : Vocabulary.SpellsWord chars) :
    vocabulary.word (String.ofList chars) ∈
      (ofSource vocabulary (String.ofList (chars ++ []))).tokens := by
  rcases spells with ⟨letter, allAlphanumeric⟩
  exact mem_tokens_of_begins (.word letter ⟨allAlphanumeric, by simp⟩) rfl

/-- A live operator is read from its spelling, and a pair needs a character
behind it. -/
theorem exists_symbol_mem_tokens (live : vocabulary.LiveOperator chars) :
    ∃ behind, .symbol (String.ofList chars) ∈
      (ofSource vocabulary (String.ofList (chars ++ behind))).tokens := by
  cases live with
  | single plain single =>
      exact ⟨[], mem_tokens_of_begins (.single plain single (by simp)) rfl⟩
  | pair live pair =>
      rcases live with ⟨plain, single⟩
      exact ⟨[' '], mem_tokens_of_begins (.pair plain single pair (List.cons_ne_nil _ _)) rfl⟩

/-- Some source holds the token of a live entry. -/
theorem exists_mem_tokens_of_live (live : vocabulary.Live entry) :
    ∃ source, .symbol entry.spelling ∈ (ofSource vocabulary source).tokens := by
  cases entry with
  | keyword spelling =>
      have handed := word_mem_tokens vocabulary live.spellsWord
      rw [String.ofList_toList, Vocabulary.word, if_pos live.registered] at handed
      exact ⟨_, handed⟩
  | operator spelling =>
      rcases exists_symbol_mem_tokens live with ⟨behind, handed⟩
      rw [String.ofList_toList] at handed
      exact ⟨_, handed⟩

end Scan

namespace Summary

variable {left right : Vocabulary}

/-- A live entry is registered wherever all sources give the same. -/
theorem has_of_live (agree : ∀ source, ofSource left source = ofSource right source)
    {entry : Vocabulary.Entry} (live : left.Live entry) : right.Has entry := by
  rcases Scan.exists_mem_tokens_of_live live with ⟨source, handed⟩
  rw [← map_fst_ended, agree, map_fst_ended] at handed
  have legal : right.Legal (.symbol entry.spelling) := Scan.legal_of_mem_tokens handed
  cases entry with
  | keyword spelling =>
      rcases legal.of_symbol with ⟨-, registered | kind⟩ | operator
      · exact registered
      · exact absurd kind live.ne_identifierKind
      · exact absurd live.spellsWord operator.not_spellsWord
  | operator spelling =>
      rcases legal.of_symbol with ⟨spells, -⟩ | operator
      · exact absurd spells (Vocabulary.LiveOperator.not_spellsWord live)
      · have stays : right.Live (.operator spelling) := operator
        exact stays.has

theorem ofSource_congr (same : ∀ entry, left.Live entry ↔ right.Live entry) (source : String) :
    ofSource left source = ofSource right source := by
  have journals := (recasts_of_live same).toList_journal_eq source
  rw [List.map_id] at journals
  rw [ofSource, ofSource, Scan.warnings, Scan.warnings, journals]

/-- Two vocabularies give the same tokens, offsets and warnings on every source
exactly when the same entries are live in both.  So, over one base, neither the
order of registering nor repetition nor any dead entry matters: it is enough
that the live entries of each side are registered on the other. -/
theorem summary_eq_iff_live (base other : Vocabulary) (entries others : List Vocabulary.Entry) :
    ((∀ source, ofSource (base.registerAll entries) source =
        ofSource (other.registerAll others) source) ↔
      ∀ entry, (base.registerAll entries).Live entry ↔ (other.registerAll others).Live entry) ∧
    ((∀ entry ∈ entries, (base.registerAll entries).Live entry → entry ∈ others) →
      (∀ entry ∈ others, (base.registerAll others).Live entry → entry ∈ entries) →
      ∀ source, ofSource (base.registerAll entries) source =
        ofSource (base.registerAll others) source) := by
  have stays {first second : List Vocabulary.Entry}
      (kept : ∀ entry ∈ first, (base.registerAll first).Live entry → entry ∈ second) :
      ∀ entry, (base.registerAll first).Live entry → (base.registerAll second).Live entry := by
    intro entry
    refine .of_has fun entry live => ?_
    rw [Vocabulary.has_registerAll_iff]
    exact ((Vocabulary.has_registerAll_iff _ _).mp live.has).imp_left (kept entry · live)
  refine ⟨⟨fun agree entry => ?_, ofSource_congr⟩, fun forth back => ?_⟩
  · exact ⟨.of_has fun _ => has_of_live agree,
      .of_has fun _ => has_of_live fun source => (agree source).symm⟩
  · exact ofSource_congr fun entry => ⟨stays forth entry, stays back entry⟩

/-- A character of two bytes, a pair that begins with a digit and a pair whose
first character is no operator are all dead. -/
theorem summary_eq_of_dead_entries :
    let entries : List Vocabulary.Entry := [.operator "é", .keyword "if"]
    let others : List Vocabulary.Entry :=
      [.keyword "if", .operator "1a", .operator "?!", .keyword "if"]
    (∀ entry ∈ entries, (Vocabulary.arithmetic.registerAll entries).Live entry →
      entry ∈ others) ∧
    (∀ entry ∈ others, (Vocabulary.arithmetic.registerAll others).Live entry →
      entry ∈ entries) ∧
    ∀ source, ofSource (Vocabulary.arithmetic.registerAll entries) source =
      ofSource (Vocabulary.arithmetic.registerAll others) source := by
  intro entries others
  have forth : ∀ entry ∈ entries, (Vocabulary.arithmetic.registerAll entries).Live entry →
      entry ∈ others := by
    simp only [entries, List.forall_mem_cons]
    refine ⟨fun live => ?_, fun _ => List.mem_cons_self, List.forall_mem_nil _⟩
    have operator : isOperator _ ['é'] = true := Vocabulary.LiveOperator.isOperator live
    exact absurd operator (by decide +kernel)
  have back : ∀ entry ∈ others, (Vocabulary.arithmetic.registerAll others).Live entry →
      entry ∈ entries := by
    have keyword : Vocabulary.Entry.keyword "if" ∈ entries :=
      List.mem_cons_of_mem _ List.mem_cons_self
    simp only [others, List.forall_mem_cons]
    refine ⟨fun _ => keyword, fun live => ?_, fun live => ?_, fun _ => keyword,
      List.forall_mem_nil _⟩
    · rcases Vocabulary.liveOperator_pair_iff.mp live with ⟨⟨plain, -⟩, -⟩
      exact absurd plain.notDigit (by decide)
    · rcases Vocabulary.liveOperator_pair_iff.mp live with ⟨single, -⟩
      exact absurd single.isOperator (by decide +kernel)
  exact ⟨forth, back,
    (summary_eq_iff_live .arithmetic .arithmetic entries others).2 forth back⟩

end Summary

end Lexis
