import Lexis.CommandLine
import Lexis.Proofs.Dump
import Lexis.Proofs.Scan.Continuing

/-!
# Runs of the command

The arguments refuse to say what to dump, or they ask for help, or they select
a source: themselves or the text of a file.  A run fails exactly on the first
(`runUnder_of_refused`), and otherwise dumps all that it selects, wherever the
source comes from and whatever the log filter is (`run_outcome`).
-/

namespace Lexis

open Log

/-! ## The log lines of a dump -/

namespace Warning

/-- The log line of a warning. -/
def line (warning : Warning) : String :=
  " WARN mini_lexer: " ++ warning.message ++ " pos=" ++ toString warning.position ++
    " ch=" ++ Text.quoted warning.character

theorem line_record_illegal (warning : Warning) :
    (Event.illegal warning).record.line = warning.line := by
  have label (rest : String) :
      " WARN" ++ (" " ++ ("mini_lexer" ++ (": " ++ rest))) = " WARN mini_lexer: " ++ rest := by
    simp only [← String.append_assoc, String.reduceAppend]
  have position (rest : String) : " " ++ ("pos" ++ ("=" ++ rest)) = " pos=" ++ rest := by
    simp only [← String.append_assoc, String.reduceAppend]
  have character (rest : String) : " " ++ ("ch" ++ ("=" ++ rest)) = " ch=" ++ rest := by
    simp only [← String.append_assoc, String.reduceAppend]
  unfold line
  simp only [Event.record, Record.line, Severity.label, warningTarget, fieldText,
    List.map_cons, List.map_nil, String.join_cons, String.join_nil, String.append_empty,
    String.append_assoc]
  rw [label, position, character]

end Warning

theorem Event.lines_record_warn (events : List Event) :
    (Filter.atLeast .warn).lines (events.map record) =
      (events.filterMap warning?).map Warning.line := by
  induction events with
  | nil => rfl
  | cons event later inductionHypothesis =>
      rw [Filter.lines] at inductionHypothesis ⊢
      cases event with
      | illegal warning =>
          rw [List.map_cons, List.filter_cons_of_pos, List.map_cons, inductionHypothesis,
            Warning.line_record_illegal]
          · rfl
          · exact Filter.admits_atLeast ..
      | _ =>
          rw [List.map_cons, List.filter_cons_of_neg, inductionHypothesis]
          · rfl
          · rw [Filter.admits_atLeast]
            exact Bool.false_ne_true

/-- Without a setting, the log of a dump is one line for each warning. -/
theorem Dump.lines_records_warn (source : String) :
    (Filter.atLeast .warn).lines (ofSource source none).records =
      (Scan.ofSource .arithmetic source).warnings.map Warning.line := by
  have finished : (Filter.atLeast .warn).lines [(ofSource source none).finishRecord] = [] := by
    rw [Filter.lines, List.filter_cons_of_neg, List.filter_nil, List.map_nil]
    rw [Filter.admits_atLeast]
    exact Bool.false_ne_true
  have both (earlier later : List Record) : (Filter.atLeast .warn).lines (earlier ++ later) =
      (Filter.atLeast .warn).lines earlier ++ (Filter.atLeast .warn).lines later := by
    rw [Filter.lines, List.filter_append, List.map_append]
    rfl
  have complete : (ofSource source none).complete = true := by rw [ofSource_none]; rfl
  rw [records, if_pos complete, both, finished, List.append_nil, Event.lines_record_warn,
    ofSource_none]
  rfl

namespace CommandLine

/-! ## Requests that arguments make -/

/-- The argument asks for help. -/
def AsksHelp (argument : String) : Prop :=
  argument = "--help" ∨ argument = "-h"

/-- The argument asks for a file. -/
def AsksFile (argument : String) : Prop :=
  argument = "--file" ∨ argument = "-f"

/-- The arguments leave nothing to dump and ask for no help, and a user is told
so in some lines. -/
inductive Refused (read : String → Except ReadFault String) : List String → List String → Prop
  | nothing : Refused read [] usage
  | unnamed {flag : String} : AsksFile flag → Refused read [flag] fileUsage
  | unreadable {flag path : String} {more : List String} {fault : ReadFault} :
      AsksFile flag → read path = .error fault →
      Refused read (flag :: path :: more) [fault.message path]

/-- The source that the arguments select. -/
inductive Selects (read : String → Except ReadFault String) : List String → String → Prop
  | text {source : String} {more : List String} :
      ¬ AsksHelp source → ¬ AsksFile source → Selects read (source :: more) source
  | file {flag path source : String} {more : List String} :
      AsksFile flag → read path = .ok source → Selects read (flag :: path :: more) source

variable {read : String → Except ReadFault String} {arguments lines : List String}
  {flag source : String}

theorem AsksFile.not_asksHelp (file : AsksFile flag) : ¬ AsksHelp flag := by
  rcases file with rfl | rfl <;> simp [AsksHelp]

theorem Request.ofArguments_help (help : AsksHelp flag) (more : List String) :
    ofArguments (flag :: more) = .help :=
  if_pos (id help : flag = "--help" ∨ flag = "-h")

theorem Request.ofArguments_file (file : AsksFile flag) (rest : List String) :
    ofArguments (flag :: rest) =
      match rest with
      | [] => .unnamedFile
      | path :: _ => .file path := by
  have notHelp : ¬ (flag = "--help" ∨ flag = "-h") := file.not_asksHelp
  have isFile : flag = "--file" ∨ flag = "-f" := file
  rw [ofArguments.eq_def]
  dsimp only
  exact (if_neg notHelp).trans (if_pos isFile)

theorem Request.ofArguments_text (help : ¬ AsksHelp source) (file : ¬ AsksFile source)
    (more : List String) : ofArguments (source :: more) = .text source := by
  have notHelp : ¬ (source = "--help" ∨ source = "-h") := help
  have notFile : ¬ (source = "--file" ∨ source = "-f") := file
  rw [ofArguments.eq_def]
  dsimp only
  rw [if_neg notHelp, if_neg notFile]

/-! ## Runs -/

theorem runUnder_of_refused (refused : Refused read arguments lines) (filter : Filter) :
    runUnder read filter arguments = .notice 1 lines := by
  cases refused with
  | nothing => rfl
  | unnamed file => rw [runUnder, Request.ofArguments_file file, respond]
  | unreadable file unreadable =>
      rw [runUnder, Request.ofArguments_file file, respond, unreadable]

theorem runUnder_of_asksHelp (help : AsksHelp flag) (filter : Filter) (more : List String) :
    runUnder read filter (flag :: more) = .notice 0 usage := by
  rw [runUnder, Request.ofArguments_help help, respond]

theorem runUnder_of_selects (selects : Selects read arguments source) (filter : Filter) :
    runUnder read filter arguments = .ofDump filter source := by
  cases selects with
  | text notHelp notFile => rw [runUnder, Request.ofArguments_text notHelp notFile, respond]
  | file file readable => rw [runUnder, Request.ofArguments_file file, respond, readable]

theorem refused_or_asksHelp_or_selects (read : String → Except ReadFault String)
    (arguments : List String) :
    (∃ lines, Refused read arguments lines) ∨
      (∃ flag more, arguments = flag :: more ∧ AsksHelp flag) ∨
      ∃ source, Selects read arguments source := by
  cases arguments with
  | nil => exact .inl ⟨_, .nothing⟩
  | cons first rest =>
      by_cases help : AsksHelp first
      · exact .inr (.inl ⟨first, rest, rfl, help⟩)
      by_cases file : AsksFile first
      · cases rest with
        | nil => exact .inl ⟨_, .unnamed file⟩
        | cons path more =>
            cases content : read path with
            | error fault => exact .inl ⟨_, .unreadable file content⟩
            | ok source => exact .inr (.inr ⟨source, .file file content⟩)
      · exact .inr (.inr ⟨first, .text help file⟩)

theorem Outcome.ofDump_eq (filter : Filter) (source : String) :
    ofDump filter source =
      ⟨0, (Dump.ofSource source none).output,
        filter.lines (Dump.ofSource source none).records⟩ := by
  rw [ofDump, Dump.ofSource_none]

/-- Arguments that are not refused decide by their beginning. -/
theorem runUnder_append (accepted : ¬ ∃ lines, Refused read arguments lines) (filter : Filter)
    (more : List String) :
    runUnder read filter (arguments ++ more) = runUnder read filter arguments := by
  rcases refused_or_asksHelp_or_selects read arguments with
    refused | ⟨flag, others, rfl, help⟩ | ⟨source, selects⟩
  · exact absurd refused accepted
  · rw [List.cons_append, runUnder_of_asksHelp help, runUnder_of_asksHelp help]
  · have longer : Selects read (arguments ++ more) source := by
      cases selects with
      | text notHelp notFile => exact .text notHelp notFile
      | file file readable => exact .file file readable
    rw [runUnder_of_selects selects, runUnder_of_selects longer]

/-- A run fails exactly when its arguments are refused, and then it says so and
does nothing else.  Any other run succeeds, whatever arguments follow: it shows
the usage, or it writes the whole dump of the source that the arguments select.
A source may be given as an argument or in a file, which is all the same for
the outcome.  All this holds under any log filter, and so under that of any log
setting.  Without a setting there is one line for each warning, in the order of
the source. -/
theorem run_outcome (read : String → Except ReadFault String) (filter : Filter)
    (arguments : List String) :
    let outcome := runUnder read filter arguments
    (∀ setting, filter = .ofSetting setting → run read setting = runUnder read filter) ∧
    (outcome.exitCode = 1 ↔ ∃ lines, Refused read arguments lines) ∧
    (∀ lines, Refused read arguments lines → outcome = ⟨1, ByteArray.empty, lines⟩) ∧
    ((¬ ∃ lines, Refused read arguments lines) →
      outcome.exitCode = 0 ∧ ∀ more, runUnder read filter (arguments ++ more) = outcome) ∧
    (∀ flag more, arguments = flag :: more → AsksHelp flag →
      outcome.standardOutput = ByteArray.empty) ∧
    ((¬ ∃ lines, Refused read arguments lines) →
      (∀ flag ∈ arguments.head?, ¬ AsksHelp flag) →
        ∃ source, Selects read arguments source) ∧
    (∀ source, Selects read arguments source →
      outcome.standardOutput = (Dump.ofSource source none).output ∧
      outcome.standardOutput = (Dump.text (tokensOf source)).toByteArray ∧
      (filter = .ofSetting none →
        let warnings := (Scan.ofSource .arithmetic source).warnings
        outcome.standardError = warnings.map Warning.line ∧
          warnings.Pairwise fun earlier later => earlier.position < later.position)) ∧
    (∀ source path, ¬ AsksHelp source → ¬ AsksFile source → read path = .ok source →
      runUnder read filter ["--file", path] = runUnder read filter [source] ∧
      runUnder read filter ["-f", path] = runUnder read filter [source]) := by
  intro outcome
  have refuses {lines : List String} (refused : Refused read arguments lines) :
      outcome = ⟨1, ByteArray.empty, lines⟩ := runUnder_of_refused refused filter
  have succeeds (accepted : ¬ ∃ lines, Refused read arguments lines) : outcome.exitCode = 0 := by
    rcases refused_or_asksHelp_or_selects read arguments with
      refused | ⟨flag, more, rfl, help⟩ | ⟨source, selects⟩
    · exact absurd refused accepted
    · exact congrArg Outcome.exitCode (runUnder_of_asksHelp help filter more)
    · have dumped : outcome = _ :=
        (runUnder_of_selects selects filter).trans (Outcome.ofDump_eq ..)
      rw [dumped]
  refine ⟨?_, ⟨fun failed => ?_, fun ⟨lines, refused⟩ => ?_⟩, fun lines => refuses,
    fun accepted => ⟨succeeds accepted, runUnder_append accepted filter⟩, ?_, ?_, ?_, ?_⟩
  · rintro setting rfl
    rfl
  · by_contra accepted
    rw [succeeds accepted] at failed
    contradiction
  · rw [refuses refused]
  · rintro flag more rfl help
    exact congrArg Outcome.standardOutput (runUnder_of_asksHelp help filter more)
  · intro accepted noHelp
    rcases refused_or_asksHelp_or_selects read arguments with
      refused | ⟨flag, more, rfl, help⟩ | selected
    · exact absurd refused accepted
    · exact absurd help (noHelp flag rfl)
    · exact selected
  · intro source selects
    have dumped : outcome = _ :=
      (runUnder_of_selects selects filter).trans (Outcome.ofDump_eq ..)
    rw [dumped]
    refine ⟨rfl, by rw [Dump.ofSource_none], ?_⟩
    rintro rfl
    refine ⟨Dump.lines_records_warn source, ?_⟩
    rw [Scan.warnings, Scan.toList_journal_ofSource]
    exact Segment.pairwise_position_events ..
  · intro source path notHelp notFile readable
    have alone : Selects read [source] source := .text notHelp notFile
    have long : Selects read ["--file", path] source := .file (.inl rfl) readable
    have short : Selects read ["-f", path] source := .file (.inr rfl) readable
    rw [runUnder_of_selects alone, runUnder_of_selects long, runUnder_of_selects short]
    exact ⟨rfl, rfl⟩

/-- A file without permission is refused.  A file whose text asks for help as an
argument would is dumped, and nothing behind its name matters. -/
theorem run_outcome_file :
    let tree := FileTree.directory
      [("help", .file "-h?".toByteArray true), ("secret", .file "-h".toByteArray false)]
    let read := tree.read []
    AsksFile "-f" ∧ read "secret" = .error .permissionDenied ∧ read "help" = .ok "-h?" ∧
      (run read (some "trace") ["-f", "secret", "help"]).standardOutput = ByteArray.empty ∧
      (run read none ["-f", "help", "--help"]).exitCode = 0 ∧
      (run read none ["-f", "help", "--help"]).standardOutput =
        "<-, ->\n<id, h>\n".toByteArray ∧
      (run read none ["-f", "help", "--help"]).standardError =
        [" WARN mini_lexer: illegal character '?' at position 2 pos=2 ch='?'"] ∧
      run read (some "trace") ["--file", "help"] = run read (some "trace") ["-h?"] := by
  intro tree read
  have file : AsksFile "-f" := .inr rfl
  have secret : read "secret" = .error .permissionDenied := by decide +kernel
  have help : read "help" = .ok "-h?" := by decide +kernel
  have refused : Refused read ["-f", "secret", "help"] _ := .unreadable file secret
  have selects : Selects read ["-f", "help", "--help"] "-h?" := .file file help
  have accepted : ¬ ∃ lines, Refused read ["-f", "help", "--help"] lines := by
    rintro ⟨lines, _ | _ | ⟨-, unreadable⟩⟩
    rw [help] at unreadable
    contradiction
  rcases run_outcome read (.ofSetting (some "trace")) ["-f", "secret", "help"] with
    ⟨-, -, refuses, -, -, -, -, same⟩
  rcases run_outcome read (.ofSetting none) ["-f", "help", "--help"] with
    ⟨-, -, -, succeeds, -, -, dumps, -⟩
  rcases dumps "-h?" selects with ⟨-, output, logged⟩
  refine ⟨file, secret, help, congrArg Outcome.standardOutput (refuses _ refused),
    (succeeds accepted).1, output.trans ?_, (logged rfl).1.trans ?_,
    (same "-h?" "help" (by simp [AsksHelp]) (by simp [AsksFile]) help).1⟩
  · decide +kernel
  · decide +kernel

end CommandLine

end Lexis
