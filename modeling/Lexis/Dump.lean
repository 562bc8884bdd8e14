import Lexis.Log.Record
import Lexis.Scan

/-!
# Token dumps

A dump writes one line for each token of a source, as soon as the token is
scanned.  What it writes to may run out of room; the dump then stops at the
token whose line did not fit, and nothing behind that token is scanned.
-/

namespace Lexis

/-! ## Sinks -/

/-- An output that accepts bytes until its capacity is used up. -/
structure Sink where
  accepted : ByteArray
  /-- The bytes accepted in all, if there is a limit. -/
  capacity? : Option Nat
  size_accepted_le : ∀ capacity ∈ capacity?, accepted.size ≤ capacity

namespace Sink

/-- A sink that has accepted nothing yet. -/
def new (capacity? : Option Nat) : Sink :=
  ⟨ByteArray.empty, capacity?, fun _ _ => Nat.zero_le _⟩

/-- Whether a sink has room for so many bytes more. -/
def hasRoom (sink : Sink) (count : Nat) : Bool :=
  sink.capacity?.all (sink.accepted.size + count ≤ ·)

theorem size_append_extract_le {accepted bytes : ByteArray} {capacity : Nat}
    (within : accepted.size ≤ capacity) :
    (accepted ++ bytes.extract 0 (capacity - accepted.size)).size ≤ capacity := by
  rw [ByteArray.size_append, ByteArray.size_extract]
  omega

/-- The sink after it was offered some bytes: it takes as many as it has room
for, from the first on. -/
def offer (sink : Sink) (bytes : ByteArray) : Sink :=
  match sink with
  | ⟨accepted, none, _⟩ => ⟨accepted ++ bytes, none, nofun⟩
  | ⟨accepted, some capacity, within⟩ =>
      ⟨accepted ++ bytes.extract 0 (capacity - accepted.size), some capacity, by
        rintro _ ⟨⟩
        exact size_append_extract_le (within capacity rfl)⟩

/-- Offer some pieces one after the other, up to the first one that is not
taken whole, and say whether all were taken. -/
def write (sink : Sink) : List String → Sink × Bool
  | [] => (sink, true)
  | piece :: later =>
      if sink.hasRoom piece.utf8ByteSize then (sink.offer piece.toByteArray).write later
      else (sink.offer piece.toByteArray, false)

end Sink

/-! ## Lines -/

/-- The line of a token in a dump. -/
def Token.line (token : Token) : String :=
  token.text ++ "\n"

/-- The pieces in which the line of a token is written. -/
def Token.linePieces (token : Token) : List String :=
  ["<", token.kind, ", ", token.lexeme, ">", "\n"]

/-! ## Records of events

Each event of a scan is worth one log record.  An illegal character is a
warning to the user; tokens and comments are details of the scan. -/

/-- The target of warnings about a source. -/
def warningTarget : String := "mini_lexer"

/-- The target of the details of a scan. -/
def detailTarget : String := "mini_lexer::scanner"

/-- The log record of an event. -/
def Event.record : Event → Log.Record
  | .token found stop =>
      ⟨.trace, detailTarget, "scanned", [("token", found.text), ("pos", toString stop)]⟩
  | .comment start stop =>
      ⟨.debug, detailTarget, "skipped comment",
        [("start", toString start), ("end", toString stop)]⟩
  | .illegal warning =>
      ⟨.warn, warningTarget, warning.message,
        [("pos", toString warning.position), ("ch", Text.quoted warning.character)]⟩

/-! ## Dumping -/

/-- The reason when an output does not give one. -/
def outOfRoom : String :=
  "failed to write whole buffer"

/-- The words of an output that refused bytes, and why. -/
def refusalMessage (reason : String) : String :=
  "cannot write output: " ++ reason

/-- Why a dump stopped before the end of its source. -/
inductive Dump.Failure where
  /-- There was no current token to write. -/
  | scan (error : SyntaxError)
  /-- The output did not take a whole line. -/
  | refused
  deriving DecidableEq

/-- The words of a failure, where the output gives a reason for refusing. -/
def Dump.Failure.message (reason : String) : Dump.Failure → String
  | scan error => error.message
  | refused => refusalMessage reason

/-- A dump that has ended. -/
structure Dump where
  /-- The scan as the dump left it. -/
  scan : Scan
  output : ByteArray
  /-- The number of lines that were written whole. -/
  lines : Nat
  failure? : Option Dump.Failure

namespace Dump

/-- Dump what a scan has before it, after some lines. -/
def run (scan : Scan) (sink : Sink) (lines : Nat) : Dump :=
  match _ : scan.next with
  | (none, last) => ⟨last, sink.accepted, lines, none⟩
  | (some _, after) =>
      match after.current with
      | .error missing => ⟨after, sink.accepted, lines, some (.scan missing)⟩
      | .ok token =>
          match sink.write token.linePieces with
          | (filled, true) => run after filled (lines + 1)
          | (filled, false) => ⟨after, filled.accepted, lines, some .refused⟩
termination_by scan.remaining
decreasing_by exact Scan.remaining_lt_of_next_eq_some ‹_›

/-- Dump a source, under the vocabulary of arithmetic, to an output of some capacity. -/
def ofSource (source : String) (capacity? : Option Nat) : Dump :=
  run (.start .arithmetic source) (.new capacity?) 0

/-- Whether every line was accepted. -/
def complete (dump : Dump) : Bool :=
  dump.failure?.isNone

/-- The record that ends a complete dump. -/
def finishRecord (dump : Dump) : Log.Record :=
  ⟨.debug, "minic::commands", "lex finished",
    [("tokens", toString dump.lines), ("warnings", toString dump.scan.warnings.length)]⟩

/-- The log records of a dump, in the order in which things happened. -/
def records (dump : Dump) : List Log.Record :=
  dump.scan.journal.toList.map Event.record ++
    if dump.complete then [dump.finishRecord] else []

end Dump

end Lexis
