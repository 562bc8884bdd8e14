import Lexis.Bindings
import Lexis.CharClass
import Lexis.CommandLine
import Lexis.Dump
import Lexis.Event
import Lexis.Event.Reading
import Lexis.FileTree
import Lexis.Log.Directive
import Lexis.Log.Filter
import Lexis.Log.Record
import Lexis.Log.Threshold
import Lexis.Main
import Lexis.Proofs.Bindings
import Lexis.Proofs.CommandLine
import Lexis.Proofs.Dump
import Lexis.Proofs.Dump.Decoding
import Lexis.Proofs.Event.Reading
import Lexis.Proofs.Log.Filter
import Lexis.Proofs.Scan.AddedOperator
import Lexis.Proofs.Scan.Ahead
import Lexis.Proofs.Scan.Blanks
import Lexis.Proofs.Scan.CommentAsSpace
import Lexis.Proofs.Scan.Comments
import Lexis.Proofs.Scan.Continuing
import Lexis.Proofs.Scan.IllegalAsSpace
import Lexis.Proofs.Scan.Keywords
import Lexis.Proofs.Scan.Kinds
import Lexis.Proofs.Scan.LiveEntries
import Lexis.Proofs.Scan.Matching
import Lexis.Proofs.Scan.Parts
import Lexis.Proofs.Scan.Pass
import Lexis.Proofs.Scan.Progress
import Lexis.Proofs.Scan.Recasting
import Lexis.Proofs.Scan.Resuming
import Lexis.Proofs.Scan.Safety
import Lexis.Proofs.Scan.Session
import Lexis.Proofs.Scan.Spaced
import Lexis.Proofs.Scan.SplitPair
import Lexis.Proofs.Scan.Summary
import Lexis.Proofs.Scan.TrailingBlanks
import Lexis.Proofs.Scan.Whole
import Lexis.Proofs.Segmentation
import Lexis.Proofs.Segmentation.Blanking
import Lexis.Proofs.Segmentation.Blanks
import Lexis.Proofs.Segmentation.Comments
import Lexis.Proofs.Segmentation.Continuing
import Lexis.Proofs.Segmentation.Joining
import Lexis.Proofs.Segmentation.Stopping
import Lexis.Proofs.Session
import Lexis.Proofs.Text.Action
import Lexis.Proofs.Text.Boundary
import Lexis.Proofs.Text.Bytes
import Lexis.Proofs.Text.Looking
import Lexis.Proofs.Text.Session
import Lexis.Proofs.Text.Skipping
import Lexis.Proofs.Vocabulary
import Lexis.Scan
import Lexis.Segmentation
import Lexis.SyntaxError
import Lexis.Text.CharProperty
import Lexis.Text.Numeral
import Lexis.Text.Offset
import Lexis.Text.Pattern
import Lexis.Text.Pattern.Escape
import Lexis.Text.Pattern.Nesting
import Lexis.Text.Pattern.Switches
import Lexis.Text.Place
import Lexis.Text.Quoted
import Lexis.Token
import Lexis.Vocabulary
