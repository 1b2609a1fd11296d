import DartBindings.Diagnostic.Basic
import DartBindings.Text.Line
import DartBindings.Text.Slice
import DartBindings.Text.Visible

/-!
Diagnostics with an excerpt of the source they point into.

An excerpt names the place, shows the line where the range begins and marks the range below it, with
a label behind the marks.  Places count lines and characters from one.  A range that goes on behind
its first line is marked to the end of that line.  A line that is indented very deep is shown without
most of its indentation, and a title of several lines goes on below its first one.  Fragments of the
output have a style, which is shown only in color.

Main exports: ByteRange.highlighted, excerpt, plain
-/

namespace DartBindings

/-- A range of byte offsets. -/
structure ByteRange where
  start : Nat
  stop : Nat
deriving Repr, DecidableEq, Inhabited

/-- The range that is marked in a text of the given length: both ends are moved into the text, and an
empty range is widened by a byte if the text goes on. -/
def ByteRange.highlighted (range : ByteRange) (length : Nat) : ByteRange :=
  let start := min range.start length
  let stop := min range.stop length
  if start = stop then ⟨start, min (start + 1) length⟩ else ⟨start, stop⟩

namespace Excerpt

/-- How a fragment of the output looks. -/
inductive Style where
  | plain
  | strong
  | frame
  | level (severity : Severity)
deriving Repr, DecidableEq

/-- The code that ends a style. -/
def reset : String := "\x1b[0m"

/-- The code that begins a style. -/
def Style.code : Style → String
  | .plain => ""
  | .strong => "\x1b[1m"
  | .frame => "\x1b[1m\x1b[94m"
  | .level .warning => "\x1b[1m\x1b[33m"
  | .level .error => "\x1b[1m\x1b[91m"

/-- A piece of text in a style. -/
structure Fragment where
  style : Style
  text : String

/-- A fragment as it is written.  An empty fragment writes nothing. -/
def Fragment.write (colored : Bool) (fragment : Fragment) : String :=
  if colored && fragment.style != .plain && !fragment.text.isEmpty then
    fragment.style.code ++ fragment.text ++ reset
  else fragment.text

/-- Fragments one behind the other. -/
def writeLine (colored : Bool) (fragments : List Fragment) : String :=
  String.join (fragments.map (·.write colored))

/-- A number of spaces. -/
def spaces (count : Nat) : String :=
  String.ofList (List.replicate count ' ')

/-- The characters of a line in front of a byte column. -/
def before (line : List Char) : Nat → List Char
  | 0 => []
  | column + 1 =>
      match line with
      | [] => []
      | c :: rest => c :: before rest (column + 1 - c.utf8Size)

/-- The line of a text with the given number, counted from zero, without its end. -/
def lineAt (text : List Char) (row : Nat) : List Char :=
  let pieces := Text.splitAtFeeds text
  let line := pieces.getD row []
  if row + 1 < pieces.length then Text.dropCarriageReturn line else line

/-- The place of a byte offset among the lines of a text.  The end of a text belongs to its last line,
even behind the end of that line. -/
def placeAmongLines (text : List Char) (offset : Nat) : Text.Place :=
  let place := Text.placeOf text offset
  if place.column = 0 && 0 < place.row && offset = Text.byteLength text then
    let feed := Text.placeOf text (offset - 1)
    ⟨feed.row, feed.column + 1⟩
  else place

/-- The column of a place as it is shown, counted in characters from one.  A place behind the end of
its line has a column of its own. -/
def shownColumn (line : List Char) (column : Nat) : Nat :=
  (before line column).length + (if Text.byteLength line < column then 2 else 1)

/-- The most blank columns that are shown in full in front of a line. -/
def fullIndent : Nat := 26

/-- The columns that remain of more blank columns than are shown in full. -/
def keptIndent : Nat := 22

/-- The columns that are cut from the front of a line with marks from a column on.  Only blank columns
in front of the marks are cut. -/
def cutColumns (line : List Char) (column : Nat) : Nat :=
  let blank := min (Text.indentation line) column
  if fullIndent < blank then blank - keptIndent else 0

/-- A line as it is shown behind the frame.  Where columns are cut from its front, dots stand in the
first three columns that are left. -/
def shownLine (line : List Char) (cut : Nat) : List Fragment :=
  let columns := Text.visible line
  if columns.isEmpty then []
  else if cut = 0 then [⟨.plain, String.ofList (' ' :: columns)⟩]
  else [⟨.plain, " "⟩, ⟨.frame, "..."⟩, ⟨.plain, String.ofList (columns.drop (cut + 3))⟩]

/-- The lines of a title behind the word for its severity.  Further lines stand below the first line's
text. -/
def titleLines (severity : Severity) (title : String) : List (List Fragment) :=
  let word : Fragment := ⟨.level severity, severity.word⟩
  let margin : Fragment := ⟨.plain, spaces (severity.word.length + 2)⟩
  match (Text.splitAtFeeds (Text.visible title.toList)).map String.ofList with
  | [] => []
  | first :: rest =>
      [word, ⟨.strong, ": " ++ first⟩] :: rest.map fun line => [margin, ⟨.strong, line⟩]

/-- The lines of an excerpt. -/
def lines (severity : Severity) (title label name : String) (text : List Char)
    (range : ByteRange) : List (List Fragment) :=
  let start := placeAmongLines text range.start
  let stop := placeAmongLines text range.stop
  let line := lineAt text start.row
  let front := before line start.column
  let marked :=
    if stop.row = start.row then before line stop.column else line
  let number := toString (start.row + 1)
  let indent := (Text.visible front).length
  let width := max 1 ((Text.visible marked).length - indent)
  let cut := cutColumns line indent
  let place := name ++ ":" ++ number ++ ":" ++ toString (shownColumn line start.column)
  let bar : Fragment := ⟨.frame, "|"⟩
  let margin : Fragment := ⟨.plain, spaces (number.length + 1)⟩
  titleLines severity title ++
    [ [⟨.plain, spaces number.length⟩, ⟨.frame, "--> "⟩, ⟨.plain, place⟩],
      [margin, bar],
      [⟨.frame, number⟩, ⟨.plain, " "⟩, bar] ++ shownLine line cut,
      [margin, bar, ⟨.plain, spaces (indent - cut + 1)⟩,
        ⟨.level severity, String.ofList (List.replicate width '^')⟩, ⟨.plain, " "⟩,
        ⟨.level severity, label⟩] ]

end Excerpt

namespace Diagnostic

/-- The words behind the marks of an excerpt: the subject, or else the message. -/
def label (diagnostic : Diagnostic) : String :=
  match diagnostic.subject with
  | some subject => subjectWords subject
  | none => diagnostic.message

/-- The diagnostic with an excerpt of a source. -/
def excerpt (diagnostic : Diagnostic) (colored : Bool) (source : Source) (span : Span) : String :=
  let text := source.text.toList
  let range := ByteRange.highlighted ⟨span.start, span.stop⟩ (Text.byteLength text)
  "\n".intercalate
    ((Excerpt.lines diagnostic.severity diagnostic.message diagnostic.label source.displayName text
      range).map (Excerpt.writeLine colored))

/-- The diagnostic as it is printed, unless it points into a source that does not exist.  Without a
place or without sources it takes one line. -/
def print? (diagnostic : Diagnostic) (colored : Bool) (sources : Option SourceMap) :
    Option String :=
  match sources, diagnostic.span with
  | some sources, some span =>
      (sources.get? span.source).map fun source => diagnostic.excerpt colored source span
  | _, _ => some diagnostic.line

end Diagnostic

namespace Diagnostics

/-- The diagnostics as they are printed, one below the other. -/
def print? (diagnostics : Diagnostics) (colored : Bool) (sources : Option SourceMap) :
    Option String :=
  (List.mapM (fun diagnostic => Diagnostic.print? diagnostic colored sources) diagnostics).map
    "\n".intercalate

/-- The diagnostics without excerpts, one on a line. -/
def plain (diagnostics : Diagnostics) : String :=
  "\n".intercalate (List.map Diagnostic.line diagnostics)

end Diagnostics

end DartBindings
