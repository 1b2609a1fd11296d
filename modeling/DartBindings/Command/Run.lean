import DartBindings.Command.Arguments
import DartBindings.Diagnostic.Excerpt
import DartBindings.Library.Document
import DartBindings.Pipeline
import DartBindings.Syntax.Outline

/-!
Commands: generating units, checking, showing the library, and showing a syntax tree.

A command gets what it needs from a host: files, the standard input, and the parser of declaration
texts.  It ends with a status, and with what it writes to the standard output and to the standard
error.

Main exports: Host, Outcome, Invocation.carryOut, run
-/

namespace DartBindings.Command

open Extraction (Document)
open Syntax (Node)

/-- What a command needs of its surroundings. -/
structure Host (m : Type → Type) where
  files : FileAccess m
  standardInput : m String
  parse : String → String → m (Option Node)
  terminal : Bool := false

/-- How a command ends. -/
structure Outcome where
  status : Nat
  output : String := ""
  errors : String := ""
deriving Repr, DecidableEq, Inhabited

namespace Outcome

/-- The line that tells why a command ends early. -/
def failureLine (message : String) : String :=
  "error: " ++ message ++ "\n"

/-- The end of a command that fails. -/
def failed (message errors : String) : Outcome :=
  { status := 1, errors := errors ++ failureLine message }

end Outcome

/-- A path as seen from the directory of a configuration. -/
def resolve (directory path : String) : String :=
  if Path.isAbsolute path then path else Path.join directory path

/-- The configuration with its paths as seen from a directory. -/
def resolveConfig (directory : String) (config : Config) : Config :=
  { config with
    outDir := resolve directory config.outDir
    inputs := config.inputs.map (resolve directory) }

/-- The configuration whose inputs are replaced by files, if there are any. -/
def withFiles (config : Config) (files : List String) : Config :=
  if files.isEmpty then config else { config with inputs := files }

section

variable {m : Type → Type} [Monad m]

/-- Read a configuration and see that there is something to read. -/
def loadConfig (host : Host m) (path : String) (files : List String) :
    ExceptT Failure m Config := do
  match ← host.files.read path with
  | .error fault => throw (.inaccessible ⟨path, fault⟩)
  | .ok text =>
      match Config.ofJson text with
      | .error problem => throw (.invalidConfig problem)
      | .ok config =>
          let config := withFiles (resolveConfig (Path.directory path) config) files
          if config.inputs.isEmpty then throw (.noInputs path) else pure config

/-- Parse a declaration text. -/
def parseText (host : Host m) (name text : String) : ExceptT Failure m Node := do
  match ← host.parse name text with
  | none => throw (.unparsed name)
  | some tree => pure tree

/-- Read a declaration file. -/
def readSource (host : Host m) (path : String) : ExceptT Failure m Source := do
  match ← host.files.read path with
  | .error fault => throw (.inaccessible ⟨path, fault⟩)
  | .ok text => pure { path := some path, text := text }

/-- Parse a source. -/
def parseSource (host : Host m) (source : Source) : ExceptT Failure m Document := do
  let tree ← parseText host source.displayName source.text
  pure ⟨source, tree⟩

/-- The generator of a configuration, with every input read and parsed. -/
def loadGenerator (host : Host m) (config : Config) : ExceptT Failure m Generator := do
  let sources ← config.inputs.mapM (readSource host)
  let documents ← sources.mapM (parseSource host)
  pure ⟨config, documents⟩

/-- The reports as they are printed, with a line's end unless there are none. -/
def printReports (host : Host m) (color : Color) (generator : Generator) (reports : Diagnostics) :
    String :=
  if reports.isEmpty then ""
  else
    (reports.print? (color.applies host.terminal) (some generator.sources)).getD "" ++ "\n"

/-- A unit as it is shown on the standard output. -/
def showUnit (unit : Emission.OutputUnit) : String :=
  "// " ++ unit.fileName ++ "\n" ++ unit.content

/-- Generate units. -/
def generate (host : Host m) (config : String) (files : List String) (outDir : Option String)
    (toStdout : Bool) (color : Color) : ExceptT Failure m Outcome := do
  let config ← loadConfig host config files
  let config := match outDir with
    | none => config
    | some directory => config.withOutDir directory
  let generator ← loadGenerator host config
  let emitted := generator.run
  let reports := printReports host color generator emitted.reports
  if emitted.isValid then
    if toStdout then
      pure { status := 0, output := String.join (emitted.units.map showUnit), errors := reports }
    else
      match ← ExceptT.lift (emitted.write host.files) with
      | .error failure => pure (Outcome.failed failure.message reports)
      | .ok _ => pure { status := 0, errors := reports }
  else
    pure (Outcome.failed (Failure.rejected emitted.reports.errorCount).message reports)

/-- Check declarations.  With the strict rule warnings fail like errors. -/
def check (host : Host m) (config : String) (files : List String) (strict : Bool)
    (color : Color) : ExceptT Failure m Outcome := do
  let config ← loadConfig host config files
  let generator ← loadGenerator host config
  let emitted := generator.run
  let valid := emitted.isValid && !(strict && emitted.reports.hasWarnings)
  pure
    { status := if valid then 0 else 1
      errors := printReports host color generator emitted.reports }

/-- Show the library, as declared or as emitted. -/
def dump (host : Host m) (config : String) (files : List String) (raw compact : Bool) :
    ExceptT Failure m Outcome := do
  let config ← loadConfig host config files
  let generator ← loadGenerator host config
  let extracted := generator.extract
  let library := if raw then extracted.library else extracted.normalize.library
  let text := if compact then library.document.compact else library.document.indented
  pure { status := 0, output := text ++ "\n" }

/-- Read the text whose syntax tree is to be shown.  A lone dash stands for the standard input. -/
def readTreeText (host : Host m) (file : String) : ExceptT Failure m String := do
  if file = "-" then host.standardInput
  else
    match ← host.files.read file with
    | .error _ => throw (.notFound file)
    | .ok text => pure text

/-- Show the syntax tree of a text. -/
def showTree (host : Host m) (name text : String) (options : Syntax.OutlineOptions) :
    ExceptT Failure m Outcome := do
  let tree ← parseText host name text
  pure { status := 0, output := tree.outline options text }

/-- Show the syntax tree of a file or of a text given directly. -/
def tree (host : Host m) (file text : Option String) (options : Syntax.OutlineOptions) :
    ExceptT Failure m Outcome := do
  match text, file with
  | some text, none => showTree host "<inline>" text options
  | none, some file =>
      let text ← readTreeText host file
      showTree host file text options
  | some _, some _ => throw .textAndFile
  | none, none => throw .noText

/-- Carry out an invocation, unless a failure ends it early. -/
def Invocation.carryOut (host : Host m) : Invocation → ExceptT Failure m Outcome
  | .generate config files outDir toStdout color =>
      Command.generate host config files outDir toStdout color
  | .check config files strict color => Command.check host config files strict color
  | .dump config files raw compact => Command.dump host config files raw compact
  | .tree file text tokens places => Command.tree host file text ⟨tokens, places⟩

/-- How to use the program. -/
def usage : String :=
  "usage: (generate | check | dump) CONFIG [FILES] [OPTIONS], or tree (FILE | -s TEXT) [OPTIONS]\n"

/-- Carry out a command line. -/
def run (host : Host m) (arguments : List String) : m Outcome := do
  match Invocation.ofArguments arguments with
  | .error .badUsage => pure { status := 2, errors := usage }
  | .error .helpWanted => pure { status := 0, output := usage }
  | .ok invocation =>
      match ← (invocation.carryOut host).run with
      | .error failure => pure (Outcome.failed failure.message "")
      | .ok outcome => pure outcome

end

end DartBindings.Command
