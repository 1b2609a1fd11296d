import DartBindings.Config.Reader
import DartBindings.Emission.Unit
import DartBindings.Extraction.Library
import DartBindings.Files.Access
import DartBindings.Normalization.Library

/-!
The stages of a run: declaration files, the library they declare, the library that is emitted, and
the units.

Each stage keeps the reports of those before it.  Nothing is written when an error was reported.

Main exports: Generator, Generator.extract, Extracted.normalize, Normalized.emit, Generator.run,
Emitted.writeTo
-/

namespace DartBindings

open Extraction (Document)

/-- Why a run ends early. -/
inductive Failure where
  | invalidConfig (problem : Config.Problem)
  | inaccessible (problem : FileProblem)
  | unparsed (name : String)
  | rejected (errors : Nat)
  | noInputs (config : String)
  | notFound (file : String)
  | textAndFile
  | noText
deriving Inhabited

/-- The message of a failure. -/
def Failure.message : Failure → String
  | .invalidConfig problem => "invalid configuration: " ++ problem.message
  | .inaccessible problem => problem.message
  | .unparsed name => "parser produced no syntax tree for " ++ name
  | .rejected errors => "generation failed with " ++ toString errors ++ " errors"
  | .noInputs config =>
      "no declaration files: pass FILES or list `inputs` in " ++ config
  | .notFound file => "file not found: " ++ file
  | .textAndFile => "cannot use both --source and positional FILE"
  | .noText => "source required (positional or --source)"

/-- A configuration and the declaration files to read. -/
structure Generator where
  config : Config
  documents : List Document := []
deriving Inhabited

/-- The sources that reports point into. -/
def Generator.sources (generator : Generator) : SourceMap :=
  ⟨generator.documents.map (·.source)⟩

/-- The library that the declaration files declare. -/
structure Extracted where
  generator : Generator
  library : Library
  reports : Diagnostics
deriving Inhabited

/-- The library that is emitted. -/
structure Normalized where
  generator : Generator
  library : Library
  reports : Diagnostics
deriving Inhabited

/-- The units of a library. -/
structure Emitted where
  generator : Generator
  units : List Emission.OutputUnit
  reports : Diagnostics
deriving Inhabited

/-- The stage after reading declarations. -/
def Generator.extract (generator : Generator) : Extracted :=
  let (library, reports) := Extraction.extract generator.config generator.documents
  ⟨generator, library, reports⟩

/-- The stage after normalization. -/
def Extracted.normalize (extracted : Extracted) : Normalized :=
  let (library, reports) := extracted.library.normalizeReporting extracted.reports
  ⟨extracted.generator, library, reports⟩

/-- The emitter of a configuration. -/
def Config.emitter (config : Config) : Emission.Emitter :=
  ⟨config, TypeMapper.ofTable config.replacements⟩

/-- The stage after emission. -/
def Normalized.emit (normalized : Normalized) : Emitted :=
  let emitter := normalized.generator.config.emitter
  { generator := normalized.generator
    units := emitter.units normalized.library
    reports :=
      normalized.reports ++ emitter.mapper.unboundTokens
        ++ emitter.libraryReports normalized.library }

/-- All stages of a run. -/
def Generator.run (generator : Generator) : Emitted :=
  generator.extract.normalize.emit

namespace Emitted

/-- Whether no error was reported. -/
def isValid (emitted : Emitted) : Bool :=
  !emitted.reports.hasErrors

variable {m : Type → Type} [Monad m]

/-- Write the units into a directory, unless an error was reported. -/
def writeTo (emitted : Emitted) (files : FileAccess m) (directory : String) :
    m (Except Failure (List String)) := do
  if emitted.isValid then
    match ← files.writeUnits directory emitted.units with
    | .error problem => pure (.error (.inaccessible problem))
    | .ok paths => pure (.ok paths)
  else pure (.error (.rejected emitted.reports.errorCount))

/-- Write the units into the directory of the configuration. -/
def write (emitted : Emitted) (files : FileAccess m) : m (Except Failure (List String)) :=
  emitted.writeTo files emitted.generator.config.outDir

end Emitted

end DartBindings
