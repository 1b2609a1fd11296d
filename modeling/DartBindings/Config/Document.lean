import DartBindings.Config.Basic
import DartBindings.Json.Value

/-!
Configurations as JSON documents.  A filter shows its list of included members when it has one and
its list of excluded members when that is not empty.

Main exports: MemberFilter.document, Config.document
-/

namespace DartBindings

/-- The document of a filter. -/
def MemberFilter.document (filter : MemberFilter) : Json :=
  .object
    ((match filter.included with
      | none => []
      | some members => [("include", Json.strings members)])
    ++ (if filter.excluded.isEmpty then [] else [("exclude", Json.strings filter.excluded)]))

/-- The document of a configuration. -/
def Config.document (config : Config) : Json :=
  .object [("libraryName", .string config.libraryName), ("outDir", .string config.outDir),
    ("inputs", Json.strings config.inputs),
    ("typeReplacements",
      .object (config.replacements.entries.map fun entry => (entry.1, .string entry.2))),
    ("declarations",
      .object (config.declarations.entries.map fun entry => (entry.1, entry.2.document)))]

end DartBindings
