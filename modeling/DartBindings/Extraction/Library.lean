import DartBindings.Extraction.Declaration
import DartBindings.Extraction.Fault

/-!
Extraction: from parsed declaration files to a library.

Files are read in order.  For each of them its syntax errors are reported first, then what is dropped
from its declarations, in the order in which they stand.

Main exports: Document, declarationsIn, extractOne, extract
-/

namespace DartBindings.Extraction

open Syntax (Node)

/-- A declaration text and its syntax tree. -/
structure Document where
  source : Source
  tree : Node
deriving Inhabited

/-- What is taken from a file, in order, with reports. -/
def declarationsIn (config : Config) (id : SourceId) (document : Document) :
    List (Declared × Diagnostics) :=
  (candidates document.tree).filterMap
    (readCandidate? config id document.source.text.toList)

/-- The library that declarations make. -/
def libraryOf (declared : List Declared) : Library :=
  ⟨declared.filterMap Declared.class?, declared.filterMap Declared.interface?⟩

/-- The library in a file, with reports. -/
def extractOne (config : Config) (id : SourceId) (document : Document) : Library × Diagnostics :=
  let declared := declarationsIn config id document
  (libraryOf (declared.map Prod.fst), faults id document.tree ++ declared.flatMap Prod.snd)

/-- The library in files, with reports. -/
def extract (config : Config) (documents : List Document) : Library × Diagnostics :=
  let parts := documents.zipIdx.map fun (document, id) => extractOne config id document
  (⟨parts.flatMap (·.1.classes), parts.flatMap (·.1.interfaces)⟩, parts.flatMap (·.2))

end DartBindings.Extraction
