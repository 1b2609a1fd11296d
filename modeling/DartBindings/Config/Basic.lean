import DartBindings.Table

/-!
Configurations: the name of the library, where output goes, which files are read, how type names are
replaced, and which declarations and members are wanted.

Main exports: MemberFilter, MemberFilter.accepts, Config, Config.includesMember
-/

namespace DartBindings

/-- Which members of a declaration are wanted.  An excluded member never is; with a list of included
members, no other one is. -/
structure MemberFilter where
  included : Option (List String) := none
  excluded : List String := []
deriving Repr, DecidableEq, Inhabited

namespace MemberFilter

/-- Every member is wanted. -/
def all : MemberFilter := {}

/-- Only the listed members are wanted. -/
def including (members : List String) : MemberFilter :=
  { included := some members }

/-- Only members outside the list are wanted. -/
def excluding (members : List String) : MemberFilter :=
  { excluded := members }

/-- Whether a member is wanted. -/
def accepts (filter : MemberFilter) (member : String) : Bool :=
  !filter.excluded.contains member &&
    match filter.included with
    | none => true
    | some members => members.contains member

end MemberFilter

/-- What a run of the generator is told. -/
structure Config where
  libraryName : String
  outDir : String := "."
  inputs : List String := []
  replacements : Table String := Table.empty
  declarations : Table MemberFilter := Table.empty
deriving Inhabited

namespace Config

/-- The configuration that writes to the directory. -/
def withOutDir (config : Config) (directory : String) : Config :=
  { config with outDir := directory }

/-- The configuration with one more file to read. -/
def withInput (config : Config) (input : String) : Config :=
  { config with inputs := config.inputs ++ [input] }

/-- The configuration that replaces what the pattern matches by the template. -/
def replacing (config : Config) (pattern template : String) : Config :=
  { config with replacements := config.replacements.set pattern template }

/-- The configuration that wants a declaration with the members that a filter accepts. -/
def declaring (config : Config) (name : String) (filter : MemberFilter) : Config :=
  { config with declarations := config.declarations.set name filter }

/-- Whether a declaration is wanted. -/
def includesDeclaration (config : Config) (name : String) : Bool :=
  config.declarations.contains name

/-- Whether a member of a declaration is wanted.  Constructors go by the name `constructor`. -/
def includesMember (config : Config) (declaration member : String) : Bool :=
  match config.declarations.find? declaration with
  | none => false
  | some filter => filter.accepts member

end Config

end DartBindings
