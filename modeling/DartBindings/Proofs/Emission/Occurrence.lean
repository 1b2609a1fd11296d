import DartBindings.Proofs.Emission.Site
import DartBindings.Proofs.Replacement.Reach

/-!
Where shapes occur in a type.

The occurrences are listed in the order of the walk that hoists shapes.  What stands inside a shape
is not among them: a shape has sites of its own.  The occurrences in a type are the shapes that a
mapper without rules comes to, and the walk through a type notes them one after the other.

Main exports: Occurrence, shapesIn, mem_shapesIn_iff, collectSites_eq_foldl
-/

namespace DartBindings.Emission

/-- A shape and the place where it occurs. -/
structure Occurrence where
  place : Scope
  shape : Shape

/-- The name of a shape at its place. -/
def Occurrence.name (occurrence : Occurrence) : String :=
  occurrence.place.literalName

mutual

/-- The shapes in a type at a place. -/
def shapesIn (scope : Scope) : Ty → List Occurrence
  | .named ⟨_, args, _⟩ => shapesInAll scope args
  | .function ⟨result, parameters⟩ =>
      shapesIn scope.enterResult result ++ shapesInParameters scope parameters
  | .literal shape => [⟨scope, shape⟩]

/-- The shapes in types at one place. -/
def shapesInAll (scope : Scope) : List Ty → List Occurrence
  | [] => []
  | type :: rest => shapesIn scope type ++ shapesInAll scope rest

/-- The shapes in the parameters of what a place leads to. -/
def shapesInParameters (scope : Scope) : List Parameter → List Occurrence
  | [] => []
  | ⟨name, type, _, _⟩ :: rest =>
      shapesIn (scope.enter .parameter name) type ++ shapesInParameters scope rest

end

/-- The shapes in the type of a site. -/
def Site.shapes (site : Site) : List Occurrence :=
  shapesIn site.place site.type

theorem shapesInAll_eq (scope : Scope) (types : List Ty) :
    shapesInAll scope types = types.flatMap (shapesIn scope) := by
  induction types with
  | nil =>
      rfl
  | cons type rest ih =>
      rw [shapesInAll, ih, List.flatMap_cons]

theorem shapesInParameters_eq (scope : Scope) (parameters : List Parameter) :
    shapesInParameters scope parameters = (parameterSites scope parameters).flatMap Site.shapes := by
  induction parameters with
  | nil =>
      rfl
  | cons parameter rest ih =>
      obtain ⟨name, type, optional, doc⟩ := parameter
      rw [shapesInParameters, ih]
      rfl

theorem shapesIn_named (scope : Scope) (candidate : NamedType) :
    shapesIn scope (.named candidate) = candidate.args.flatMap (shapesIn scope) := by
  obtain ⟨name, args, isArray⟩ := candidate
  rw [shapesIn, shapesInAll_eq]

theorem shapesIn_function (scope : Scope) (signature : Signature) :
    shapesIn scope (.function signature) = (signatureSites scope signature).flatMap Site.shapes := by
  obtain ⟨result, parameters⟩ := signature
  rw [shapesIn, shapesInParameters_eq]
  rfl

theorem shapesIn_literal (scope : Scope) (shape : Shape) :
    shapesIn scope (.literal shape) = [⟨scope, shape⟩] := by
  rw [shapesIn]

/-- The sites of a signature are its result and its parameters. -/
theorem mem_signatureSites_iff {scope : Scope} {signature : Signature} {site : Site} :
    site ∈ signatureSites scope signature ↔
      site = ⟨scope.enterResult, signature.result⟩ ∨
        ∃ parameter ∈ signature.parameters,
          site = ⟨scope.enter .parameter parameter.name, parameter.type⟩ := by
  simp only [signatureSites, parameterSites, List.mem_cons, List.mem_map, eq_comm]

/-- A mapper without rules comes to every shape in a type. -/
theorem comesTo_of_mem_shapesIn {occurrence : Occurrence} :
    ∀ {scope : Scope} {type : Ty}, occurrence ∈ shapesIn scope type →
      TypeMapper.identity.ComesTo scope type occurrence.place (.literal occurrence.shape)
  | scope, .literal shape, member => by
      rw [shapesIn_literal, List.mem_singleton] at member
      cases member
      exact .here
  | scope, .function signature, member => by
      rw [shapesIn_function, List.mem_flatMap] at member
      obtain ⟨site, isSite, inside⟩ := member
      rcases mem_signatureSites_iff.1 isSite with rfl | ⟨parameter, isParameter, rfl⟩
      · exact .result (comesTo_of_mem_shapesIn inside)
      · exact .parameter isParameter (comesTo_of_mem_shapesIn inside)
  | scope, .named candidate, member => by
      rw [shapesIn_named, List.mem_flatMap] at member
      obtain ⟨arg, isArg, inside⟩ := member
      exact .argument (TypeMapper.ruleFor?_identity candidate) isArg
        (comesTo_of_mem_shapesIn inside)
termination_by _ type => sizeOf type
decreasing_by
  · exact Ty.sizeOf_result_lt signature
  · exact Ty.sizeOf_parameter_lt isParameter
  · exact Ty.sizeOf_arg_lt isArg

/-- A mapper without rules comes only to the shapes in a type. -/
theorem mem_shapesIn_of_comesTo {scope place : Scope} {type inner : Ty}
    (further : TypeMapper.identity.ComesTo scope type place inner) :
    ∀ {shape : Shape}, inner = .literal shape → ⟨place, shape⟩ ∈ shapesIn scope type := by
  induction further with
  | here =>
      rintro shape rfl
      rw [shapesIn_literal]
      exact List.mem_singleton_self _
  | argument _ member _ ih =>
      intro shape isShape
      rw [shapesIn_named]
      exact List.mem_flatMap.2 ⟨_, member, ih isShape⟩
  | bound matched _ _ _ _ =>
      cases matched
  | result _ ih =>
      intro shape isShape
      rw [shapesIn_function]
      exact List.mem_flatMap.2 ⟨_, mem_signatureSites_iff.2 (.inl rfl), ih isShape⟩
  | parameter member _ ih =>
      intro shape isShape
      rw [shapesIn_function]
      exact List.mem_flatMap.2 ⟨_, mem_signatureSites_iff.2 (.inr ⟨_, member, rfl⟩), ih isShape⟩

/-- The shapes in a type are those that a mapper without rules comes to. -/
theorem mem_shapesIn_iff {scope : Scope} {type : Ty} {occurrence : Occurrence} :
    occurrence ∈ shapesIn scope type ↔
      TypeMapper.identity.ComesTo scope type occurrence.place (.literal occurrence.shape) :=
  ⟨comesTo_of_mem_shapesIn, fun further => mem_shapesIn_of_comesTo further rfl⟩

/-- A shape in a type is smaller than the type. -/
theorem sizeOf_lt_of_mem_shapesIn {scope : Scope} {type : Ty} {occurrence : Occurrence}
    (member : occurrence ∈ shapesIn scope type) : sizeOf occurrence.shape < sizeOf type := by
  have inside := (comesTo_of_mem_shapesIn member).sizeOf_le
  simp only [Ty.literal.sizeOf_spec] at inside
  omega

/-- The table with the shape of an occurrence, and with the shapes inside it if its name is new. -/
def note (found : Table Shape) (occurrence : Occurrence) : Table Shape :=
  collect occurrence.place found (.literal occurrence.shape)

mutual

/-- The walk through a type notes the shapes in it. -/
theorem collect_eq_foldl (scope : Scope) (found : Table Shape) :
    ∀ type : Ty, collect scope found type = (shapesIn scope type).foldl note found
  | .named ⟨name, args, isArray⟩ => by
      rw [collect, shapesIn]
      exact collectAll_eq_foldl scope found args
  | .function ⟨result, parameters⟩ => by
      rw [collect, shapesIn, List.foldl_append, ← collect_eq_foldl scope.enterResult found result]
      exact collectParameters_eq_foldl scope _ parameters
  | .literal shape => by
      rw [shapesIn]
      rfl

theorem collectAll_eq_foldl (scope : Scope) (found : Table Shape) :
    ∀ types : List Ty, collectAll scope found types = (shapesInAll scope types).foldl note found
  | [] => rfl
  | type :: rest => by
      rw [collectAll, shapesInAll, List.foldl_append, ← collect_eq_foldl scope found type]
      exact collectAll_eq_foldl scope _ rest

theorem collectParameters_eq_foldl (scope : Scope) (found : Table Shape) :
    ∀ parameters : List Parameter,
      collectParameters scope found parameters
        = (shapesInParameters scope parameters).foldl note found
  | [] => rfl
  | ⟨name, type, optional, doc⟩ :: rest => by
      rw [collectParameters, shapesInParameters, List.foldl_append,
        ← collect_eq_foldl (scope.enter .parameter name) found type]
      exact collectParameters_eq_foldl scope _ rest

end

/-- The walk through sites notes the shapes in them. -/
theorem collectSites_eq_foldl (found : Table Shape) (sites : List Site) :
    collectSites found sites = (sites.flatMap Site.shapes).foldl note found := by
  rw [List.foldl_flatMap]
  exact congrArg (fun step => sites.foldl step found)
    (funext fun found => funext fun site => collect_eq_foldl site.place found site.type)

/-- A shape of a known name is passed over, one of a new name is recorded before the shapes in its
sites are noted. -/
theorem note_eq (found : Table Shape) (occurrence : Occurrence) :
    note found occurrence
      = if found.contains occurrence.name then found
        else ((shapeSites occurrence.name occurrence.shape).flatMap Site.shapes).foldl note
          (found.set occurrence.name occurrence.shape) := by
  rw [← collectSites_eq_foldl]
  exact collect_literal occurrence.place found occurrence.shape

end DartBindings.Emission
