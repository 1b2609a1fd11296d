import DartBindings.Emission.Unit
import Mathlib.Data.List.Basic

/-!
The types that a unit spells, and the places where it spells them.

The wanted members of a class have their sites, and so has every hoisted shape.  What a unit writes
of them depends on the mapper only through the spellings at these sites, and the walk that hoists
shapes goes through the same sites in the same order.

Main exports: Site, memberSites, shapeSites, memberItems_congr, shapeItems_congr
-/

namespace DartBindings.Emission

/-- A type and the place where it is spelled. -/
structure Site where
  place : Scope
  type : Ty

/-- The sites of the parameters of what a place leads to. -/
def parameterSites (scope : Scope) (parameters : List Parameter) : List Site :=
  parameters.map fun parameter => ⟨scope.enter .parameter parameter.name, parameter.type⟩

/-- The sites of a signature at a place, with the result in front. -/
def signatureSites (scope : Scope) (signature : Signature) : List Site :=
  ⟨scope.enterResult, signature.result⟩ :: parameterSites scope signature.parameters

/-- The sites of a hoisted shape: its properties, and its calls. -/
def shapeSites (name : String) (shape : Shape) : List Site :=
  shape.properties.map (fun property =>
      ⟨(shapeScope name).enter .property property.name, property.type⟩)
    ++ shape.calls.flatMap (signatureSites ((shapeScope name).enter .method callName))

/-- The sites of the wanted members of a class, whether or not their parameters can be written. -/
def memberSites (config : Config) (cls : Class) : List Site :=
  let scope := classScope cls
  let members := wantedMembers config cls
  members.constructors.flatMap (fun constructor => parameterSites scope constructor.parameters)
    ++ members.getters.map (fun getter => ⟨scope.enter .getter getter.name, getter.type⟩)
    ++ members.setters.map (fun setter => ⟨scope.enter .setter setter.name, setter.parameter.type⟩)
    ++ members.methods.flatMap fun method =>
      signatureSites (scope.enter .method method.name) ⟨method.result, method.parameters⟩

/-- Two mappers spell the type of a site alike. -/
def SpelledAlike (first second : TypeMapper) (site : Site) : Prop :=
  first.render site.place site.type = second.render site.place site.type

section Writing

variable {config : Config} {first second : TypeMapper}

theorem parameterList_congr {scope : Scope} {parameters : List Parameter}
    (alike : ∀ site ∈ parameterSites scope parameters, SpelledAlike first second site) :
    (⟨config, first⟩ : Emitter).parameterList scope parameters
      = (⟨config, second⟩ : Emitter).parameterList scope parameters := by
  have texts : ∀ parameter ∈ parameters,
      (⟨config, first⟩ : Emitter).parameterText scope parameter
        = (⟨config, second⟩ : Emitter).parameterText scope parameter := by
    intro parameter member
    unfold Emitter.parameterText
    rw [alike _ (List.mem_map_of_mem member)]
  have required :
      (requiredParameters parameters).map (Emitter.parameterText ⟨config, first⟩ scope)
        = (requiredParameters parameters).map
            (Emitter.parameterText ⟨config, second⟩ scope) := by
    apply List.map_congr_left
    intro parameter member
    exact texts parameter ((List.takeWhile_sublist _).subset member)
  have optional :
      (parametersFromOptional parameters).map (Emitter.parameterText ⟨config, first⟩ scope)
        = (parametersFromOptional parameters).map
            (Emitter.parameterText ⟨config, second⟩ scope) := by
    apply List.map_congr_left
    intro parameter member
    exact texts parameter ((List.dropWhile_sublist _).subset member)
  simp only [Emitter.parameterList, required, optional]

theorem constructorItem_congr {cls : Class} {constructor : Constructor}
    (alike : ∀ site ∈ parameterSites (classScope cls) constructor.parameters,
      SpelledAlike first second site) :
    (⟨config, first⟩ : Emitter).constructorItem cls constructor
      = (⟨config, second⟩ : Emitter).constructorItem cls constructor := by
  simp only [Emitter.constructorItem, Emitter.callable, parameterList_congr alike]

theorem methodItem_congr {cls : Class} {method : Method}
    (alike : ∀ site ∈ signatureSites ((classScope cls).enter .method method.name)
      ⟨method.result, method.parameters⟩, SpelledAlike first second site) :
    (⟨config, first⟩ : Emitter).methodItem cls method
      = (⟨config, second⟩ : Emitter).methodItem cls method := by
  obtain ⟨result, parameters⟩ := List.forall_mem_cons.1 alike
  unfold SpelledAlike at result
  simp only [Emitter.methodItem, Emitter.callable, parameterList_congr parameters, result]

theorem shapeCall_congr {name : String} {signature : Signature}
    (alike : ∀ site ∈ signatureSites ((shapeScope name).enter .method callName) signature,
      SpelledAlike first second site) :
    (⟨config, first⟩ : Emitter).shapeCall name signature
      = (⟨config, second⟩ : Emitter).shapeCall name signature := by
  obtain ⟨result, parameters⟩ := List.forall_mem_cons.1 alike
  unfold SpelledAlike at result
  simp only [Emitter.shapeCall, Emitter.callable, parameterList_congr parameters, result]

/-- Mappers that spell the sites of the wanted members alike give the same members. -/
theorem memberItems_congr {cls : Class}
    (alike : ∀ site ∈ memberSites config cls, SpelledAlike first second site) :
    (⟨config, first⟩ : Emitter).memberItems cls = (⟨config, second⟩ : Emitter).memberItems cls := by
  simp only [memberSites, List.forall_mem_append, List.forall_mem_flatMap, List.forall_mem_map]
    at alike
  obtain ⟨⟨⟨constructors, getters⟩, setters⟩, methods⟩ := alike
  unfold SpelledAlike at getters setters
  have constructorItems : ∀ constructor ∈ (wantedMembers config cls).constructors,
      (⟨config, first⟩ : Emitter).constructorItem cls constructor
        = (⟨config, second⟩ : Emitter).constructorItem cls constructor :=
    fun constructor member => constructorItem_congr (constructors constructor member)
  have getterItems : ∀ getter ∈ (wantedMembers config cls).getters,
      (⟨config, first⟩ : Emitter).getterItem cls getter
        = (⟨config, second⟩ : Emitter).getterItem cls getter := by
    intro getter member
    simp only [Emitter.getterItem, getters getter member]
  have setterItems : ∀ setter ∈ (wantedMembers config cls).setters,
      (⟨config, first⟩ : Emitter).setterItem cls setter
        = (⟨config, second⟩ : Emitter).setterItem cls setter := by
    intro setter member
    simp only [Emitter.setterItem, setters setter member]
  have methodItems : ∀ method ∈ (wantedMembers config cls).methods,
      (⟨config, first⟩ : Emitter).methodItem cls method
        = (⟨config, second⟩ : Emitter).methodItem cls method :=
    fun method member => methodItem_congr (methods method member)
  simp only [Emitter.memberItems, List.map_congr_left constructorItems,
    List.map_congr_left getterItems, List.map_congr_left setterItems,
    List.map_congr_left methodItems]

/-- Mappers that spell the sites of a hoisted shape alike give the same declaration of it. -/
theorem shapeItems_congr {name : String} {shape : Shape}
    (alike : ∀ site ∈ shapeSites name shape, SpelledAlike first second site) :
    (⟨config, first⟩ : Emitter).shapeItems name shape
      = (⟨config, second⟩ : Emitter).shapeItems name shape := by
  simp only [shapeSites, List.forall_mem_append, List.forall_mem_flatMap, List.forall_mem_map]
    at alike
  obtain ⟨properties, calls⟩ := alike
  have types : ∀ property ∈ shape.properties,
      (⟨config, first⟩ : Emitter).shapePropertyType name property
        = (⟨config, second⟩ : Emitter).shapePropertyType name property :=
    properties
  have fields : ∀ property ∈ shape.properties,
      Spelling.typed ((⟨config, first⟩ : Emitter).shapePropertyType name property) property.name
        = Spelling.typed ((⟨config, second⟩ : Emitter).shapePropertyType name property)
            property.name := by
    intro property member
    rw [types property member]
  have getters : ∀ property ∈ shape.properties,
      (⟨config, first⟩ : Emitter).shapeGetter name property
        = (⟨config, second⟩ : Emitter).shapeGetter name property := by
    intro property member
    simp only [Emitter.shapeGetter, types property member]
  have callItems : ∀ signature ∈ shape.calls,
      (⟨config, first⟩ : Emitter).shapeCall name signature
        = (⟨config, second⟩ : Emitter).shapeCall name signature :=
    fun signature member => shapeCall_congr (calls signature member)
  simp only [Emitter.shapeItems, Emitter.shapeHead, List.map_congr_left fields,
    List.map_congr_left getters, List.map_congr_left callItems]

end Writing

/-- The shapes found so far and those at sites. -/
def collectSites (found : Table Shape) (sites : List Site) : Table Shape :=
  sites.foldl (fun found site => collect site.place found site.type) found

theorem collectParameters_eq (scope : Scope) (found : Table Shape) (parameters : List Parameter) :
    collectParameters scope found parameters
      = collectSites found (parameterSites scope parameters) := by
  induction parameters generalizing found with
  | nil =>
      rfl
  | cons parameter rest ih =>
      obtain ⟨name, type, optional, doc⟩ := parameter
      rw [collectParameters, ih]
      rfl

/-- The walk through a signature goes through its sites, the result first. -/
theorem collectSignature_eq (scope : Scope) (found : Table Shape) (signature : Signature) :
    collectParameters scope (collect scope.enterResult found signature.result) signature.parameters
      = collectSites found (signatureSites scope signature) :=
  collectParameters_eq scope _ signature.parameters

theorem collectSites_append (found : Table Shape) (front rest : List Site) :
    collectSites found (front ++ rest) = collectSites (collectSites found front) rest :=
  List.foldl_append

theorem collectProperties_eq (scope : Scope) (found : Table Shape) (properties : List Property) :
    collectProperties scope found properties
      = collectSites found (properties.map fun property =>
          ⟨scope.enter .property property.name, property.type⟩) := by
  induction properties generalizing found with
  | nil =>
      rfl
  | cons property rest ih =>
      obtain ⟨name, type, isStatic, isReadonly, doc⟩ := property
      rw [collectProperties, ih]
      rfl

theorem collectCalls_eq (scope : Scope) (found : Table Shape) (calls : List Signature) :
    collectCalls scope found calls = collectSites found (calls.flatMap (signatureSites scope)) := by
  induction calls generalizing found with
  | nil =>
      rfl
  | cons signature rest ih =>
      obtain ⟨result, parameters⟩ := signature
      rw [collectCalls, ih, List.flatMap_cons, collectSites_append, ← collectSignature_eq]

/-- A shape of a new name is recorded, and then the walk goes through its sites. -/
theorem collect_literal (scope : Scope) (found : Table Shape) (shape : Shape) :
    collect scope found (.literal shape)
      = if found.contains scope.literalName then found
        else collectSites (found.set scope.literalName shape)
          (shapeSites scope.literalName shape) := by
  obtain ⟨properties, calls⟩ := shape
  rw [collect, collectCalls_eq, collectProperties_eq, ← collectSites_append]
  rfl

/-- Hoisting goes through the sites of the wanted members. -/
theorem hoistedShapes_eq (config : Config) (cls : Class) :
    hoistedShapes config cls = collectSites Table.empty (memberSites config cls) := by
  have constructors : collectConstructor (classScope cls) = fun found constructor =>
      collectSites found (parameterSites (classScope cls) constructor.parameters) := by
    funext found constructor
    exact collectParameters_eq (classScope cls) found constructor.parameters
  have methods : collectMethod (classScope cls) = fun found method =>
      collectSites found (signatureSites ((classScope cls).enter .method method.name)
        ⟨method.result, method.parameters⟩) := by
    funext found method
    exact collectSignature_eq ((classScope cls).enter .method method.name) found
      ⟨method.result, method.parameters⟩
  simp only [hoistedShapes, memberSites, constructors, methods, collectSites, List.foldl_append,
    List.foldl_flatMap, List.foldl_map]
  rfl

end DartBindings.Emission
