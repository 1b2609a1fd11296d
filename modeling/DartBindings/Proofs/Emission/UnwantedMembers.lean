import Mathlib.Data.List.Basic
import DartBindings.Emission.Unit

/-!
Members that are not wanted leave no trace.

A unit is made from what is left of a class without the members that the configuration refuses, and
without its interfaces and fields, which no unit shows.  Classes that agree on what is left therefore
have one unit, with the same hoisted shapes in the same order, and the same reports.

Main exports: trimmed, AgreeOnWanted, Emitter.unit_eq_of_agreeOnWanted
-/

namespace DartBindings.Emission

/-- The class without what its unit does not show. -/
def trimmed (config : Config) (cls : Class) : Class :=
  let wants := config.includesMember cls.name
  { cls with
    interfaces := []
    constructors := cls.constructors.filter fun _ => wants constructorKey
    properties := []
    getters := cls.getters.filter fun getter => wants getter.name
    setters := cls.setters.filter fun setter => wants setter.name
    methods := cls.methods.filter fun method => wants method.name }

variable {config : Config} {cls twin : Class}

/-- Nothing more is left out of what is left. -/
theorem trimmed_trimmed (config : Config) (cls : Class) :
    trimmed config (trimmed config cls) = trimmed config cls := by
  simp [trimmed]

/-- The wanted members are those of the trimmed class.  Constructors share one key, so they are wanted
together or not at all. -/
theorem wantedMembers_eq (config : Config) (cls : Class) :
    wantedMembers config cls =
      let rest := trimmed config cls
      ⟨rest.constructors, rest.getters, rest.setters, rest.methods⟩ := by
  cases wanted : config.includesMember cls.name constructorKey <;>
    simp [wantedMembers, trimmed, wanted]

/-- What is left of a class has the same wanted members. -/
theorem wantedMembers_trimmed (config : Config) (cls : Class) :
    wantedMembers config (trimmed config cls) = wantedMembers config cls := by
  rw [wantedMembers_eq, wantedMembers_eq, trimmed_trimmed]

/-- Shapes are hoisted from the trimmed class. -/
theorem hoistedShapes_trimmed (config : Config) (cls : Class) :
    hoistedShapes config (trimmed config cls) = hoistedShapes config cls := by
  unfold hoistedShapes
  rw [wantedMembers_trimmed]
  rfl

/-- A unit is made from the trimmed class. -/
theorem Emitter.items_trimmed (emitter : Emitter) (cls : Class) :
    emitter.items (trimmed emitter.config cls) = emitter.items cls := by
  have members : emitter.memberItems (trimmed emitter.config cls) = emitter.memberItems cls := by
    unfold Emitter.memberItems
    rw [wantedMembers_trimmed]
    rfl
  have hoisted : emitter.hoistedItems (trimmed emitter.config cls) = emitter.hoistedItems cls := by
    rw [Emitter.hoistedItems, hoistedShapes_trimmed, Emitter.hoistedItems]
  unfold Emitter.items
  rw [members, hoisted]
  rfl

/-- Two classes agree on their heads, and on their members once those that the configuration refuses
are taken out.  Nothing is said of their interfaces and fields. -/
structure AgreeOnWanted (config : Config) (cls twin : Class) : Prop where
  name : cls.name = twin.name
  isAbstract : cls.isAbstract = twin.isAbstract
  typeParams : cls.typeParams = twin.typeParams
  superType : cls.superType = twin.superType
  doc : cls.doc = twin.doc
  constructors :
    (cls.constructors.filter fun _ => config.includesMember cls.name constructorKey) =
      twin.constructors.filter fun _ => config.includesMember twin.name constructorKey
  getters :
    (cls.getters.filter fun getter => config.includesMember cls.name getter.name) =
      twin.getters.filter fun getter => config.includesMember twin.name getter.name
  setters :
    (cls.setters.filter fun setter => config.includesMember cls.name setter.name) =
      twin.setters.filter fun setter => config.includesMember twin.name setter.name
  methods :
    (cls.methods.filter fun method => config.includesMember cls.name method.name) =
      twin.methods.filter fun method => config.includesMember twin.name method.name

/-- Classes that agree on the wanted members leave the same. -/
theorem AgreeOnWanted.trimmed_eq (agree : AgreeOnWanted config cls twin) :
    trimmed config cls = trimmed config twin := by
  unfold trimmed
  rw [Class.mk.injEq]
  exact ⟨agree.name, agree.isAbstract, agree.typeParams, agree.superType, rfl, agree.constructors,
    rfl, agree.getters, agree.setters, agree.methods, agree.doc⟩

/-- Classes that agree on what is wanted have one unit, the same hoisted shapes in the same order, and
the same reports. -/
theorem Emitter.unit_eq_of_agreeOnWanted (emitter : Emitter)
    (agree : AgreeOnWanted emitter.config cls twin) :
    emitter.unit cls = emitter.unit twin ∧
      hoistedShapes emitter.config cls = hoistedShapes emitter.config twin ∧
      emitter.reports cls = emitter.reports twin := by
  have items : emitter.items cls = emitter.items twin := by
    rw [← emitter.items_trimmed cls, agree.trimmed_eq, emitter.items_trimmed]
  refine ⟨?_, ?_, ?_⟩
  · rw [Emitter.unit, Emitter.unit, items, agree.name]
  · rw [← hoistedShapes_trimmed, agree.trimmed_eq, hoistedShapes_trimmed]
  · rw [Emitter.reports, Emitter.reports, items]

/-- The configuration that wants one method of a class. -/
def wantingOptions : Config :=
  { libraryName := "lib", declarations := Table.empty.set "Light" (.including ["options"]) }

/-- A class whose method gives a shape. -/
def light : Class :=
  { name := "Light"
    methods :=
      [ { name := "options"
          result := .literal { properties := [{ name := "shadows", type := .ofName "bool" }] } } ] }

/-- The same class with members that are not wanted.  The shape in its constructor would take the name
of the wanted one, and its method cannot be written. -/
def brokenLight : Class :=
  { light with
    interfaces := [{ name := "Lamp" }]
    constructors :=
      [ { parameters :=
            [ { name := "optionsResult"
                type := .literal { properties := [{ name := "x", type := .ofName "num" }] } } ] } ]
    methods :=
      { name := "move", result := .ofName "void"
        parameters :=
          [ { name := "offset", type := .ofName "num", optional := true },
            { name := "target", type := .ofName "Node" } ] } :: light.methods }

/-- A light, and the same light with unwanted members of which one cannot be written. -/
theorem Emitter.unit_eq_of_agreeOnWanted_light :
    AgreeOnWanted wantingOptions light brokenLight ∧
      let emitter : Emitter := ⟨wantingOptions, .identity⟩
      emitter.unit light = emitter.unit brokenLight ∧
        hoistedShapes wantingOptions light = hoistedShapes wantingOptions brokenLight ∧
        emitter.reports light = emitter.reports brokenLight := by
  have agree : AgreeOnWanted wantingOptions light brokenLight :=
    ⟨rfl, rfl, rfl, rfl, rfl, rfl, rfl, rfl, rfl⟩
  exact ⟨agree, Emitter.unit_eq_of_agreeOnWanted ⟨wantingOptions, .identity⟩ agree⟩

end DartBindings.Emission
