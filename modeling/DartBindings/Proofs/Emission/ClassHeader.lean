import DartBindings.Proofs.Emission.HoistedNames

/-!
Shapes in the header of a class.

The header spells the super type of the class, and a shape among its arguments is spelled by the name of
its place like any other.  The walk that hoists shapes goes through the members only.  So a name in the
header is declared exactly when the members hoist the same shape under the same name, and a shape that is
an argument of the super type itself has the name of the class.

Main exports: Emitter.DeclaresHeader, declaresHeader_iff
-/

namespace DartBindings.Emission

open Replacement

variable {emitter : Emitter} {config : Config} {cls : Class} {place : Scope} {shape : Shape}

/-- To spell the super type in the header of the class, the mapper prints the name of the shape at the
place. -/
def Emitter.PrintsInHeader (emitter : Emitter) (cls : Class) (place : Scope) (shape : Shape) : Prop :=
  ∃ superType, cls.superType = some superType ∧
    emitter.mapper.ComesTo (classScope cls) (.named superType) place (.literal shape)

/-- Each name that the header prints for a shape is the name of a hoisted class with that shape, and is
not the name of the class itself. -/
def Emitter.DeclaresHeader (emitter : Emitter) (cls : Class) : Prop :=
  ∀ place shape, emitter.PrintsInHeader cls place shape →
    (hoistedShapes emitter.config cls).find? (emitter.mapper.render place (.literal shape)) =
        some shape ∧
      emitter.mapper.render place (.literal shape) ≠ cls.name

/-- The shapes in the header of a class. -/
def headerShapes (cls : Class) : List Occurrence :=
  cls.superType.toList.flatMap fun superType => shapesIn (classScope cls) (.named superType)

/-- The class without its super type. -/
def withoutSuper (cls : Class) : Class :=
  { cls with superType := none }

/-- What is printed in a header with rules occurs in it. -/
theorem Emitter.PrintsInHeader.occurrence (printed : emitter.PrintsInHeader cls place shape) :
    ⟨place, shape⟩ ∈ headerShapes cls := by
  obtain ⟨superType, extending, further⟩ := printed
  rw [headerShapes, extending, Option.toList_some, List.flatMap_singleton]
  exact mem_shapesIn_iff.2 further.without_rules

/-- A shape among the arguments of the super type is printed in the header. -/
theorem printsInHeader_of_mem_headerShapes {occurrence : Occurrence}
    (member : occurrence ∈ headerShapes cls) :
    (⟨config, .identity⟩ : Emitter).PrintsInHeader cls occurrence.place occurrence.shape := by
  obtain ⟨superType, extending, inside⟩ := List.mem_flatMap.1 member
  exact ⟨superType, Option.mem_toList.1 extending, mem_shapesIn_iff.1 inside⟩

/-- Hoisting does not look at the super type. -/
theorem hoistedShapes_withoutSuper (config : Config) (cls : Class) :
    hoistedShapes config (withoutSuper cls) = hoistedShapes config cls :=
  rfl

/-- Whatever the rules, the names in the header of a class are declared with the printed shapes exactly
when the class hoists each shape of its header under the same name without its super type as well, and
that name is not its own. -/
theorem declaresHeader_iff (config : Config) (cls : Class) :
    (∀ mapper, (⟨config, mapper⟩ : Emitter).DeclaresHeader cls) ↔
      ∀ occurrence ∈ headerShapes cls,
        (hoistedShapes config (withoutSuper cls)).find? occurrence.name = some occurrence.shape ∧
          occurrence.name ≠ cls.name := by
  rw [hoistedShapes_withoutSuper]
  constructor
  · intro declares occurrence member
    have printed := declares .identity _ _ (printsInHeader_of_mem_headerShapes member)
    rwa [TypeMapper.render_literal] at printed
  · intro hoisted mapper place shape printed
    rw [TypeMapper.render_literal]
    exact hoisted ⟨place, shape⟩ printed.occurrence

/-- The shape of what a handler is given. -/
def press : Shape :=
  { properties := [{ name := "x", type := .ofName "num" }] }

/-- The type of a handler. -/
def handler : Ty :=
  .function
    { result := .ofName "void", parameters := [{ name := "event", type := .literal press }] }

/-- A class without members whose super type has a handler as its argument. -/
def panel : Class :=
  { name := "Panel", superType := some { name := "Base", args := [handler] } }

/-- A header can print a name that the unit declares nowhere. -/
theorem not_declaresHeader_panel :
    ¬ ∀ (emitter : Emitter) (cls : Class), emitter.DeclaresHeader cls := by
  intro declares
  have printed : (⟨wantingAll "Panel", .identity⟩ : Emitter).PrintsInHeader panel
      ((classScope panel).enter .parameter "event") press :=
    ⟨_, rfl, .argument rfl List.mem_cons_self (.parameter List.mem_cons_self .here)⟩
  obtain ⟨isHoisted, -⟩ := declares _ _ _ _ printed
  have nothing : hoistedShapes (wantingAll "Panel") panel = Table.empty := rfl
  rw [nothing] at isHoisted
  cases isHoisted

end DartBindings.Emission
