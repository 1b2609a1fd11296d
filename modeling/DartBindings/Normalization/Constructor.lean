import DartBindings.Normalization.Step

/-!
Inherited constructors.

A declaration without constructors takes over the constructor of the class above it, as declared,
when that class has exactly one and it takes parameters.  An interface takes over the first such
constructor among the classes it extends.

Main exports: inheritable?, withInheritedConstructor, inheritConstructors
-/

namespace DartBindings.Normalization

/-- The constructor that can be taken over from a class. -/
def inheritable? (library : Library) (reference : NamedType) : Option Constructor :=
  match (library.class? reference.name).map (·.constructors) with
  | some [constructor] => if constructor.parameters.isEmpty then none else some constructor
  | _ => none

/-- The constructors of a declaration after taking over one if it has none. -/
def constructorsOr (own : List Constructor) (inherited : Option Constructor) :
    List Constructor :=
  if own.isEmpty then inherited.toList else own

/-- The class with the constructor that it takes over. -/
def withInheritedConstructor (library : Library) (cls : Class) : Class :=
  { cls with
    constructors := constructorsOr cls.constructors (cls.superType.bind (inheritable? library)) }

/-- The interface with the constructor that it takes over. -/
def interfaceWithInheritedConstructor (library : Library) (interface : Interface) :
    Interface :=
  { interface with
    constructors :=
      constructorsOr interface.constructors
        (interface.superTypes.findSome? (inheritable? library)) }

/-- The library with inherited constructors, those of classes first. -/
def inheritConstructors (library : Library) : Library :=
  let inherited := pass withInheritedConstructor library
  { inherited with
    interfaces := inherited.interfaces.map (interfaceWithInheritedConstructor inherited) }

end DartBindings.Normalization
