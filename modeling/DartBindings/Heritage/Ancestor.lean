import DartBindings.Heritage.Binding
import DartBindings.Heritage.Unvisited
import DartBindings.Library.Basic

/-!
Walks over the heritage of classes and interfaces.

A name that means nothing in the library contributes nothing, and a declaration is visited once, so
that cyclic heritage ends a walk.  Each declaration comes with its type parameters bound as seen from
the class where the walk began.

Main exports: ancestors, demands, implementedInterfaces
-/

namespace DartBindings

/-- The names of the classes of a library. -/
def Library.classNames (library : Library) : List String :=
  library.classes.map (·.name)

/-- The names of the interfaces of a library. -/
def Library.interfaceNames (library : Library) : List String :=
  library.interfaces.map (·.name)

/-- A class that is found has one of the names of the library. -/
theorem Library.name_mem_of_class? {library : Library} {name : String} {cls : Class}
    (h : library.class? name = some cls) : cls.name ∈ library.classNames :=
  List.mem_map.2 ⟨cls, List.mem_of_find?_eq_some h, rfl⟩

/-- An interface that is found has one of the names of the library. -/
theorem Library.name_mem_of_interface? {library : Library} {name : String} {interface : Interface}
    (h : library.interface? name = some interface) : interface.name ∈ library.interfaceNames :=
  List.mem_map.2 ⟨interface, List.mem_of_find?_eq_some h, rfl⟩

namespace Heritage

/-- A class above another one, and what its type parameters are bound to as seen from there. -/
structure Ancestor where
  cls : Class
  bindings : Bindings
deriving Inhabited

/-- The classes from a super type upward, nearest first, given the names of the classes already
visited and the bindings of the class below. -/
def ancestorsFrom (library : Library) (visited : List String) (bindings : Bindings) :
    Option NamedType → List Ancestor
  | none => []
  | some superType =>
      match found : library.class? superType.name with
      | none => []
      | some parent =>
          if fresh : parent.name ∉ visited then
            have : unvisited (parent.name :: visited) library.classNames
                < unvisited visited library.classNames :=
              unvisited_cons_lt (Library.name_mem_of_class? found) fresh
            let bound := bind parent.typeParams superType.args bindings
            ⟨parent, bound⟩
              :: ancestorsFrom library (parent.name :: visited) bound parent.superType
          else []
termination_by unvisited visited library.classNames

/-- The classes above a class, nearest first. -/
def ancestors (library : Library) (cls : Class) : List Ancestor :=
  ancestorsFrom library [cls.name] [] cls.superType

/-- An interface that a class has, and what its type parameters are bound to as seen from there. -/
structure Implemented where
  interface : Interface
  bindings : Bindings
deriving Inhabited

/-- A named interface and the bindings of the declaration that names it. -/
structure Demand where
  reference : NamedType
  bindings : Bindings
deriving Inhabited

/-- The interfaces that demands lead to, each followed by what it extends, given the names of the
interfaces already visited. -/
def interfacesFrom (library : Library) (visited : List String) :
    List Demand → List Implemented
  | [] => []
  | demand :: rest =>
      match found : library.interface? demand.reference.name with
      | none => interfacesFrom library visited rest
      | some interface =>
          if fresh : interface.name ∉ visited then
            have : unvisited (interface.name :: visited) library.interfaceNames
                < unvisited visited library.interfaceNames :=
              unvisited_cons_lt (Library.name_mem_of_interface? found) fresh
            let bound := bind interface.typeParams demand.reference.args demand.bindings
            ⟨interface, bound⟩
              :: interfacesFrom library (interface.name :: visited)
                (interface.superTypes.map (⟨·, bound⟩) ++ rest)
          else interfacesFrom library visited rest
termination_by demands => (unvisited visited library.interfaceNames, demands.length)

/-- What a class and the classes above it implement, nearest first. -/
def demands (library : Library) (cls : Class) : List Demand :=
  cls.interfaces.map (⟨·, []⟩)
    ++ (ancestors library cls).flatMap fun ancestor =>
      ancestor.cls.interfaces.map (⟨·, ancestor.bindings⟩)

/-- The interfaces that a class has: those it or a class above it implements, and everything that
these extend.  Each comes once, as the nearest place names it. -/
def implementedInterfaces (library : Library) (cls : Class) : List Implemented :=
  interfacesFrom library [] (demands library cls)

end Heritage

end DartBindings
