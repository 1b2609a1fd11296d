import DartBindings.Diagnostic.Basic
import DartBindings.Library.Basic

/-!
Names in the heritage of declarations that mean nothing in the library.  A class extends classes and
implements interfaces; an interface may extend either.

Main exports: unresolvedReferences
-/

namespace DartBindings.Heritage

/-- The report of a name that means nothing. -/
def unresolved (kind : DiagnosticKind) (subject : String) (reference : NamedType) : Diagnostic :=
  { kind := kind, detail := some reference.name, subject := some subject }

/-- The reports of a class. -/
def unresolvedInClass (library : Library) (cls : Class) : Diagnostics :=
  ((cls.superType.toList.filter fun reference => (library.class? reference.name).isNone).map
      (unresolved .unresolvedClass cls.name))
    ++ (cls.interfaces.filter fun reference => (library.interface? reference.name).isNone).map
      (unresolved .unresolvedInterface cls.name)

/-- The reports of an interface. -/
def unresolvedInInterface (library : Library) (interface : Interface) : Diagnostics :=
  (interface.superTypes.filter fun reference =>
      (library.interface? reference.name).isNone && (library.class? reference.name).isNone).map
    (unresolved .unresolvedInterface interface.name)

/-- The reports of a library: those of its classes, then those of its interfaces. -/
def unresolvedReferences (library : Library) : Diagnostics :=
  library.classes.flatMap (unresolvedInClass library)
    ++ library.interfaces.flatMap (unresolvedInInterface library)

end DartBindings.Heritage
