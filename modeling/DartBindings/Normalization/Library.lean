import DartBindings.Heritage.Reference
import DartBindings.Normalization.Accessor
import DartBindings.Normalization.Constructor
import DartBindings.Normalization.Override

/-!
Normalization: from the library that the sources declare to the library that is emitted.

Names in heritages that mean nothing are reported once.  Then fields become accessors, accessors that
interfaces demand are added, constructors are inherited, and overriding methods take over parameters.

Main exports: Library.normalize, Library.normalizeReporting
-/

namespace DartBindings

/-- The library as it is emitted. -/
def Library.normalize (library : Library) : Library :=
  Normalization.unifyOverrides
    (Normalization.inheritConstructors
      (Normalization.addDemandedAccessors library (Normalization.desugarFields library)))

/-- The library as it is emitted, with the reports so far and those of normalization. -/
def Library.normalizeReporting (library : Library) (reports : Diagnostics) :
    Library × Diagnostics :=
  (library.normalize, reports ++ Heritage.unresolvedReferences library)

end DartBindings
