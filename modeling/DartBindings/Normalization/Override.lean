import DartBindings.Heritage.Ancestor
import DartBindings.Normalization.Step

/-!
Parameters of overriding methods.

A method that overrides another one must accept what that one accepts.  It takes over the parameters
that the topmost class above it has for the method, as they stand; if no class above has it, those of
the last interface that has it, as seen from the class.

Main exports: overriddenParameters?, withUnifiedMethods, unifyOverrides
-/

namespace DartBindings.Normalization

/-- The parameters that the interfaces of a class give a method. -/
def interfaceParameters? (library : Library) (cls : Class) (name : String) :
    Option (List Parameter) :=
  ((Heritage.implementedInterfaces library cls).filterMap fun implemented =>
    (implemented.interface.method? name).map fun method =>
      Parameter.substituteAll implemented.bindings method.parameters).getLast?

/-- The parameters that the classes above a class give a method. -/
def ancestorParameters? (library : Library) (cls : Class) (name : String) :
    Option (List Parameter) :=
  ((Heritage.ancestors library cls).filterMap fun ancestor =>
    (ancestor.cls.method? name).map (·.parameters)).getLast?

/-- The parameters that a method of a class takes over. -/
def overriddenParameters? (library : Library) (cls : Class) (name : String) :
    Option (List Parameter) :=
  (ancestorParameters? library cls name).or (interfaceParameters? library cls name)

/-- The class whose methods take over the parameters of what they override. -/
def withUnifiedMethods (library : Library) (cls : Class) : Class :=
  { cls with
    methods := cls.methods.map fun method =>
      { method with
        parameters :=
          (overriddenParameters? library cls method.name).getD method.parameters } }

/-- The library whose methods take over the parameters of what they override. -/
def unifyOverrides (library : Library) : Library :=
  pass withUnifiedMethods library

end DartBindings.Normalization
