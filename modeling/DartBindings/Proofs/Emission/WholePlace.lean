import DartBindings.Proofs.Emission.HoistedNames
import DartBindings.Proofs.Text.Capital

/-!
Names of shapes inside shapes.

The walk that hoists shapes goes on from a fresh place inside each of them, named after the shape.  The
whole place of a shape goes through the shapes around it, from the class inward.  Both have one name: a
name made from a place is capitalized, so that it is not changed where it becomes the first part of
further names.

Main exports: Within, Nested.exists_whole, literalName_of_whole_place
-/

namespace DartBindings

namespace Scope

/-- The path with further frames inside, the first of them outermost. -/
def enterAll (scope : Scope) (frames : List Frame) : Scope :=
  frames.foldl .child scope

theorem enterAll_append (scope : Scope) (frames further : List Frame) :
    scope.enterAll (frames ++ further) = (scope.enterAll frames).enterAll further :=
  List.foldl_append

/-- The name of a place is capitalized, whichever of its frames is the first one with a name. -/
theorem capitalize_literalName (scope : Scope) :
    Text.capitalize scope.literalName = scope.literalName := by
  induction scope with
  | root frame => exact Text.capitalize_capitalize frame.name
  | child outer frame ih => exact Text.capitalize_append ih (Text.capitalize_capitalize frame.name)

/-- Behind places of one name the same frames lead to places of one name. -/
theorem literalName_enterAll_congr {scope other : Scope}
    (same : scope.literalName = other.literalName) (frames : List Frame) :
    (scope.enterAll frames).literalName = (other.enterAll frames).literalName := by
  induction frames generalizing scope other with
  | nil => exact same
  | cons frame frames ih => exact ih (congrArg (· ++ Text.capitalize frame.name) same)

end Scope

namespace Emission

/-- The place of a hoisted shape has the name of the place where the shape was found. -/
theorem literalName_shapeScope (scope : Scope) :
    (shapeScope scope.literalName).literalName = scope.literalName :=
  scope.capitalize_literalName

/-- The sites of a shape behind the place where it stands. -/
def sitesBelow (scope : Scope) (shape : Shape) : List Site :=
  shape.properties.map (fun property => ⟨scope.enter .property property.name, property.type⟩)
    ++ shape.calls.flatMap (signatureSites (scope.enter .method callName))

/-- The shapes inside a shape, behind the place where it stands. -/
def shapesBelow (scope : Scope) (shape : Shape) : List Occurrence :=
  (sitesBelow scope shape).flatMap Site.shapes

/-- Inside a recorded shape the walk goes on from the fresh place of its name. -/
theorem shapesInside_eq (entry : String × Shape) :
    shapesInside entry = shapesBelow (shapeScope entry.1) entry.2 :=
  rfl

/-- The occurrences that are met, and whatever stands inside their shapes at any depth, at whole
places: what stands inside a shape stands behind the place of the shape. -/
inductive Within (met : List Occurrence) : Occurrence → Prop
  | met {occurrence : Occurrence} (member : occurrence ∈ met) : Within met occurrence
  | inside {outer inner : Occurrence} (within : Within met outer)
      (member : inner ∈ shapesBelow outer.place outer.shape) : Within met inner

/-! ### What stands behind a place stands behind every place -/

variable {scope : Scope} {site : Site} {occurrence : Occurrence}

/-- A site of a signature lies the same frames further on from every place. -/
theorem exists_frames_of_mem_signatureSites {signature : Signature}
    (member : site ∈ signatureSites scope signature) :
    ∃ frames, site.place = scope.enterAll frames ∧
      ∀ other : Scope, ⟨other.enterAll frames, site.type⟩ ∈ signatureSites other signature := by
  rcases mem_signatureSites_iff.1 member with rfl | ⟨parameter, isParameter, rfl⟩
  · exact ⟨[⟨.result, Scope.resultName⟩], rfl, fun _ => mem_signatureSites_iff.2 (.inl rfl)⟩
  · exact ⟨[⟨.parameter, parameter.name⟩], rfl,
      fun _ => mem_signatureSites_iff.2 (.inr ⟨parameter, isParameter, rfl⟩)⟩

theorem exists_frames_of_mem_sitesBelow {shape : Shape} (member : site ∈ sitesBelow scope shape) :
    ∃ frames, site.place = scope.enterAll frames ∧
      ∀ other : Scope, ⟨other.enterAll frames, site.type⟩ ∈ sitesBelow other shape := by
  rcases List.mem_append.1 member with inProperties | inCalls
  · obtain ⟨property, isProperty, rfl⟩ := List.mem_map.1 inProperties
    exact ⟨[⟨.property, property.name⟩], rfl,
      fun _ => List.mem_append_left _ (List.mem_map.2 ⟨property, isProperty, rfl⟩)⟩
  · obtain ⟨signature, isCall, isSite⟩ := List.mem_flatMap.1 inCalls
    obtain ⟨frames, place, everywhere⟩ := exists_frames_of_mem_signatureSites isSite
    exact ⟨⟨.method, callName⟩ :: frames, place,
      fun _ => List.mem_append_right _ (List.mem_flatMap.2 ⟨signature, isCall, everywhere _⟩)⟩

theorem exists_frames_of_mem_shapesIn :
    ∀ {scope : Scope} {type : Ty}, occurrence ∈ shapesIn scope type →
      ∃ frames, occurrence.place = scope.enterAll frames ∧
        ∀ other : Scope, ⟨other.enterAll frames, occurrence.shape⟩ ∈ shapesIn other type
  | scope, .literal shape, member => by
      rw [shapesIn_literal, List.mem_singleton] at member
      cases member
      refine ⟨[], rfl, fun other => ?_⟩
      rw [shapesIn_literal]
      exact List.mem_singleton_self _
  | scope, .function signature, member => by
      rw [shapesIn_function, List.mem_flatMap] at member
      obtain ⟨site, isSite, inside⟩ := member
      obtain ⟨frames, place, everywhere⟩ := exists_frames_of_mem_signatureSites isSite
      obtain ⟨further, innerPlace, innerEverywhere⟩ := exists_frames_of_mem_shapesIn inside
      refine ⟨frames ++ further, ?_, fun other => ?_⟩
      · rw [innerPlace, place, Scope.enterAll_append]
      · rw [shapesIn_function, Scope.enterAll_append]
        exact List.mem_flatMap.2 ⟨_, everywhere other, innerEverywhere _⟩
  | scope, .named candidate, member => by
      rw [shapesIn_named, List.mem_flatMap] at member
      obtain ⟨arg, isArg, inside⟩ := member
      obtain ⟨frames, place, everywhere⟩ := exists_frames_of_mem_shapesIn inside
      refine ⟨frames, place, fun other => ?_⟩
      rw [shapesIn_named]
      exact List.mem_flatMap.2 ⟨arg, isArg, everywhere other⟩
termination_by _ type => sizeOf type
decreasing_by
  · exact sizeOf_lt_of_mem_signatureSites isSite
  · exact Ty.sizeOf_arg_lt isArg

theorem exists_frames_of_mem_shapesBelow {shape : Shape}
    (member : occurrence ∈ shapesBelow scope shape) :
    ∃ frames, occurrence.place = scope.enterAll frames ∧
      ∀ other : Scope, ⟨other.enterAll frames, occurrence.shape⟩ ∈ shapesBelow other shape := by
  obtain ⟨site, isSite, inside⟩ := List.mem_flatMap.1 member
  obtain ⟨frames, place, everywhere⟩ := exists_frames_of_mem_sitesBelow isSite
  obtain ⟨further, innerPlace, innerEverywhere⟩ := exists_frames_of_mem_shapesIn inside
  refine ⟨frames ++ further, ?_, fun other => ?_⟩
  · rw [innerPlace, place, Scope.enterAll_append]
  · rw [Scope.enterAll_append]
    exact List.mem_flatMap.2 ⟨_, everywhere other, innerEverywhere _⟩

/-! ### Whole places -/

variable {config : Config} {cls : Class}

/-- The wanted members of a class stand behind the place of the class. -/
theorem exists_frames_of_mem_memberSites (member : site ∈ memberSites config cls) :
    ∃ frames, site.place = (classScope cls).enterAll frames := by
  rcases List.mem_append.1 member with values | inMethods
  · rcases List.mem_append.1 values with readable | inSetters
    · rcases List.mem_append.1 readable with inConstructors | inGetters
      · obtain ⟨constructor, -, isSite⟩ := List.mem_flatMap.1 inConstructors
        obtain ⟨parameter, -, rfl⟩ := List.mem_map.1 isSite
        exact ⟨[⟨.parameter, parameter.name⟩], rfl⟩
      · obtain ⟨getter, -, rfl⟩ := List.mem_map.1 inGetters
        exact ⟨[⟨.getter, getter.name⟩], rfl⟩
    · obtain ⟨setter, -, rfl⟩ := List.mem_map.1 inSetters
      exact ⟨[⟨.setter, setter.name⟩], rfl⟩
  · obtain ⟨method, -, isSite⟩ := List.mem_flatMap.1 inMethods
    obtain ⟨frames, place, -⟩ := exists_frames_of_mem_signatureSites isSite
    exact ⟨⟨.method, method.name⟩ :: frames, place⟩

/-- What is nested in the wanted members has the name of its whole place, from the class inward. -/
theorem Nested.exists_whole (nested : Nested (memberShapes config cls) occurrence) :
    ∃ frames, Within (memberShapes config cls)
        ⟨(classScope cls).enterAll frames, occurrence.shape⟩ ∧
      occurrence.name = ((classScope cls).enterAll frames).literalName := by
  induction nested with
  | @met occurrence member =>
      obtain ⟨site, isSite, inside⟩ := List.mem_flatMap.1 member
      obtain ⟨frames, place⟩ := exists_frames_of_mem_memberSites isSite
      obtain ⟨further, innerPlace, -⟩ := exists_frames_of_mem_shapesIn inside
      have whole : occurrence.place = (classScope cls).enterAll (frames ++ further) := by
        rw [innerPlace, place, Scope.enterAll_append]
      exact ⟨frames ++ further, .met (whole ▸ member), congrArg Scope.literalName whole⟩
  | @inside outer inner _ member ih =>
      obtain ⟨frames, within, name⟩ := ih
      obtain ⟨further, place, everywhere⟩ :=
        exists_frames_of_mem_shapesBelow (shapesInside_eq outer.entry ▸ member)
      refine ⟨frames ++ further, ?_, ?_⟩
      · rw [Scope.enterAll_append]
        exact .inside within (everywhere _)
      · rw [Occurrence.name, place, Scope.enterAll_append]
        apply Scope.literalName_enterAll_congr
        exact (literalName_shapeScope outer.place).trans name

/-- The name of a place does not change where it is told from a shape on the way.  So whatever stands
inside hoisted shapes, at any depth, has the name of its whole place from the class inward, and hoisted
shapes are declared under such names. -/
theorem literalName_of_whole_place :
    (∀ (scope : Scope) (frames : List Frame),
      ((shapeScope scope.literalName).enterAll frames).literalName
        = (scope.enterAll frames).literalName) ∧
    ∀ (config : Config) (cls : Class),
      (∀ occurrence, Nested (memberShapes config cls) occurrence →
        ∃ frames, Within (memberShapes config cls)
            ⟨(classScope cls).enterAll frames, occurrence.shape⟩ ∧
          occurrence.name = ((classScope cls).enterAll frames).literalName) ∧
      ∀ entry ∈ (hoistedShapes config cls).entries,
        ∃ frames, Within (memberShapes config cls) ⟨(classScope cls).enterAll frames, entry.2⟩ ∧
          entry.1 = ((classScope cls).enterAll frames).literalName := by
  refine ⟨fun scope => Scope.literalName_enterAll_congr (literalName_shapeScope scope),
    fun config cls => ⟨fun _ nested => nested.exists_whole, fun entry isEntry => ?_⟩⟩
  obtain ⟨occurrence, rfl, nested⟩ := nested_of_mem_hoistedShapes isEntry
  exact nested.exists_whole

/-- The shape of a camera. -/
def camera : Shape :=
  { properties := [{ name := "near", type := .ofName "num" }] }

/-- A shape with the shape of a camera inside. -/
def viewerOptions : Shape :=
  { properties := [{ name := "camera", type := .literal camera }] }

/-- A class whose name does not begin with a capital letter. -/
def viewer : Class :=
  { name := "viewer", getters := [{ name := "options", type := .literal viewerOptions }] }

/-- The camera inside the options of a viewer. -/
theorem literalName_of_whole_place_viewer :
    Nested (memberShapes (wantingAll "viewer") viewer)
        ⟨(shapeScope "ViewerOptions").enter .property "camera", camera⟩ ∧
      ∃ frames, Within (memberShapes (wantingAll "viewer") viewer)
          ⟨(classScope viewer).enterAll frames, camera⟩ ∧
        "ViewerOptionsCamera" = ((classScope viewer).enterAll frames).literalName := by
  have outer : Nested (memberShapes (wantingAll "viewer") viewer)
      ⟨(classScope viewer).enter .getter "options", viewerOptions⟩ :=
    .met (List.mem_flatMap.2 ⟨_, List.mem_append_left _ (List.mem_append_left _
      (List.mem_append_right _ List.mem_cons_self)), List.mem_cons_self⟩)
  have name : ((classScope viewer).enter .getter "options").literalName = "ViewerOptions" := by
    decide
  have nested : Nested (memberShapes (wantingAll "viewer") viewer)
      ⟨(shapeScope "ViewerOptions").enter .property "camera", camera⟩ :=
    .inside outer (by rw [Occurrence.entry, Occurrence.name, name]; exact List.mem_cons_self)
  have innerName : ((shapeScope "ViewerOptions").enter .property "camera").literalName
      = "ViewerOptionsCamera" := by
    decide
  obtain ⟨frames, within, whole⟩ :=
    (literalName_of_whole_place.2 (wantingAll "viewer") viewer).1 _ nested
  exact ⟨nested, frames, within, innerName.symm.trans whole⟩

end Emission

end DartBindings
