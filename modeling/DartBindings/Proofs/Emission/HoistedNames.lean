import DartBindings.Proofs.Emission.HoistedShapes

/-!
The names that a unit prints for shapes.

Whatever the rules of the mapper, every name that is printed for a shape is declared in the same
unit: the mapper never leaves the places that the walk goes through.  The declared shape is the first
one of that name.  It is the printed one in every case exactly when no two different shapes in the
class have one name, and nothing in the way names are made from places sees to that.

Main exports: Emitter.Prints, Emitter.FixedByNames, Emitter.declares_printed_name,
hoisted_shape_eq_printed_iff
-/

namespace DartBindings.Emission

open Replacement

/-- To spell a wanted member of the class or a hoisted shape, the mapper prints the name of the shape
at the place.  A parameter list that is refused for its optional parameters counts like all others,
since its shapes are hoisted like all others. -/
def Emitter.Prints (emitter : Emitter) (cls : Class) (place : Scope) (shape : Shape) : Prop :=
  ∃ site, Spells emitter.config cls site ∧
    emitter.mapper.ComesTo site.place site.type place (.literal shape)

variable {emitter : Emitter} {config : Config} {cls : Class} {place : Scope} {shape : Shape}

/-- What is printed with rules occurs at a site, where it is printed without rules as well. -/
theorem Emitter.Prints.occurrence (printed : emitter.Prints cls place shape) :
    ∃ site, Spells emitter.config cls site ∧ ⟨place, shape⟩ ∈ site.shapes := by
  obtain ⟨site, spells, further⟩ := printed
  exact ⟨site, spells, mem_shapesIn_iff.2 further.without_rules⟩

/-- Without rules every shape at a site of the class is printed. -/
theorem prints_of_mem_shapes {site : Site} {occurrence : Occurrence}
    (spells : Spells config cls site) (inSite : occurrence ∈ site.shapes) :
    (⟨config, .identity⟩ : Emitter).Prints cls occurrence.place occurrence.shape :=
  ⟨site, spells, mem_shapesIn_iff.1 inSite⟩

/-- The lines that begin the declaration of a hoisted shape. -/
def declarationLines (name : String) : List String :=
  ["@JS()", "@anonymous", "class " ++ name ++ " \x7b"]

/-- Every name in the table of hoisted shapes is declared by the unit. -/
theorem Emitter.declarationLines_infix {name : String}
    (isKey : name ∈ (hoistedShapes emitter.config cls).keys) :
    declarationLines name <:+: (emitter.items cls).flatMap Item.lines := by
  obtain ⟨shape, isEntry⟩ := Table.mem_keys_iff.1 isKey
  have inShape : emitter.shapeHead name shape ∈ emitter.shapeItems name shape := by
    simp [Emitter.shapeItems]
  have inHoisted : emitter.shapeHead name shape ∈ emitter.hoistedItems cls :=
    List.mem_flatMap.2 ⟨(name, shape), isEntry, inShape⟩
  have inUnit : emitter.shapeHead name shape ∈ emitter.items cls := by
    simp [Emitter.items, inHoisted]
  have front : declarationLines name <+: (emitter.shapeHead name shape).lines :=
    List.prefix_append (declarationLines name) _
  exact front.isInfix.trans (List.infix_of_mem_flatten (List.mem_map_of_mem inUnit))

/-- The members and hoisted shapes of a unit are fixed by the names that it prints for shapes.  Rendering
treats names and functions as the mapper does; a spelling that does so too and writes the names of their
places for the printed shapes is the same at every site; and mappers that spell the sites alike write
the same members and hoisted shapes. -/
structure Emitter.FixedByNames (emitter : Emitter) (cls : Class) : Prop where
  rendered : emitter.mapper.IsSpelling emitter.mapper.render
  spelled : ∀ spell, emitter.mapper.IsSpelling spell →
    (∀ place shape, emitter.Prints cls place shape →
      spell place (.literal shape) = place.literalName) →
    ∀ site, Spells emitter.config cls site →
      spell site.place site.type = emitter.mapper.render site.place site.type
  written : ∀ mapper, (∀ site, Spells emitter.config cls site →
      SpelledAlike emitter.mapper mapper site) →
    emitter.memberItems cls = (⟨emitter.config, mapper⟩ : Emitter).memberItems cls ∧
      emitter.hoistedItems cls = (⟨emitter.config, mapper⟩ : Emitter).hoistedItems cls

/-- What a unit writes of a class is fixed by the names that it prints for shapes. -/
theorem Emitter.fixedByNames (emitter : Emitter) (cls : Class) : emitter.FixedByNames cls where
  rendered := emitter.mapper.isSpelling_render
  spelled spell isSpelling named site spells :=
    isSpelling.eq_render fun place shape further => named place shape ⟨site, spells, further⟩
  written mapper alike := by
    refine ⟨memberItems_congr fun site isSite => alike site (.inl isSite), ?_⟩
    exact List.flatMap_congr fun entry isEntry =>
      shapeItems_congr fun site isSite => alike site (.inr ⟨entry, isEntry, isSite⟩)

/-- A name that is printed for a shape is a hoisted one, and the unit declares it. -/
theorem Emitter.Prints.declared (printed : emitter.Prints cls place shape) :
    ∃ name, emitter.mapper.render place (.literal shape) = name ∧
      name ∈ (hoistedShapes emitter.config cls).keys ∧
      declarationLines name <:+: (emitter.items cls).flatMap Item.lines := by
  obtain ⟨site, spells, inSite⟩ := printed.occurrence
  have isKey : place.literalName ∈ (hoistedShapes emitter.config cls).keys :=
    name_mem_hoistedShapes spells inSite
  exact ⟨place.literalName, emitter.mapper.render_literal place shape, isKey,
    Emitter.declarationLines_infix isKey⟩

/-- Every name that a unit prints for a shape, in a member of its class or in a hoisted shape, is a
hoisted one, and the unit declares it.  These are all the names there are: the members and hoisted shapes
are fixed by them. -/
theorem Emitter.declares_printed_name (emitter : Emitter) (cls : Class) :
    (∀ place shape, emitter.Prints cls place shape →
      ∃ name, emitter.mapper.render place (.literal shape) = name ∧
        name ∈ (hoistedShapes emitter.config cls).keys ∧
        declarationLines name <:+: (emitter.items cls).flatMap Item.lines) ∧
      emitter.FixedByNames cls :=
  ⟨fun _ _ printed => printed.declared, emitter.fixedByNames cls⟩

/-- The configuration that wants one class with all its members. -/
def wantingAll (className : String) : Config :=
  { libraryName := "lib", declarations := Table.empty.set className .all }

/-- The rule that makes arrays lists. -/
def listRule : Rule where
  pattern := ⟨"Array", [⟨"#1", [], false⟩], false⟩
  template := "List<#1>"
  named := by decide

/-- The shape of a picture in a gallery. -/
def picture : Shape :=
  { properties := [{ name := "width", type := .ofName "num" }] }

/-- A type whose shape is spelled only as what a token is bound to. -/
def pictures : Ty :=
  .named { name := "Array", args := [.literal picture] }

/-- A class with a method that gives pictures. -/
def gallery : Class :=
  { name := "Gallery", methods := [{ name := "pictures", result := pictures }] }

/-- The place of what the method of a gallery gives. -/
def picturesPlace : Scope :=
  ((classScope gallery).enter .method "pictures").enterResult

/-- A gallery of pictures, whose shape stands inside a list. -/
theorem Emitter.declares_printed_name_gallery :
    (⟨wantingAll "Gallery", ⟨[listRule]⟩⟩ : Emitter).Prints gallery picturesPlace picture ∧
      ∃ name, (⟨[listRule]⟩ : TypeMapper).render picturesPlace (.literal picture) = name ∧
        name ∈ (hoistedShapes (wantingAll "Gallery") gallery).keys ∧
        declarationLines name
          <:+: ((⟨wantingAll "Gallery", ⟨[listRule]⟩⟩ : Emitter).items gallery).flatMap Item.lines := by
  have isSite : ⟨picturesPlace, pictures⟩ ∈ memberSites (wantingAll "Gallery") gallery :=
    List.mem_append_right _ (List.mem_flatMap.2 ⟨_, List.mem_cons_self, List.mem_cons_self⟩)
  have parts : pieces listRule.template.toList
      = [.char 'L', .char 'i', .char 's', .char 't', .char '<', .token ['1'], .char '>'] := by
    simp [pieces, listRule]
  have token : Piece.token ['1'] ∈ pieces listRule.template.toList := by
    rw [parts]
    decide
  have printed : (⟨wantingAll "Gallery", ⟨[listRule]⟩⟩ : Emitter).Prints gallery picturesPlace
      picture :=
    ⟨⟨picturesPlace, pictures⟩, .inl isSite, .bound rfl token rfl .here⟩
  exact ⟨printed, (Emitter.declares_printed_name _ gallery).1 _ _ printed⟩

/-- No two different shapes that are nested in the wanted members of the class have one name. -/
def NamesApart (config : Config) (cls : Class) : Prop :=
  ∀ first second, Nested (memberShapes config cls) first → Nested (memberShapes config cls) second →
    first.name = second.name → first.shape = second.shape

/-- If every shape that is printed without rules is recorded, so is every shape in the class: the
shapes inside a recorded one are printed when it is declared. -/
theorem find?_name_of_nested
    (recorded : ∀ place shape, (⟨config, .identity⟩ : Emitter).Prints cls place shape →
      (hoistedShapes config cls).find? place.literalName = some shape)
    {occurrence : Occurrence} (nested : Nested (memberShapes config cls) occurrence) :
    (hoistedShapes config cls).find? occurrence.name = some occurrence.shape := by
  induction nested with
  | @met occurrence member =>
      obtain ⟨site, isMember, inSite⟩ := List.mem_flatMap.1 member
      exact recorded occurrence.place occurrence.shape
        (prints_of_mem_shapes (.inl isMember) inSite)
  | @inside outer inner _ member ih =>
      obtain ⟨site, isSite, inSite⟩ := List.mem_flatMap.1 member
      have hoisted : outer.entry ∈ (hoistedShapes config cls).entries :=
        Table.find?_eq_some_iff.1 ih
      exact recorded inner.place inner.shape
        (prints_of_mem_shapes (.inr ⟨outer.entry, hoisted, isSite⟩) inSite)

/-- Where names are apart, what is recorded under a printed name is the printed shape. -/
theorem NamesApart.find?_literalName (apart : NamesApart config cls) {mapper : TypeMapper}
    (printed : (⟨config, mapper⟩ : Emitter).Prints cls place shape) :
    (hoistedShapes config cls).find? place.literalName = some shape := by
  obtain ⟨site, spells, inSite⟩ := printed.occurrence
  obtain ⟨hoisted, isEntry⟩ := Table.mem_keys_iff.1 (name_mem_hoistedShapes spells inSite)
  obtain ⟨occurrence, same, nested⟩ := nested_of_mem_hoistedShapes isEntry
  obtain ⟨sameName, rfl⟩ := Prod.mk.inj same
  have sameShape : shape = occurrence.shape :=
    apart _ occurrence (nested_of_spells spells inSite) nested sameName
  rw [Table.find?_eq_some_iff, sameShape]
  exact isEntry

/-- Whatever the rules, the shape hoisted under a printed name is the one it is printed for exactly
when no two different shapes in the class have one name.  Rules only hide shapes from printing, not
from hoisting, so the condition is about the class without them. -/
theorem hoisted_shape_eq_printed_iff (config : Config) (cls : Class) :
    (∀ mapper place shape, (⟨config, mapper⟩ : Emitter).Prints cls place shape →
        (hoistedShapes config cls).find? place.literalName = some shape) ↔
      NamesApart config cls := by
  constructor
  · intro recorded first second isFirst isSecond sameName
    have found := find?_name_of_nested (recorded .identity) isFirst
    rw [sameName, find?_name_of_nested (recorded .identity) isSecond] at found
    exact (Option.some.inj found).symm
  · intro apart mapper place shape printed
    exact apart.find?_literalName printed

/-- The shape of what a callback is given. -/
def question : Shape :=
  { properties := [{ name := "x", type := .ofName "num" }] }

/-- The shape of what a callback gives back. -/
def answer : Shape :=
  { properties := [{ name := "ok", type := .ofName "bool" }] }

/-- A callback with a parameter that has the name of the frame of results. -/
def callback : Ty :=
  .function
    { result := .literal answer, parameters := [{ name := "result", type := .literal question }] }

/-- A class with a method that takes a callback. -/
def listener : Class :=
  { name := "A"
    methods :=
      [{ name := "on", result := .ofName "void",
         parameters := [{ name := "cb", type := callback }] }] }

/-- The place of the callback of a listener. -/
def callbackPlace : Scope :=
  ((classScope listener).enter .method "on").enter .parameter "cb"

/-- The parameter and the result of one signature can have one name: then the parameter's shape is
declared nowhere, and its name stands for the shape of the result. -/
theorem hoisted_shape_ne_printed_listener :
    ¬ ∀ place shape, (⟨wantingAll "A", .identity⟩ : Emitter).Prints listener place shape →
      (hoistedShapes (wantingAll "A") listener).find? place.literalName = some shape := by
  intro recorded
  have isSite : ⟨callbackPlace, callback⟩ ∈ memberSites (wantingAll "A") listener :=
    List.mem_append_right _
      (List.mem_flatMap.2 ⟨_, List.mem_cons_self, List.mem_cons_of_mem _ List.mem_cons_self⟩)
  have printed : (⟨wantingAll "A", .identity⟩ : Emitter).Prints listener
      (callbackPlace.enter .parameter "result") question :=
    ⟨⟨callbackPlace, callback⟩, .inl isSite, .parameter List.mem_cons_self .here⟩
  have name : (callbackPlace.enter .parameter "result").literalName = "AOnCbResult" := by
    decide
  have isAnswer : (hoistedShapes (wantingAll "A") listener).find? "AOnCbResult" = some answer := by
    rfl
  have isQuestion := recorded _ _ printed
  rw [name, isAnswer] at isQuestion
  simp [answer, question] at isQuestion

end DartBindings.Emission
