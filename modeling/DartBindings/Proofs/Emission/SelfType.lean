import DartBindings.Proofs.Emission.HoistedNames

/-!
The type `this` where a unit spells it.

The name stands for the class around the place.  A mapper never leaves the class when it takes a type
apart, so in a member the class is found however deep the name stands.  A hoisted shape begins a path of
its own, with no class on it, and there the name is written as it is.

Main exports: Emitter.ResolvesSelf, Emitter.render_self_of_member, Emitter.resolvesSelf_iff
-/

namespace DartBindings

open Replacement

/-- The type `this`, or an array of it. -/
def selfType (isArray : Bool) : NamedType :=
  { name := Ty.selfName, isArray := isArray }

namespace Spelling

/-- A name, in a list if an array is meant. -/
def inListIf (isArray : Bool) (name : String) : String :=
  if isArray then inList name else name

theorem named_eq_inListIf (scope : Scope) (name : String) (isArray : Bool) :
    named scope name [] isArray = inListIf isArray (typeName scope name) := by
  cases isArray with
  | false => simp [named, inListIf]
  | true => rw [named_array]; simp [named, inListIf]

/-- Outside any class the name `this` is written as it is. -/
theorem typeName_self (scope : Scope) :
    typeName scope Ty.selfName = scope.enclosingClass?.getD Ty.selfName := by
  rw [typeName]
  split
  · next cls found => rw [found, if_pos rfl, Option.getD_some]
  · next nothing => rw [nothing, Option.getD_none]

/-- What is put in a list can be told from the list. -/
theorem inListIf_injective {isArray : Bool} {first second : String}
    (same : inListIf isArray first = inListIf isArray second) : first = second := by
  cases isArray with
  | false => exact same
  | true =>
      have texts := congrArg String.toList same
      exact String.toList_inj.1 (by simpa [inListIf, inList] using texts)

end Spelling

/-- Whether a rule matches does not depend on the array mark. -/
theorem isMatching_array (name : String) (args : List Ty) (isArray : Bool) (pattern : TypeExpr) :
    isMatching ⟨name, args, isArray⟩ pattern = isMatching ⟨name, args, false⟩ pattern := by
  obtain ⟨patternName, patternArgs, patternArray⟩ := pattern
  rw [isMatching, isMatching]

namespace TypeMapper

variable {mapper : TypeMapper} {scope place : Scope} {type inner : Ty}

/-- A mapper stays inside the class around the type that it spells. -/
theorem ComesTo.enclosingClass?_eq (further : mapper.ComesTo scope type place inner) :
    place.enclosingClass? = scope.enclosingClass? := by
  induction further with
  | here => rfl
  | argument _ _ _ ih => exact ih
  | bound _ _ _ _ ih => exact ih
  | result _ ih => exact ih
  | parameter _ _ ih => exact ih

/-- Where no rule matches `this`, the class around the place stands for it. -/
theorem render_selfType
    (unmatched : ∀ rule ∈ mapper.rules, isMatching (selfType false) rule.pattern = false)
    (place : Scope) (isArray : Bool) :
    mapper.render place (.named (selfType isArray)) =
      Spelling.inListIf isArray (place.enclosingClass?.getD Ty.selfName) := by
  have free : mapper.ruleFor? (selfType isArray) = none := by
    rw [ruleFor?, List.find?_eq_none]
    intro rule member
    rw [Bool.not_eq_true, selfType, isMatching_array]
    exact unmatched rule member
  rw [mapper.isSpelling_render.free place _ free, ← Spelling.typeName_self]
  exact Spelling.named_eq_inListIf place Ty.selfName isArray

/-- A name without arguments that no rule matches is all that the mapper comes to. -/
theorem ComesTo.eq_of_plain {candidate : NamedType} (free : mapper.ruleFor? candidate = none)
    (plain : candidate.args = []) (further : mapper.ComesTo scope (.named candidate) place inner) :
    inner = .named candidate := by
  cases further with
  | here => rfl
  | argument _ member _ => rw [plain] at member; cases member
  | bound matched _ _ _ => rw [free] at matched; cases matched

end TypeMapper

namespace Emission

variable {emitter : Emitter} {config : Config} {cls : Class} {site : Site}

/-! ### The class around a site -/

theorem enclosingClass?_of_mem_parameterSites {scope : Scope} {parameters : List Parameter}
    (member : site ∈ parameterSites scope parameters) :
    site.place.enclosingClass? = scope.enclosingClass? := by
  obtain ⟨parameter, -, rfl⟩ := List.mem_map.1 member
  rfl

/-- The parts of a signature stand in the class in which it stands. -/
theorem enclosingClass?_of_mem_signatureSites {scope : Scope} {signature : Signature}
    (member : site ∈ signatureSites scope signature) :
    site.place.enclosingClass? = scope.enclosingClass? := by
  rcases List.mem_cons.1 member with rfl | inParameters
  · rfl
  · exact enclosingClass?_of_mem_parameterSites inParameters

/-- The sites of the members stand inside the class. -/
theorem enclosingClass?_of_mem_memberSites (member : site ∈ memberSites config cls) :
    site.place.enclosingClass? = some cls.name := by
  simp only [memberSites, List.mem_append, List.mem_flatMap, List.mem_map] at member
  rcases member with ((⟨constructor, -, inside⟩ | ⟨getter, -, rfl⟩) | ⟨setter, -, rfl⟩) |
    ⟨method, -, inside⟩
  · exact enclosingClass?_of_mem_parameterSites inside
  · rfl
  · rfl
  · exact enclosingClass?_of_mem_signatureSites inside

/-- The sites of a hoisted shape stand inside no class. -/
theorem enclosingClass?_of_mem_shapeSites {name : String} {shape : Shape}
    (member : site ∈ shapeSites name shape) : site.place.enclosingClass? = none := by
  simp only [shapeSites, List.mem_append, List.mem_flatMap, List.mem_map] at member
  rcases member with ⟨property, -, rfl⟩ | ⟨signature, -, inside⟩
  · rfl
  · exact enclosingClass?_of_mem_signatureSites inside

/-! ### What is written for `this` -/

/-- To spell the type of the site, the mapper spells `this`, or an array of it, at the place. -/
def Emitter.SpellsSelfAt (emitter : Emitter) (site : Site) (place : Scope) (isArray : Bool) : Prop :=
  emitter.mapper.ComesTo site.place site.type place (.named (selfType isArray))

/-- Wherever the unit spells `this`, in a wanted member or in a hoisted shape, it writes the name of
the class. -/
def Emitter.ResolvesSelf (emitter : Emitter) (cls : Class) : Prop :=
  ∀ site place isArray, Spells emitter.config cls site → emitter.SpellsSelfAt site place isArray →
    emitter.mapper.render place (.named (selfType isArray)) = Spelling.inListIf isArray cls.name

/-- No hoisted shape of the class has `this` in it. -/
def Emitter.ShapesLackSelf (emitter : Emitter) (cls : Class) : Prop :=
  ∀ entry ∈ (hoistedShapes emitter.config cls).entries, ∀ site ∈ shapeSites entry.1 entry.2,
    ∀ place isArray, ¬emitter.SpellsSelfAt site place isArray

/-- In the members, `this` is written as the name of the class. -/
theorem Emitter.render_self_of_member
    (unmatched : ∀ rule ∈ emitter.mapper.rules, isMatching (selfType false) rule.pattern = false)
    (member : site ∈ memberSites emitter.config cls) {place : Scope} {isArray : Bool}
    (spelled : emitter.SpellsSelfAt site place isArray) :
    emitter.mapper.render place (.named (selfType isArray)) = Spelling.inListIf isArray cls.name := by
  rw [TypeMapper.render_selfType unmatched, spelled.enclosingClass?_eq,
    enclosingClass?_of_mem_memberSites member, Option.getD_some]

/-- In a hoisted shape, `this` is written as it is. -/
theorem Emitter.render_self_of_shape
    (unmatched : ∀ rule ∈ emitter.mapper.rules, isMatching (selfType false) rule.pattern = false)
    {name : String} {shape : Shape} (member : site ∈ shapeSites name shape) {place : Scope}
    {isArray : Bool} (spelled : emitter.SpellsSelfAt site place isArray) :
    emitter.mapper.render place (.named (selfType isArray)) =
      Spelling.inListIf isArray Ty.selfName := by
  rw [TypeMapper.render_selfType unmatched, spelled.enclosingClass?_eq,
    enclosingClass?_of_mem_shapeSites member, Option.getD_none]

/-- Where no rule matches `this`, it is written as the name of the class throughout the unit exactly
when it stands in no hoisted shape, or is itself the name of the class. -/
theorem Emitter.resolvesSelf_iff
    (unmatched : ∀ rule ∈ emitter.mapper.rules, isMatching (selfType false) rule.pattern = false) :
    emitter.ResolvesSelf cls ↔ emitter.ShapesLackSelf cls ∨ cls.name = Ty.selfName := by
  constructor
  · intro resolves
    by_contra! ⟨inShape, otherName⟩
    simp only [Emitter.ShapesLackSelf, not_forall, not_not] at inShape
    obtain ⟨entry, isEntry, site, isSite, place, isArray, spelled⟩ := inShape
    have asClass := resolves site place isArray (.inr ⟨entry, isEntry, isSite⟩) spelled
    rw [Emitter.render_self_of_shape unmatched isSite spelled] at asClass
    exact otherName (Spelling.inListIf_injective asClass).symm
  · intro lacking site place isArray spells spelled
    rcases spells with isMember | ⟨entry, isEntry, isSite⟩
    · exact Emitter.render_self_of_member unmatched isMember spelled
    · rcases lacking with lack | same
      · exact absurd spelled (lack entry isEntry site isSite place isArray)
      · rw [same]
        exact Emitter.render_self_of_shape unmatched isSite spelled

/-- A class with `this` in its members, and with a hoisted shape that has none. -/
def cursor : Class :=
  { name := "Cursor"
    getters :=
      [ { name := "position"
          type := .literal { properties := [{ name := "line", type := .ofName "num" }] } } ]
    methods :=
      [ { name := "siblings"
          result := .named { name := "Array", args := [.named (selfType false)] } } ] }

/-- The emitter that wants the class and makes arrays lists. -/
def cursorEmitter : Emitter :=
  ⟨wantingAll "Cursor", ⟨[listRule]⟩⟩

theorem shapesLackSelf_cursor : cursorEmitter.ShapesLackSelf cursor := by
  intro entry isEntry site isSite place isArray spelled
  cases List.mem_singleton.1 isEntry
  cases List.mem_singleton.1 isSite
  have other := spelled.eq_of_plain rfl rfl
  simp [selfType, Ty.selfName] at other

/-- A cursor that spells itself, with no shape that does. -/
theorem Emitter.resolvesSelf_iff_cursor :
    (∀ rule ∈ cursorEmitter.mapper.rules, isMatching (selfType false) rule.pattern = false) ∧
      cursorEmitter.ResolvesSelf cursor := by
  have unmatched : ∀ rule ∈ cursorEmitter.mapper.rules,
      isMatching (selfType false) rule.pattern = false := by
    intro rule member
    cases List.mem_singleton.1 member
    decide
  exact ⟨unmatched, (Emitter.resolvesSelf_iff unmatched).2 (.inl shapesLackSelf_cursor)⟩

/-- A shape that leads from a node to another one of its class. -/
def edge : Shape :=
  { properties := [{ name := "target", type := .named (selfType false) }] }

/-- A class whose getter gives that shape. -/
def treeNode : Class :=
  { name := "TreeNode", getters := [{ name := "edge", type := .literal edge }] }

/-- The emitter that wants the class and has no rules. -/
def treeNodeEmitter : Emitter :=
  ⟨wantingAll "TreeNode", .identity⟩

/-- The site of the property of the hoisted shape. -/
def targetSite : Site :=
  ⟨(shapeScope "TreeNodeEdge").enter .property "target", .named (selfType false)⟩

/-- The class is lost on the way into a hoisted shape. -/
theorem not_resolvesSelf_treeNode :
    ¬ ∀ (emitter : Emitter) (cls : Class),
      (∀ rule ∈ emitter.mapper.rules, isMatching (selfType false) rule.pattern = false) →
        emitter.ResolvesSelf cls := by
  intro resolved
  have unmatched : ∀ rule ∈ treeNodeEmitter.mapper.rules,
      isMatching (selfType false) rule.pattern = false := by
    intro rule member
    cases member
  have isSite : targetSite ∈ shapeSites "TreeNodeEdge" edge := List.mem_cons_self
  have inUnit : Spells treeNodeEmitter.config treeNode targetSite :=
    .inr ⟨("TreeNodeEdge", edge), List.mem_singleton.2 rfl, isSite⟩
  have spelled : treeNodeEmitter.SpellsSelfAt targetSite targetSite.place false := .here
  have asClass := resolved treeNodeEmitter treeNode unmatched targetSite _ false inUnit spelled
  rw [Emitter.render_self_of_shape unmatched isSite spelled] at asClass
  exact absurd asClass (by decide)

end Emission

end DartBindings
