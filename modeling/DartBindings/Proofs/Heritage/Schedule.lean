import Mathlib.Data.List.Chain
import Mathlib.Data.List.Nodup
import Mathlib.Logic.Relation
import DartBindings.Proofs.Library.Lookup

/-!
The order in which classes are visited.

Every position of the library is visited exactly once, whatever the heritage.  Where no class is
above itself, the class above a class is visited in front of it; and where some class is, there is one
that is not.

Main exports: Acyclic, SupersFirst, supersFirst_ancestorsFirst, ancestorsFirst_ordered_iff
-/

namespace DartBindings.Heritage

/-- The class at one position extends the class at another one. -/
def Below (library : Library) (lower upper : Nat) : Prop :=
  superIndex? library lower = some upper

/-- No class is above itself. -/
def Acyclic (library : Library) : Prop :=
  ∀ index, ¬Relation.TransGen (Below library) index index

/-- A library is acyclic if ranks of its classes fall on the way up. -/
theorem Acyclic.of_rank {library : Library} (rank : Nat → Nat)
    (falls : ∀ lower upper, superIndex? library lower = some upper → rank upper < rank lower) :
    Acyclic library := by
  have onChains : ∀ lower upper, Relation.TransGen (Below library) lower upper →
      rank upper < rank lower := by
    intro lower upper chain
    induction chain with
    | single step => exact falls _ _ step
    | tail _ step ih => exact Nat.lt_trans (falls _ _ step) ih
  exact fun index cycle => Nat.lt_irrefl _ (onChains index index cycle)

/-- What stands above a position is a position of the library. -/
theorem lt_length_of_superIndex? {library : Library} {index above : Nat}
    (isAbove : superIndex? library index = some above) : above < library.classes.length := by
  obtain ⟨cls, -, hasSuper⟩ := Option.bind_eq_some_iff.1 isAbove
  obtain ⟨superType, -, found⟩ := Option.bind_eq_some_iff.1 hasSuper
  exact Library.lt_length_of_classIndex? found

/-- A library is acyclic if each class stands in front of the class above it. -/
theorem Acyclic.of_superBehind {library : Library}
    (behind : ∀ lower < library.classes.length, ∀ upper ∈ superIndex? library lower, lower < upper) :
    Acyclic library := by
  apply Acyclic.of_rank fun index => library.classes.length - index
  intro lower upper isAbove
  obtain ⟨cls, atLower, -⟩ := Option.bind_eq_some_iff.1 isAbove
  have inside : lower < library.classes.length := (List.getElem?_eq_some_iff.1 atLower).1
  have inside' := lt_length_of_superIndex? isAbove
  have further := behind lower inside upper isAbove
  omega

/-- Whether a library is acyclic depends on the bare library only. -/
theorem Acyclic.of_bare {library other : Library} (acyclic : Acyclic library)
    (same : other.bare = library.bare) : Acyclic other := by
  have steps : Below other = Below library := by
    funext lower upper
    rw [Below, Below, superIndex?_eq same]
  rw [Acyclic, steps]
  exact acyclic

/-- Every position of a list stands behind the position of the class above it. -/
def SupersFirst (library : Library) (order : List Nat) : Prop :=
  ∀ front index rest, order = front ++ index :: rest →
    ∀ above, superIndex? library index = some above → above ∈ front

namespace SupersFirst

variable {library : Library} {order : List Nat}

theorem nil : SupersFirst library [] := by
  intro front index rest split
  simp at split

theorem snoc (first : SupersFirst library order) {last : Nat}
    (above : ∀ upper, superIndex? library last = some upper → upper ∈ order) :
    SupersFirst library (order ++ [last]) := by
  intro front index rest split upper isAbove
  rcases List.eq_nil_or_concat rest with rfl | ⟨inner, final, rfl⟩
  · obtain ⟨rfl, same⟩ := List.append_inj' split rfl
    cases same
    exact above upper isAbove
  · have regrouped : order ++ [last] = (front ++ index :: inner) ++ [final] := by
      simpa using split
    obtain ⟨rfl, -⟩ := List.append_inj' regrouped rfl
    exact first front index inner rfl upper isAbove

/-- Such a list has the class above each of its members. -/
theorem upward (first : SupersFirst library order) {index above : Nat} (member : index ∈ order)
    (isAbove : superIndex? library index = some above) : above ∈ order := by
  obtain ⟨front, rest, rfl⟩ := List.append_of_mem member
  exact List.mem_append_left _ (first front index rest rfl above isAbove)

theorem front {front rest : List Nat} (first : SupersFirst library (front ++ rest)) :
    SupersFirst library front := by
  intro inner index behind split
  exact first inner index (behind ++ rest) (by simp [split])

end SupersFirst

/-! ### Chains -/

variable {library : Library} {placed seen : List Nat} {index : Nat}

/-- A chain holds the class that it starts at. -/
theorem mem_chainFrom_self (unplaced : index ∉ placed) (unseen : index ∉ seen)
    (inside : index < library.classes.length) : index ∈ chainFrom library placed seen index := by
  rw [chainFrom, if_neg (by simpa using unplaced), dif_pos ⟨unseen, inside⟩]
  exact List.mem_cons_self

/-- A chain consists of positions of the library that are neither placed nor seen. -/
theorem fresh_of_mem_chainFrom {member : Nat} (inChain : member ∈ chainFrom library placed seen index) :
    member ∉ placed ∧ member ∉ seen ∧ member < library.classes.length := by
  fun_induction chainFrom library placed seen index with
  | case1 => cases inChain
  | case2 seen index unplaced fresh _ ih =>
      rcases List.mem_cons.1 inChain with rfl | further
      · exact ⟨by simpa using unplaced, fresh⟩
      · cases isAbove : superIndex? library index with
        | none => simp [isAbove] at further
        | some next =>
            obtain ⟨notPlaced, notSeen, inside⟩ := ih next (by simpa [isAbove] using further)
            exact ⟨notPlaced, fun known => notSeen (List.mem_cons_of_mem _ known), inside⟩
  | case3 => cases inChain

/-- No class comes twice in a chain. -/
theorem nodup_chainFrom (library : Library) (placed seen : List Nat) (index : Nat) :
    (chainFrom library placed seen index).Nodup := by
  fun_induction chainFrom library placed seen index with
  | case1 => exact List.nodup_nil
  | case2 seen index unplaced fresh _ ih =>
      cases superIndex? library index with
      | none => exact List.nodup_singleton index
      | some next =>
          refine List.nodup_cons.2 ⟨fun again => ?_, ih next⟩
          exact (fresh_of_mem_chainFrom again).2.1 List.mem_cons_self
  | case3 => exact List.nodup_nil

/-- A chain placed from the top downward keeps classes behind those above them.  What was seen on the
way lies below the position, so that the chain can only end at the top or at a placed class. -/
theorem supersFirst_append_chain (acyclic : Acyclic library)
    (onTheWay : ∀ lower ∈ seen, Relation.TransGen (Below library) lower index)
    (first : SupersFirst library placed) :
    SupersFirst library (placed ++ (chainFrom library placed seen index).reverse) := by
  fun_induction chainFrom library placed seen index with
  | case1 => simpa using first
  | case2 seen index unplaced fresh _ ih =>
      cases isNext : superIndex? library index with
      | none =>
          have atTop : ∀ upper, superIndex? library index = some upper → upper ∈ placed := by
            simp [isNext]
          simpa using first.snoc atTop
      | some next =>
          have below : ∀ lower ∈ index :: seen, Relation.TransGen (Below library) lower next := by
            intro lower known
            rcases List.mem_cons.1 known with rfl | known
            · exact .single isNext
            · exact (onTheWay lower known).tail isNext
          have reached :
              next ∈ placed ++ (chainFrom library placed (index :: seen) next).reverse := by
            by_cases isPlaced : next ∈ placed
            · exact List.mem_append_left _ isPlaced
            · have unseen : next ∉ index :: seen := fun known => acyclic next (below next known)
              have inChain := mem_chainFrom_self isPlaced unseen (lt_length_of_superIndex? isNext)
              exact List.mem_append_right _ (List.mem_reverse.2 inChain)
          rw [List.reverse_cons, ← List.append_assoc]
          refine (ih next below).snoc fun upper isAbove => ?_
          cases isNext.symm.trans isAbove
          exact reached
  | case3 => simpa using first

/-! ### The whole order -/

/-- What every stage of the order has: distinct positions of the library. -/
structure Placed (library : Library) (placed : List Nat) : Prop where
  nodup : placed.Nodup
  inside : ∀ index ∈ placed, index < library.classes.length

/-- Placing a chain keeps the order one of different classes of the library. -/
theorem Placed.placeChain (state : Placed library placed) (start : Nat) :
    Placed library (placeChain library placed start) where
  nodup := by
    refine List.nodup_append.2 ⟨state.nodup, List.nodup_reverse.2 (nodup_chainFrom ..), ?_⟩
    rintro member known _ inChain rfl
    exact (fresh_of_mem_chainFrom (List.mem_reverse.1 inChain)).1 known
  inside index member := by
    rcases List.mem_append.1 member with known | inChain
    · exact state.inside index known
    · exact (fresh_of_mem_chainFrom (List.mem_reverse.1 inChain)).2.2

/-- A class is placed when its chain is. -/
theorem mem_placeChain_self (placed : List Nat) (inside : index < library.classes.length) :
    index ∈ placeChain library placed index := by
  by_cases known : index ∈ placed
  · exact List.mem_append_left _ known
  · exact List.mem_append_right _ (List.mem_reverse.2 (mem_chainFrom_self known (by simp) inside))

/-- Placing further chains keeps what is placed. -/
theorem subset_foldl_placeChain (starts placed : List Nat) :
    placed ⊆ starts.foldl (placeChain library) placed := by
  induction starts generalizing placed with
  | nil => exact fun _ known => known
  | cons start rest ih =>
      exact fun _ known => ih (placeChain library placed start) (List.mem_append_left _ known)

/-- After all chains every class is placed. -/
theorem mem_foldl_placeChain {starts : List Nat} (member : index ∈ starts)
    (inside : index < library.classes.length) (placed : List Nat) :
    index ∈ starts.foldl (placeChain library) placed := by
  induction starts generalizing placed with
  | nil => cases member
  | cons start rest ih =>
      rcases List.mem_cons.1 member with rfl | later
      · exact subset_foldl_placeChain rest _ (mem_placeChain_self placed inside)
      · exact ih later _

/-- The order of visits is one of different classes of the library. -/
theorem placed_ancestorsFirst (library : Library) : Placed library (ancestorsFirst library) :=
  List.foldlRecOn _ (placeChain library) (motive := Placed library) ⟨List.nodup_nil, by simp⟩
    fun _ state start _ => state.placeChain start

/-- The order of visits holds every class. -/
theorem mem_ancestorsFirst : index ∈ ancestorsFirst library ↔ index < library.classes.length :=
  ⟨(placed_ancestorsFirst library).inside index,
    fun inside => mem_foldl_placeChain (List.mem_range.2 inside) inside []⟩

/-- Every position is visited exactly once. -/
theorem ancestorsFirst_perm (library : Library) :
    (ancestorsFirst library).Perm (List.range library.classes.length) :=
  (List.perm_ext_iff_of_nodup (placed_ancestorsFirst library).nodup List.nodup_range).2
    fun _ => mem_ancestorsFirst.trans List.mem_range.symm

/-- The visits in front of the one visit of a position and those behind it, none of them twice. -/
theorem exists_turn (inside : index < library.classes.length) :
    ∃ front rest, ancestorsFirst library = front ++ index :: rest ∧ index ∉ front ∧
      index ∉ rest ∧ ∀ position ∈ front, position ∉ rest := by
  obtain ⟨front, rest, order⟩ := List.append_of_mem (mem_ancestorsFirst.2 inside)
  have nodup := (placed_ancestorsFirst library).nodup
  rw [order] at nodup
  obtain ⟨-, restNodup, apart⟩ := List.nodup_append.1 nodup
  exact ⟨front, rest, order, fun known => apart index known index List.mem_cons_self rfl,
    (List.nodup_cons.1 restNodup).1,
    fun position known again => apart position known position (List.mem_cons_of_mem _ again) rfl⟩

/-- Where no class is above itself, classes are visited behind those above them. -/
theorem supersFirst_ancestorsFirst (acyclic : Acyclic library) :
    SupersFirst library (ancestorsFirst library) :=
  List.foldlRecOn _ (placeChain library) (motive := SupersFirst library) .nil
    fun _ first _ _ => supersFirst_append_chain acyclic (by simp) first

/-! ### Ways upward -/

/-- No way upward, from each class to the one above it, comes to a position twice. -/
def NeverRepeats (library : Library) : Prop :=
  ∀ way : List Nat, way.IsChain (Below library) → way.Nodup

/-- No way upward repeats exactly when no class is above itself. -/
theorem neverRepeats_iff : NeverRepeats library ↔ Acyclic library := by
  constructor
  · intro never index cycle
    obtain ⟨next, step, further⟩ := Relation.TransGen.head'_iff.1 cycle
    obtain ⟨rest, chain, last⟩ := List.exists_isChain_cons_of_relationReflTransGen further
    have again : index ∈ next :: rest := last ▸ List.getLast_mem (List.cons_ne_nil next rest)
    have once : (index :: next :: rest).Nodup := never _ (.cons_cons step chain)
    exact (List.nodup_cons.1 once).1 again
  · intro acyclic way chain
    have upward : way.Pairwise (Relation.TransGen (Below library)) :=
      (chain.imp fun _ _ step => .single step).pairwise
    refine upward.imp ?_
    rintro index _ cycle rfl
    exact acyclic index cycle

theorem lt_length_of_below {upper : Nat} (below : Below library index upper) :
    index < library.classes.length := by
  obtain ⟨cls, atIndex, -⟩ := Option.bind_eq_some_iff.1 below
  exact (List.getElem?_eq_some_iff.1 atIndex).1

/-- Where the order has the class above each class in front of it, it has it at a smaller place. -/
theorem idxOf_lt_of_supersFirst {upper : Nat}
    (first : SupersFirst library (ancestorsFirst library)) (below : Below library index upper) :
    (ancestorsFirst library).idxOf upper < (ancestorsFirst library).idxOf index := by
  obtain ⟨front, rest, order, fresh, -, -⟩ := exists_turn (lt_length_of_below below)
  have inFront : upper ∈ front := first front index rest order upper below
  have place : (front ++ index :: rest).idxOf index = front.length := by
    rw [List.idxOf_append_of_notMem fresh, List.idxOf_cons_self, Nat.add_zero]
  rw [order, place, List.idxOf_append_of_mem inFront]
  exact List.idxOf_lt_length_of_mem inFront

/-- Every position is visited exactly once.  And every class is visited behind the class above it
exactly where no way upward comes to a position twice: the classes on a cycle cannot all stand behind
the next one. -/
theorem ancestorsFirst_ordered_iff (library : Library) :
    (ancestorsFirst library).Perm (List.range library.classes.length) ∧
      (NeverRepeats library ↔ ∀ lower upper, superIndex? library lower = some upper →
        (ancestorsFirst library).idxOf upper < (ancestorsFirst library).idxOf lower) := by
  refine ⟨ancestorsFirst_perm library, neverRepeats_iff.trans ⟨fun acyclic lower upper isAbove => ?_,
    fun ordered => Acyclic.of_rank (ancestorsFirst library).idxOf ordered⟩⟩
  exact idxOf_lt_of_supersFirst (supersFirst_ancestorsFirst acyclic) isAbove

end DartBindings.Heritage
