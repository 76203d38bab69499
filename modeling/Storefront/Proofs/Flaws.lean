import Mathlib
import Storefront.Proofs.Acceptance
import Storefront.Proofs.Duality
import Storefront.Proofs.Numerals
import Storefront.Proofs.Rearranged
/-!
What a refusal says of a seed. Where ids are distinct there is one way up from a category, and it
comes to a category without a parent, to a parent that is not there, or into a circle. A seed is
refused for the category of least id whose way up goes wrong, and the refusal names this category,
although the fault may lie anywhere on the way.
-/

namespace Storefront

open Relation

variable {rows : List Category} {row : Category} {seed : Seed}

namespace Forest

section Ways

structure Ends (rows : List Category) (start stop : Int64) : Prop where
  way : ReflTransGen (Child rows) start stop
  last : ∀ next, ¬ Child rows stop next

/-- The way up from `start` comes to a category without a parent. -/
def Rooted (rows : List Category) (start : Int64) : Prop :=
  ∃ top ∈ rows, top.parentId = none ∧ ReflTransGen (Child rows) start top.id

/-- What goes wrong on the way up from `start`, as it is told of the category with this id. -/
inductive Meets (rows : List Category) (start : Int64) : Flaw → Prop where
  | unknownParent {parent : Int64} (way : TransGen (Child rows) start parent)
      (unknown : ∀ other ∈ rows, other.id ≠ parent) : Meets rows start (.unknownParent start parent)
  | cycle {id : Int64} (way : ReflTransGen (Child rows) start id)
      (circle : TransGen (Child rows) id id) : Meets rows start (.cycle start)

theorem rooted_of_parent (member : row ∈ rows) (parents : ∀ id ∈ row.parentId, Rooted rows id) :
    Rooted rows row.id := by
  cases named : row.parentId with
  | none => exact ⟨row, member, named, .refl⟩
  | some parent =>
      obtain ⟨top, inRows, root, way⟩ := parents parent named
      exact ⟨top, inRows, root, .head ⟨row, member, rfl, named⟩ way⟩

variable (distinct : (rows.map Category.id).Nodup)

include distinct

theorem circle_of_way {id other : Int64} (circle : TransGen (Child rows) id id)
    (way : ReflTransGen (Child rows) id other) : TransGen (Child rows) other other := by
  induction way with
  | refl => exact circle
  | tail _ step around =>
      obtain ⟨next, first, back⟩ := TransGen.head'_iff.mp around
      obtain rfl := child_rightUnique distinct first step
      exact TransGen.tail' back step

theorem Ends.onward {start stop id : Int64} (ends : Ends rows start stop)
    (way : ReflTransGen (Child rows) start id) : ReflTransGen (Child rows) id stop := by
  rcases ends.way.total_of_right_unique (child_rightUnique distinct) way with beyond | onward
  · rcases beyond.cases_head with rfl | ⟨next, step, -⟩
    · exact .refl
    · exact absurd step (ends.last next)
  · exact onward

theorem Ends.unique {start left right : Int64} (one : Ends rows start left)
    (other : Ends rows start right) : left = right := by
  rcases (other.onward distinct one.way).cases_head with same | ⟨next, step, -⟩
  · exact same
  · exact absurd step (one.last next)

theorem Ends.not_circle {start stop id : Int64} (ends : Ends rows start stop)
    (way : ReflTransGen (Child rows) start id) : ¬ TransGen (Child rows) id id := by
  intro circle
  have around := circle_of_way distinct circle (ends.onward distinct way)
  obtain ⟨next, step, -⟩ := TransGen.head'_iff.mp around
  exact ends.last next step

theorem ends_of_root {top : Category} (member : top ∈ rows) (root : top.parentId = none)
    {start : Int64} (way : ReflTransGen (Child rows) start top.id) : Ends rows start top.id where
  way := way
  last := by
    rintro next ⟨other, among, same, named⟩
    rw [List.inj_on_of_nodup_map distinct among member same, root] at named
    cases named

omit distinct in
theorem ends_of_unknown {start parent : Int64} (way : TransGen (Child rows) start parent)
    (unknown : ∀ other ∈ rows, other.id ≠ parent) : Ends rows start parent where
  way := way.to_reflTransGen
  last := by
    rintro next ⟨other, among, same, -⟩
    exact unknown other among same

theorem Rooted.not_meets {start : Int64} {flaw : Flaw} (rooted : Rooted rows start) :
    ¬ Meets rows start flaw := by
  obtain ⟨top, inRows, root, way⟩ := rooted
  have ends := ends_of_root distinct inRows root way
  intro meets
  cases meets with
  | unknownParent up unknown =>
      exact unknown top inRows (ends.unique distinct (ends_of_unknown up unknown))
  | cycle up circle => exact ends.not_circle distinct up circle

theorem Meets.unique {start : Int64} {flaw other : Flaw} (meets : Meets rows start flaw)
    (again : Meets rows start other) : flaw = other := by
  cases meets with
  | unknownParent way unknown =>
      have ends := ends_of_unknown way unknown
      cases again with
      | unknownParent up missing => rw [ends.unique distinct (ends_of_unknown up missing)]
      | cycle up circle => exact absurd circle (ends.not_circle distinct up)
  | cycle way circle =>
      cases again with
      | unknownParent up missing =>
          exact absurd circle ((ends_of_unknown up missing).not_circle distinct way)
      | cycle _ _ => rfl

end Ways

section Climb

theorem parentLink_eq_none_iff {id : Int64} :
    parentLink? rows id = none ↔ ∀ row ∈ rows, row.id ≠ id := by
  constructor
  · rintro unknown row member rfl
    have known := parentLink_isSome member
    rw [unknown] at known
    cases known
  · intro unknown
    cases decided : parentLink? rows id with
    | none => rfl
    | some entry =>
        obtain ⟨row, member, same, -⟩ := parentLink_eq_some decided
        exact absurd same (unknown row member)

theorem rooted_of_climb {category : Int64} {steps : Nat} {cursor : Option Int64}
    (climbed : climb rows category steps cursor = .ok ()) : ∀ id ∈ cursor, Rooted rows id := by
  fun_induction climb rows category steps cursor with
  | case1 => simp
  | case2 => cases climbed
  | case3 => cases climbed
  | case4 => cases climbed
  | case5 steps id next known ih =>
      rintro _ ⟨⟩
      obtain ⟨row, member, rfl, rfl⟩ := parentLink_eq_some known
      exact rooted_of_parent member (ih climbed)

/-- A refused climb came to a parent that is not there, or it passed one known category more than it
had steps to go. -/
inductive Strays (rows : List Category) (category start : Int64) (steps : Nat) : Flaw → Prop where
  | unknown {parent : Int64} (way : ReflTransGen (Child rows) start parent)
      (missing : ∀ row ∈ rows, row.id ≠ parent) :
      Strays rows category start steps (.unknownParent category parent)
  | endless (passed : List Int64) (long : passed.length = steps + 1)
      (first : passed.head? = some start) (linked : passed.IsChain (Child rows))
      (known : ∀ id ∈ passed, ∃ row ∈ rows, row.id = id) :
      Strays rows category start steps (.cycle category)

theorem strays_of_climb {category : Int64} {steps : Nat} {cursor : Option Int64} {flaw : Flaw}
    (refused : climb rows category steps cursor = .error flaw) :
    ∃ start ∈ cursor, Strays rows category start steps flaw := by
  fun_induction climb rows category steps cursor with
  | case1 => cases refused
  | case2 id missing | case4 _ id missing =>
      cases refused
      exact ⟨id, rfl, .unknown .refl (parentLink_eq_none_iff.mp missing)⟩
  | case3 id next known =>
      cases refused
      obtain ⟨row, member, rfl, -⟩ := parentLink_eq_some known
      refine ⟨row.id, rfl, .endless [row.id] rfl rfl (.singleton _) ?_⟩
      exact List.forall_mem_singleton.mpr ⟨row, member, rfl⟩
  | case5 steps id next known ih =>
      obtain ⟨row, member, rfl, rfl⟩ := parentLink_eq_some known
      obtain ⟨parent, named, strays⟩ := ih refused
      have step : Child rows row.id parent := ⟨row, member, rfl, named⟩
      refine ⟨row.id, rfl, ?_⟩
      cases strays with
      | unknown way missing => exact .unknown (.head step way) missing
      | endless passed long first linked known =>
          have front : ∀ next ∈ passed.head?, Child rows row.id next := by
            rw [first]
            rintro _ ⟨⟩
            exact step
          exact .endless (row.id :: passed) (congrArg (· + 1) long) rfl (linked.cons front)
            (List.forall_mem_cons.mpr ⟨⟨row, member, rfl⟩, known⟩)

theorem circle_of_passed {passed : List Int64} (linked : passed.IsChain (Child rows))
    (twice : ¬ passed.Nodup) : ∃ id ∈ passed, TransGen (Child rows) id id := by
  have higher : passed.Pairwise (TransGen (Child rows)) :=
    (linked.imp fun _ _ => TransGen.single).pairwise
  obtain ⟨id, again⟩ := List.exists_duplicate_iff_not_nodup.mpr twice
  have both := higher.sublist (List.duplicate_iff_sublist.mp again)
  exact ⟨id, again.mem, List.rel_of_pairwise_cons both List.mem_cons_self⟩

theorem not_nodup_of_known {passed : List Int64} (known : ∀ id ∈ passed, ∃ row ∈ rows, row.id = id)
    (long : idCount rows < passed.length) : ¬ passed.Nodup := by
  intro once
  have within : passed ⊆ (rows.map Category.id).eraseDups := fun id among =>
    List.mem_eraseDups.mpr (List.mem_map.mpr (known id among))
  exact absurd (once.length_le_of_subset within) (Nat.not_le.mpr long)

/-- With as many steps as there are ids a climb that is not over has passed somebody twice. -/
theorem Strays.meets {start : Int64} {flaw : Flaw} (member : row ∈ rows)
    (named : row.parentId = some start) (strays : Strays rows row.id start (idCount rows) flaw) :
    Meets rows row.id flaw := by
  have step : Child rows row.id start := ⟨row, member, rfl, named⟩
  cases strays with
  | unknown way missing => exact .unknownParent (.head' step way) missing
  | endless passed long first linked known =>
      have twice := not_nodup_of_known known (by rw [long]; exact Nat.lt_succ_self _)
      obtain ⟨id, among, circle⟩ := circle_of_passed linked twice
      have reached : ∀ id ∈ passed, ReflTransGen (Child rows) start id := by
        refine linked.induction (ReflTransGen (Child rows) start) passed
          (fun _ _ step way => way.tail step) fun filled => ?_
        rw [(List.head_eq_iff_head?_eq_some filled).mpr first]
      exact .cycle (.head step (reached id among)) circle

theorem meets_of_climb {flaw : Flaw} (member : row ∈ rows)
    (refused : climb rows row.id (idCount rows) row.parentId = .error flaw) :
    Meets rows row.id flaw := by
  obtain ⟨start, named, strays⟩ := strays_of_climb refused
  exact strays.meets member named

variable (distinct : (rows.map Category.id).Nodup)

include distinct

theorem climb_eq_ok_iff (member : row ∈ rows) :
    climb rows row.id (idCount rows) row.parentId = .ok () ↔ Rooted rows row.id := by
  refine ⟨fun climbed => rooted_of_parent member (rooted_of_climb climbed), fun rooted => ?_⟩
  cases climbed : climb rows row.id (idCount rows) row.parentId with
  | ok _ => rfl
  | error flaw => exact absurd (meets_of_climb member climbed) (rooted.not_meets distinct)

theorem climb_eq_error_iff {flaw : Flaw} (member : row ∈ rows) :
    climb rows row.id (idCount rows) row.parentId = .error flaw ↔ Meets rows row.id flaw := by
  refine ⟨meets_of_climb member, fun meets => ?_⟩
  cases climbed : climb rows row.id (idCount rows) row.parentId with
  | ok _ => exact absurd meets (((climb_eq_ok_iff distinct member).mp climbed).not_meets distinct)
  | error other => rw [(meets_of_climb member climbed).unique distinct meets]

end Climb

section Refusing

/-- The way up from every category of a lower id comes to a category without a parent. -/
structure Foremost (rows : List Category) (row : Category) : Prop where
  member : row ∈ rows
  lower : ∀ other ∈ rows, other.id < row.id → Rooted rows other.id

theorem mem_before_iff {before after : List Category} {other : Category}
    (ascending : (before ++ row :: after).Pairwise fun left right => left.id < right.id) :
    other ∈ before ↔ other ∈ before ++ row :: after ∧ other.id < row.id := by
  obtain ⟨-, onward, apart⟩ := List.pairwise_append.mp ascending
  constructor
  · intro earlier
    exact ⟨List.mem_append_left _ earlier, apart other earlier row List.mem_cons_self⟩
  · rintro ⟨among, lower⟩
    rcases List.mem_append.mp among with earlier | later
    · exact earlier
    · rcases List.mem_cons.mp later with rfl | beyond
      · exact (Int64.lt_irrefl lower).elim
      · exact (Int64.lt_asymm lower (List.rel_of_pairwise_cons onward beyond)).elim

theorem check_eq_error_iff (ascending : rows.Pairwise fun left right => left.id < right.id)
    {flaw : Flaw} :
    check rows = .error flaw ↔ ∃ row, Foremost rows row ∧ Meets rows row.id flaw := by
  have distinct : (rows.map Category.id).Nodup :=
    List.pairwise_map.mpr (ascending.imp Int64.ne_of_lt)
  have checked : check rows = rows.forM fun row =>
      climb rows row.id (idCount rows) row.parentId := rfl
  rw [checked, forM_eq_error_iff]
  constructor
  · rintro ⟨before, row, after, rfl, all, refused⟩
    have member : row ∈ before ++ row :: after := List.mem_append_right _ List.mem_cons_self
    have meets := (climb_eq_error_iff distinct member).mp refused
    refine ⟨row, ⟨member, fun other among lower => ?_⟩, meets⟩
    have earlier := (mem_before_iff ascending).mpr ⟨among, lower⟩
    exact (climb_eq_ok_iff distinct among).mp (all other earlier)
  · rintro ⟨row, foremost, meets⟩
    obtain ⟨before, after, rfl⟩ := List.append_of_mem foremost.member
    have refused := (climb_eq_error_iff distinct foremost.member).mpr meets
    refine ⟨before, row, after, rfl, fun other earlier => ?_, refused⟩
    obtain ⟨among, lower⟩ := (mem_before_iff ascending).mp earlier
    exact (climb_eq_ok_iff distinct among).mpr (foremost.lower other among lower)

variable {left right : List Category}

theorem Rooted.perm {start : Int64} (rooted : Rooted left start) (same : left.Perm right) :
    Rooted right start := by
  obtain ⟨top, member, root, way⟩ := rooted
  exact ⟨top, same.mem_iff.mp member, root, child_congr same ▸ way⟩

theorem Foremost.perm (foremost : Foremost left row) (same : left.Perm right) :
    Foremost right row where
  member := same.mem_iff.mp foremost.member
  lower other among less := (foremost.lower other (same.mem_iff.mpr among) less).perm same

theorem Meets.perm {start : Int64} {flaw : Flaw} (meets : Meets left start flaw)
    (same : left.Perm right) : Meets right start flaw := by
  cases meets with
  | unknownParent way unknown =>
      exact .unknownParent (child_congr same ▸ way)
        fun other among => unknown other (same.mem_iff.mpr among)
  | cycle way circle => exact .cycle (child_congr same ▸ way) (child_congr same ▸ circle)

end Refusing

section Texts

namespace Flaw

def category : Flaw → Int64
  | .unknownParent category _ => category
  | .cycle category => category

def reason : Flaw → String
  | .unknownParent _ parent => "has unknown parent " ++ toString parent.toInt
  | .cycle _ => "is part of a cycle"

theorem message_eq (flaw : Flaw) : flaw.message =
    "category " ++ (toString flaw.category.toInt ++ String.singleton ' ' ++ flaw.reason) := by
  have unknown : " has unknown parent " = String.singleton ' ' ++ "has unknown parent " := by simp
  have cycle : " is part of a cycle" = String.singleton ' ' ++ "is part of a cycle" := by simp
  cases flaw with
  | unknownParent category parent =>
      change "category " ++ toString category.toInt ++ " has unknown parent " ++
        toString parent.toInt = "category " ++ (toString category.toInt ++ String.singleton ' ' ++
          ("has unknown parent " ++ toString parent.toInt))
      rw [unknown]
      simp only [String.append_assoc]
  | cycle category =>
      change "category " ++ toString category.toInt ++ " is part of a cycle" =
        "category " ++ (toString category.toInt ++ String.singleton ' ' ++ "is part of a cycle")
      rw [cycle]
      simp only [String.append_assoc]

theorem unknownParent_ne_cycle (parent : Int64) :
    "has unknown parent " ++ toString parent.toInt ≠ "is part of a cycle" := by
  have unknown : "has unknown parent " = String.singleton 'h' ++ "as unknown parent " := by simp
  have cycle : "is part of a cycle" = String.singleton 'i' ++ "s part of a cycle" := by simp
  rw [unknown, cycle, String.append_assoc]
  intro same
  have first := congrArg (List.head? ∘ String.toList) same
  simp only [Function.comp_apply, String.toList_append, String.toList_singleton,
    List.singleton_append, List.head?_cons, Option.some.injEq] at first
  revert first
  decide

theorem message_injective : Function.Injective message := by
  intro flaw other same
  rw [message_eq, message_eq, String.append_right_inj] at same
  have cut := congrArg (Text.splitFirst ' ') same
  have unspaced := Text.Numeral.not_mem_toString (show ' '.isDigit = false by decide) (by decide)
  rw [Text.splitFirst_append (unspaced _), Text.splitFirst_append (unspaced _), Option.some.injEq,
    Prod.mk.injEq] at cut
  obtain ⟨numeral, reasons⟩ := cut
  have named := Text.Numeral.toString_inj numeral
  cases flaw with
  | unknownParent category parent =>
      cases other with
      | unknownParent again further =>
          obtain rfl : category = again := named
          obtain rfl := Text.Numeral.toString_inj ((String.append_right_inj _).mp reasons)
          rfl
      | cycle _ => exact absurd reasons (unknownParent_ne_cycle parent)
  | cycle category =>
      cases other with
      | unknownParent _ parent => exact absurd reasons.symm (unknownParent_ne_cycle parent)
      | cycle again => exact congrArg cycle named

end Flaw

end Texts

section Truth

/-- The category itself has a parent that is not there, or is above itself. -/
def AtFault (rows : List Category) (row : Category) : Prop :=
  (∃ parent ∈ row.parentId, ∀ other ∈ rows, other.id ≠ parent) ∨
    TransGen (Child rows) row.id row.id

def Flaw.Holds (rows : List Category) : Flaw → Prop
  | .unknownParent category parent =>
      (∃ row ∈ rows, row.id = category ∧ row.parentId = some parent) ∧
        ∀ other ∈ rows, other.id ≠ parent
  | .cycle category => TransGen (Child rows) category category

/-- If the parent has a lower id nothing can have gone wrong for it before. -/
theorem Foremost.atFault {flaw : Flaw} (foremost : Foremost rows row)
    (distinct : (rows.map Category.id).Nodup) (meets : Meets rows row.id flaw)
    (descends : ∀ parent ∈ row.parentId, parent < row.id) : AtFault rows row := by
  by_contra fair
  refine (rooted_of_parent foremost.member fun parent named => ?_).not_meets distinct meets
  have there : ∃ other ∈ rows, other.id = parent := by
    by_contra missing
    exact fair (.inl ⟨parent, named, by simpa using missing⟩)
  obtain ⟨other, inRows, rfl⟩ := there
  exact foremost.lower other inRows (descends _ named)

theorem Meets.holds_iff {flaw : Flaw} (meets : Meets rows row.id flaw) (member : row ∈ rows)
    (distinct : (rows.map Category.id).Nodup) : flaw.Holds rows ↔ AtFault rows row := by
  constructor
  · intro holds
    cases meets with
    | unknownParent _ _ =>
        obtain ⟨⟨other, inRows, same, named⟩, unknown⟩ := holds
        obtain rfl := List.inj_on_of_nodup_map distinct inRows member same
        exact .inl ⟨_, named, unknown⟩
    | cycle _ _ => exact .inr holds
  · rintro (⟨parent, named, unknown⟩ | circle)
    · have own : Meets rows row.id (.unknownParent row.id parent) :=
        .unknownParent (.single ⟨row, member, rfl, named⟩) unknown
      rw [meets.unique distinct own]
      exact ⟨⟨row, member, rfl, named⟩, unknown⟩
    · rw [meets.unique distinct (.cycle .refl circle)]
      exact circle

end Truth

end Forest

namespace Catalog

theorem ofSeed_eq_error_iff {fault : Fault} : ofSeed seed = .error fault ↔
    ∃ flaw, Forest.check seed.arranged.categories = .error flaw ∧ fault = .seed flaw.message := by
  constructor
  · intro refused
    cases checked : Forest.check seed.arranged.categories with
    | ok _ =>
        rw [ofSeed_of_check checked] at refused
        cases refused
    | error flaw =>
        rw [ofSeed_of_check_error checked] at refused
        cases refused
        exact ⟨flaw, rfl, rfl⟩
  · rintro ⟨flaw, checked, rfl⟩
    exact ofSeed_of_check_error checked

/-- Where ids are distinct, the flaw that a refusal names is what the way up from one category
meets, the one with the least id of all whose way up goes wrong. It is told of this category, and so
it is true exactly if the category is itself at fault. It always is where its parent has a lower id
than itself. -/
theorem refused_for_foremost (distinct : (seed.categories.map Category.id).Nodup) :
    (∀ fault, ofSeed seed = .error fault → ∃ flaw : Forest.Flaw, fault = .seed flaw.message) ∧
    ∀ flaw : Forest.Flaw,
      (ofSeed seed = .error (.seed flaw.message) ↔ ∃ row,
        Forest.Foremost seed.categories row ∧ Forest.Meets seed.categories row.id flaw) ∧
      ∀ row, Forest.Foremost seed.categories row → Forest.Meets seed.categories row.id flaw →
        (flaw.Holds seed.categories ↔ Forest.AtFault seed.categories row) ∧
        ((∀ parent ∈ row.parentId, parent < row.id) → flaw.Holds seed.categories) := by
  have same : seed.arranged.categories.Perm seed.categories :=
    Seed.byId_perm Category.id seed.categories
  have ascending : seed.arranged.categories.Pairwise fun left right => left.id < right.id :=
    Seed.byId_ascending distinct
  refine ⟨fun fault refused => ?_, fun flaw => ⟨?_, fun row foremost meets => ?_⟩⟩
  · obtain ⟨flaw, -, told⟩ := ofSeed_eq_error_iff.mp refused
    exact ⟨flaw, told⟩
  · have told : ofSeed seed = .error (.seed flaw.message) ↔
        Forest.check seed.arranged.categories = .error flaw := by
      rw [ofSeed_eq_error_iff]
      constructor
      · rintro ⟨other, checked, told⟩
        rw [Forest.Flaw.message_injective (Fault.seed.inj told), checked]
      · exact fun checked => ⟨flaw, checked, rfl⟩
    rw [told, Forest.check_eq_error_iff ascending]
    constructor
    · rintro ⟨row, foremost, meets⟩
      exact ⟨row, foremost.perm same, meets.perm same⟩
    · rintro ⟨row, foremost, meets⟩
      exact ⟨row, foremost.perm same.symm, meets.perm same.symm⟩
  · have holds := meets.holds_iff foremost.member distinct
    exact ⟨holds, fun descends => holds.mpr (foremost.atFault distinct meets descends)⟩

end Catalog

def Category.orphan : Category := { id := 3, name := "Blue", slug := "blue", parentId := some 0 }

def Seed.orphaned : Seed where
  categories :=
    [{ id := 1, name := "Food", slug := "food" },
      { id := 2, name := "Cheese", slug := "cheese", parentId := some 1 }, .orphan]

def Seed.dangling : Seed where
  categories :=
    [{ id := 1, name := "Blue", slug := "blue", parentId := some 2 },
      { id := 2, name := "Cheese", slug := "cheese", parentId := some 9 }]

namespace Catalog

theorem refused_for_foremost_orphaned : (Seed.orphaned.categories.map Category.id).Nodup ∧
    ofSeed .orphaned = .error (.seed "category 3 has unknown parent 0") ∧
    (Forest.Flaw.unknownParent 3 0).Holds Seed.orphaned.categories := by
  have distinct : (Seed.orphaned.categories.map Category.id).Nodup := by decide
  have up : Forest.Child Seed.orphaned.categories 2 1 :=
    ⟨⟨2, "Cheese", "cheese", "", some 1⟩, by decide, rfl, rfl⟩
  have foremost : Forest.Foremost Seed.orphaned.categories .orphan := by
    refine ⟨by decide, fun other member lower => ?_⟩
    refine ⟨⟨1, "Food", "food", "", none⟩, by decide, rfl, ?_⟩
    simp only [Seed.orphaned, List.mem_cons, List.not_mem_nil, or_false] at member
    rcases member with rfl | rfl | rfl
    · exact .refl
    · exact .single up
    · exact (Int64.lt_irrefl lower).elim
  have meets : Forest.Meets Seed.orphaned.categories 3 (.unknownParent 3 0) :=
    .unknownParent (.single ⟨.orphan, foremost.member, rfl, rfl⟩) (by decide)
  have flawed := (refused_for_foremost distinct).2 (.unknownParent 3 0)
  exact ⟨distinct, flawed.1.mpr ⟨_, foremost, meets⟩,
    (flawed.2 _ foremost meets).2 (by simp [Category.orphan])⟩

/-- The first category is named for what goes wrong further up. -/
theorem foremost_falsely_named :
    ofSeed .dangling = .error (.seed "category 1 has unknown parent 9") ∧
    ¬ (Forest.Flaw.unknownParent 1 9).Holds Seed.dangling.categories ∧
    ofSeed .whirling = .error (.seed "category 1 is part of a cycle") ∧
    ¬ (Forest.Flaw.cycle 1).Holds Seed.whirling.categories := by
  refine ⟨?_, ?_, ?_, ?_⟩
  · have checked : Forest.check Seed.dangling.arranged.categories =
        .error (.unknownParent 1 9) := by cbv
    rw [ofSeed_of_check_error checked]
    rfl
  · rintro ⟨named, -⟩
    revert named
    decide
  · have checked : Forest.check Seed.whirling.arranged.categories = .error (.cycle 1) := by cbv
    rw [ofSeed_of_check_error checked]
    rfl
  · intro circle
    obtain ⟨last, -, row, member, rfl, named⟩ := TransGen.tail'_iff.mp circle
    revert row
    decide

end Catalog

end Storefront
