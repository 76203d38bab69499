import Storefront.Proofs.Dispatch
import Storefront.Proofs.Formats
import Storefront.Proofs.Operations
import Storefront.Proofs.Sizes
import Storefront.Proofs.Slicing
/-!
What is refused. Where no two categories share their id nothing fails but for what the caller
wrote: an id that is no global id, the first cursor that cannot be read, a size that was asked for
and cannot be read. Everything else is answered, whatever the id, whoever asks and whatever was
asked before; in particular no way up ever comes to a parent that is missing.
-/

namespace Storefront

open Access

variable {α β : Type} {seed : Seed} {catalog : Catalog} {shop : Shop}

section Arguments

/-- The first of the cursors that cannot be read; `after` comes before `before`. -/
inductive PageArgs.Unreadable (args : PageArgs) : String → Prop where
  | after {cursor : String} (given : args.after = some cursor)
      (unread : Cursor.decode? cursor = none) : Unreadable args cursor
  | before {cursor : String} (readable : ∀ other ∈ args.after, (Cursor.decode? other).isSome)
      (given : args.before = some cursor) (unread : Cursor.decode? cursor = none) :
      Unreadable args cursor

structure ThumbnailSize.Unreadable (size : Option String) (text : String) : Prop where
  given : size = some text
  asked : Text.isAllBlank text = false
  unread : ThumbnailSize.read? text = none

/-- The faults that an operation ends with. Most operations have none. -/
def Operation.Refusal : Operation → Fault → Prop
  | categories _ page, fault | products _ _ page, fault =>
      ∃ cursor, page.Unreadable cursor ∧ fault = .cursor cursor
  | thumbnailUrl _ size, fault | imageUrl _ size, fault =>
      ∃ text, ThumbnailSize.Unreadable size text ∧ fault = .thumbnailSize text
  | entityByText text, fault => GlobalId.decode text = .error fault
  | _, _ => False

theorem Operation.Refusal.isCallers {operation : Operation} {fault : Fault}
    (refusal : operation.Refusal fault) : fault.isCallers = true := by
  cases operation with
  | categories | products | thumbnailUrl | imageUrl =>
      rcases refusal with ⟨written, -, rfl⟩
      rfl
  | entityByText text =>
      rcases GlobalId.globalId_of_decode refusal with ⟨reason, rfl⟩
      rfl
  | _ => cases refusal

namespace PageArgs

variable {args : PageArgs} {size : Nat} {fault : Fault}

theorem lower_eq_error_iff : args.lower size = .error fault ↔
    ∃ cursor, args.after = some cursor ∧ Cursor.decode? cursor = none ∧ fault = .cursor cursor := by
  rw [lower]
  cases args.after with
  | none => simp
  | some cursor => simp [map_eq_error_iff, Cursor.decode_eq_error_iff]

theorem upper_eq_error_iff : args.upper size = .error fault ↔
    ∃ cursor, args.before = some cursor ∧ Cursor.decode? cursor = none ∧
      fault = .cursor cursor := by
  rw [upper]
  cases args.before with
  | none => simp
  | some cursor => simp [map_eq_error_iff, Cursor.decode_eq_error_iff]

theorem exists_lower_iff : (∃ lower, args.lower size = .ok lower) ↔
    ∀ cursor ∈ args.after, (Cursor.decode? cursor).isSome := by
  rw [lower]
  cases args.after with
  | none => simp
  | some cursor => simp [map_eq_ok_iff, Cursor.decode_eq_ok_iff, Option.isSome_iff_exists]

theorem window_eq_error_iff : args.window size = .error fault ↔
    ∃ cursor, args.Unreadable cursor ∧ fault = .cursor cursor := by
  rw [window, bind_eq_error_iff, lower_eq_error_iff]
  simp only [bind_eq_error_iff, upper_eq_error_iff]
  constructor
  · rintro (⟨cursor, given, unread, rfl⟩ | ⟨lower, low, ⟨cursor, given, unread, rfl⟩ | cut⟩)
    · exact ⟨cursor, .after given unread, rfl⟩
    · exact ⟨cursor, .before (exists_lower_iff.mp ⟨lower, low⟩) given unread, rfl⟩
    · rcases cut with ⟨upper, -, done⟩
      cases done
  · rintro ⟨cursor, unreadable, rfl⟩
    cases unreadable with
    | after given unread => exact .inl ⟨cursor, given, unread, rfl⟩
    | before readable given unread =>
        rcases exists_lower_iff.mpr readable with ⟨lower, low⟩
        exact .inr ⟨lower, low, .inl ⟨cursor, given, unread, rfl⟩⟩

end PageArgs

theorem Connection.ofList_eq_error_iff {items : List α} {args : PageArgs} {fault : Fault} :
    ofList items args = .error fault ↔
      ∃ cursor, args.Unreadable cursor ∧ fault = .cursor cursor := by
  rw [ofList, map_eq_error_iff, PageArgs.window_eq_error_iff]

namespace ThumbnailSize

variable {size : Option String} {fault : Fault}

theorem requested_eq_some_iff {text : String} : requested? size = some text ↔
    size = some text ∧ Text.isAllBlank text = false := by
  rw [requested?, Option.filter_eq_some_iff, Bool.not_eq_true']

theorem unreadable_iff {text : String} : Unreadable size text ↔
    requested? size = some text ∧ read? text = none := by
  rw [requested_eq_some_iff]
  constructor
  · rintro ⟨given, asked, unread⟩
    exact ⟨⟨given, asked⟩, unread⟩
  · rintro ⟨⟨given, asked⟩, unread⟩
    exact ⟨given, asked, unread⟩

theorem orStandard_eq_error_iff : orStandard size = .error fault ↔
    ∃ text, Unreadable size text ∧ fault = .thumbnailSize text := by
  simp only [unreadable_iff]
  rw [orStandard]
  cases requested? size with
  | none => simp
  | some text => simp [read_eq_error_iff]

end ThumbnailSize

theorem Shop.imageUrl_eq_error_iff {image : Image} {size : Option String} {fault : Fault} :
    shop.imageUrl image size = .error fault ↔
      ∃ text, ThumbnailSize.Unreadable size text ∧ fault = .thumbnailSize text := by
  simp only [ThumbnailSize.unreadable_iff]
  rw [imageUrl]
  cases ThumbnailSize.requested? size with
  | none => simp
  | some text => simp [map_eq_error_iff, ThumbnailSize.read_eq_error_iff]

end Arguments

namespace Access

def Succeeds (access : Access α) : Prop :=
  ∀ session, ∃ value after, access.runFrom session = some (.ok value, after)

/-- Comes to an end in every session, and to a fault exactly if that is among the refusals. -/
def Refuses (access : Access α) (refusal : Fault → Prop) : Prop :=
  ∀ session, ∃ reached after, access.runFrom session = some (reached, after) ∧
    ∀ fault, reached = .error fault ↔ refusal fault

theorem Succeeds.pure (value : α) : Succeeds (pure value : Access α) :=
  fun session => ⟨value, session, rfl⟩

theorem Succeeds.context : Succeeds context :=
  fun session => ⟨session.context, session, rfl⟩

theorem Succeeds.bind {access : Access α} {next : α → Access β} (first : Succeeds access)
    (others : ∀ value, Succeeds (next value)) : Succeeds (access >>= next) := by
  intro session
  rcases first session with ⟨value, middle, ran⟩
  rcases others value middle with ⟨final, after, done⟩
  exact ⟨final, after, runFrom_bind_eq_ok.mpr ⟨value, middle, ran, done⟩⟩

theorem Succeeds.bind_pure {access : Access α} (first : Succeeds access) (change : α → β) :
    Succeeds (access >>= fun value => Pure.pure (change value)) :=
  first.bind fun value => Succeeds.pure (change value)

theorem Yields.succeeds {access : Access α} {value : α} (yields : Yields access value) :
    Succeeds access := by
  intro session
  rcases yields session with ⟨after, ran, -⟩
  exact ⟨value, after, ran⟩

variable {refusal : Fault → Prop}

theorem Refuses.ofExcept {reached : Except Fault α}
    (faults : ∀ fault, reached = .error fault ↔ refusal fault) :
    Refuses (ofExcept reached) refusal :=
  fun session => ⟨reached, session, rfl, faults⟩

theorem Succeeds.never {access : Access α} (succeeds : Succeeds access) :
    Refuses access fun _ => False := by
  intro session
  rcases succeeds session with ⟨value, after, ran⟩
  exact ⟨.ok value, after, ran, fun fault => by simp⟩

theorem Succeeds.bind_refuses {access : Access α} {next : α → Access β} (first : Succeeds access)
    (others : ∀ value, Refuses (next value) refusal) : Refuses (access >>= next) refusal := by
  intro session
  rcases first session with ⟨value, middle, ran⟩
  rcases others value middle with ⟨reached, after, done, faults⟩
  exact ⟨reached, after, by rw [runFrom_bind, ran]; exact done, faults⟩

theorem Refuses.bind {access : Access α} {next : α → Access β} (first : Refuses access refusal)
    (others : ∀ value, Succeeds (next value)) : Refuses (access >>= next) refusal := by
  intro session
  rcases first session with ⟨reached, middle, ran, faults⟩
  cases reached with
  | error fault =>
      refine ⟨.error fault, middle, by rw [runFrom_bind, ran]; rfl, fun other => ?_⟩
      rw [← faults other]
      simp
  | ok value =>
      rcases others value middle with ⟨final, after, done⟩
      refine ⟨.ok final, after, by rw [runFrom_bind, ran]; exact done, fun other => ?_⟩
      rw [← faults other]
      simp

end Access

section Steps

theorem Catalog.answer_eq_ok (sound : Forest.Sound catalog.categories) (query : Query) :
    ∃ answer, (catalog.answer query).run = some (.ok answer) := by
  rcases Option.isSome_iff_exists.mp (answer_isSome sound query) with ⟨reached, told⟩
  cases query with
  | categoryTree id =>
      rw [run_answer_categoryTree] at told ⊢
      rcases Option.map_eq_some_iff.mp told with ⟨tree, fetched, -⟩
      exact ⟨tree, by rw [fetched]; rfl⟩
  | ancestors id =>
      rcases catalog.ancestors_exist sound id with ⟨chain, climbed⟩
      exact ⟨chain, by rw [run_answer_ancestors, climbed]⟩
  | descendants id withSelf =>
      rw [run_answer_descendants] at told ⊢
      rcases Option.map_eq_some_iff.mp told with ⟨nodes, walked, -⟩
      exact ⟨nodes, by rw [walked]; rfl⟩
  | _ => exact ⟨_, rfl⟩

namespace Shop

theorem succeeds_scope (shop : Shop) : Succeeds shop.scope :=
  Succeeds.context.bind_pure _

variable (stored : shop.store = { catalog }) (sound : Forest.Sound catalog.categories)

include stored sound

theorem succeeds_ask (query : Query) : Succeeds (shop.ask query) := by
  rcases Catalog.answer_eq_ok sound query with ⟨answer, told⟩
  exact (yields_ask stored told).succeeds

theorem succeeds_category (id : Int64) : Succeeds (shop.category id) := by
  intro session
  rcases runFrom_category stored sound id session with ⟨after, ran, -⟩
  exact ⟨_, after, ran⟩

theorem succeeds_ancestors (category : Category) : Succeeds (shop.ancestors category) := by
  apply Succeeds.context.bind
  intro context
  split
  · exact Succeeds.pure _
  · exact succeeds_ask stored sound _

theorem succeeds_product (id : Int64) : Succeeds (shop.product id) := by
  apply (succeeds_scope shop).bind
  intro scope
  exact (succeeds_ask stored sound _).bind_pure _

theorem succeeds_images (loaded : LoadedProduct) : Succeeds (shop.images loaded) := by
  unfold images
  split
  · exact Succeeds.pure _
  · exact succeeds_ask stored sound _

theorem succeeds_variants (loaded : LoadedProduct) : Succeeds (shop.variants loaded) := by
  unfold variants
  split
  · exact Succeeds.pure _
  · apply (succeeds_ask stored sound _).bind
    intro variants
    exact (takes_stocks stored variants).yields.succeeds.bind_pure _

theorem succeeds_productCategory (loaded : LoadedProduct) :
    Succeeds (shop.productCategory loaded) := by
  unfold productCategory
  split
  · exact Succeeds.pure _
  · exact succeeds_ask stored sound _

theorem succeeds_attributes (categoryId : Option Int64) :
    Succeeds (shop.attributes categoryId) := by
  unfold attributes
  cases categoryId with
  | none => exact (succeeds_ask stored sound _).bind_pure _
  | some categoryId =>
      apply (succeeds_ask stored sound _).bind
      intro tree
      by_cases unknown : tree.isEmpty = true
      · rw [if_pos unknown]
        exact Succeeds.pure _
      · rw [if_neg unknown]
        apply (succeeds_ask stored sound _).bind
        intro kinds
        by_cases unused : kinds.isEmpty = true
        · rw [if_pos unused]
          exact Succeeds.pure _
        · rw [if_neg unused]
          exact (succeeds_ask stored sound _).bind_pure _

theorem succeeds_offer (loaded : LoadedProduct) : Succeeds (shop.offer loaded) := by
  apply (succeeds_variants stored sound loaded).bind
  intro variants
  exact Succeeds.context.bind_pure _

theorem succeeds_entity (id : GlobalId) : Succeeds (shop.entity id) := by
  intro session
  rcases runFrom_entity stored sound id session with ⟨after, ran⟩
  exact ⟨_, after, ran⟩

theorem refuses_products (category : Category) (filter : ProductFilter) (page : PageArgs) :
    Refuses (shop.products category filter page)
      (Operation.products category filter page).Refusal := by
  apply (succeeds_scope shop).bind_refuses
  intro scope
  apply (succeeds_ask stored sound _).bind_refuses
  intro rows
  apply (takes_choose stored filter _).yields.succeeds.bind_refuses
  intro chosen
  apply Refuses.bind
  · exact Refuses.ofExcept fun fault => Connection.ofList_eq_error_iff
  · intro shown
    exact (takes_load stored category shown.nodes).yields.succeeds.bind_pure _

theorem refuses_perform (operation : Operation) :
    Refuses (shop.perform operation) operation.Refusal := by
  cases operation with
  | categories filter page =>
      apply (succeeds_ask stored sound .categories).bind_refuses
      exact fun rows => Refuses.ofExcept fun fault => Connection.ofList_eq_error_iff
  | products category filter page => exact refuses_products stored sound category filter page
  | thumbnailUrl loaded size =>
      apply Refuses.bind
      · exact Refuses.ofExcept fun fault => ThumbnailSize.orStandard_eq_error_iff
      · exact fun given => (succeeds_images stored sound loaded).bind_pure _
  | imageUrl image size => exact Refuses.ofExcept fun fault => imageUrl_eq_error_iff
  | entityByText text =>
      apply Refuses.bind
      · exact Refuses.ofExcept fun fault => Iff.rfl
      · exact fun id => succeeds_entity stored sound id
  | category id => exact (succeeds_category stored sound id).never
  | ancestors category => exact (succeeds_ancestors stored sound category).never
  | categoryUrl category =>
      exact ((succeeds_ancestors stored sound category).bind_pure _).never
  | children category => exact (succeeds_ask stored sound _).never
  | siblings category => exact (succeeds_ask stored sound _).never
  | productCount category => exact (succeeds_ask stored sound _).never
  | descendantCount category =>
      exact ((succeeds_ask stored sound _).bind_pure _).never
  | product id => exact (succeeds_product stored sound id).never
  | productUrl loaded => exact (Succeeds.pure _).never
  | images loaded => exact (succeeds_images stored sound loaded).never
  | variants loaded => exact (succeeds_variants stored sound loaded).never
  | productCategory loaded =>
      exact (succeeds_productCategory stored sound loaded).never
  | offer loaded => exact (succeeds_offer stored sound loaded).never
  | stockQuantity stocked => exact (Succeeds.pure _).never
  | priceOverride stocked => exact (Succeeds.pure _).never
  | attributes categoryId =>
      exact (succeeds_attributes stored sound categoryId).never
  | attributeValues attr => exact (succeeds_ask stored sound _).never
  | entity id => exact (succeeds_entity stored sound id).never

end Shop

end Steps

section Requests

namespace Shop

theorem run_refuses (stored : shop.store = { catalog }) (sound : Forest.Sound catalog.categories)
    (operations : List Operation) (session : Session) :
    ∃ reports after, shop.run operations session = some (reports, after) ∧
      reports.map Report.operation = operations ∧
      ∀ report ∈ reports, ∀ fault,
        report.reached = .error fault ↔ report.operation.Refusal fault := by
  -- A step asks nothing of the session, so whatever the first operation leaves behind will do.
  induction operations generalizing session with
  | nil => exact ⟨[], session, rfl, rfl, by simp⟩
  | cons operation rest ih =>
      rcases refuses_perform stored sound operation session with ⟨reached, middle, ran, faults⟩
      rcases ih middle with ⟨reports, after, others, same, told⟩
      refine ⟨_, after, run_cons ran others, by rw [List.map_cons, same], ?_⟩
      intro report member
      rcases List.mem_cons.mp member with rfl | later
      · exact faults
      · exact told report later

/-- In no request does anything fail but for what its caller wrote. -/
theorem refuses_callers_only (accepted : Catalog.ofSeed seed = .ok catalog)
    (distinct : (seed.categories.map Category.id).Nodup) (stored : shop.store = { catalog })
    (operations : List Operation) (session : Session) :
    ∃ reports after, shop.run operations session = some (reports, after) ∧
      reports.map Report.operation = operations ∧
      ∀ report ∈ reports, ∀ fault,
        (report.reached = .error fault ↔ report.operation.Refusal fault) ∧
        (report.reached = .error fault → fault.isCallers = true) := by
  have separate := Catalog.distinct_categories accepted distinct
  have sound := Forest.sound_of_check catalog.checked (Forest.agreeing_of_nodup separate)
  rcases run_refuses stored sound operations session with ⟨reports, after, ran, same, told⟩
  refine ⟨reports, after, ran, same, fun report member fault => ⟨told report member fault, ?_⟩⟩
  intro failed
  have refusal := (told report member fault).mp failed
  exact refusal.isCallers

/-- The first cursor is refused and the second not looked at; a category that is not there is
answered. -/
theorem refuses_callers_only_nested : ∃ catalog, Catalog.ofSeed .nested = .ok catalog ∧
    ∃ reports after, ({ store := { catalog } } : Shop).run
        [.category 9, .categories {} { after := some "?", before := some "!" }]
        { context := { today := ⟨2024, 6, 1, by decide⟩ } } = some (reports, after) ∧
      (∀ report ∈ reports, report.operation = .category 9 →
        ∀ fault, report.reached ≠ .error fault) ∧
      ∃ report ∈ reports, report.reached = .error (.cursor "?") := by
  obtain ⟨catalog, accepted, -⟩ := Catalog.exists_of_check .nested (by cbv) (by cbv)
  have stored : ({ store := { catalog } } : Shop).store = { catalog } := rfl
  rcases refuses_callers_only accepted (by decide) stored
      [.category 9, .categories {} { after := some "?", before := some "!" }]
      { context := { today := ⟨2024, 6, 1, by decide⟩ } } with ⟨reports, after, ran, same, told⟩
  refine ⟨catalog, accepted, reports, after, ran, ?_, ?_⟩
  · intro report member asked fault failed
    have refusal := (told report member fault).1.mp failed
    rw [asked] at refusal
    exact refusal
  · have unread : Cursor.decode? "?" = none := by cbv
    have among : Operation.categories {} { after := some "?", before := some "!" } ∈
        reports.map Report.operation := by simp [same]
    rcases List.mem_map.mp among with ⟨report, member, asked⟩
    refine ⟨report, member, (told report member _).1.mpr ?_⟩
    rw [asked]
    exact ⟨"?", .after rfl unread, rfl⟩

end Shop

end Requests

end Storefront
