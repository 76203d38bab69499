import Storefront.Proofs.Dispatch
import Storefront.Proofs.Written
/-!
The ids in replies. Whoever asks again within the request for the id of a product, an image, a
variant, an attribute or a category is told of it what was told with the id, whatever has been
asked in between.
-/

namespace Storefront

open Access

variable {seed : Seed} {catalog : Catalog} {shop : Shop} {context : Context}

section LeadingBack

namespace Shop

/-- Whoever asks for the id within the request is given the reply. -/
def LeadsBack (shop : Shop) (context : Context) (id : String) (reply : Datum) : Prop :=
  ∀ again : Session, again.context.SameRequest context →
    (shop.entityReply id).result again = some (.ok (some reply))

theorem entityByText_encode (shop : Shop) (id : GlobalId) :
    shop.entityByText id.encode = shop.entity id := by
  rw [entityByText, GlobalId.decode_encode]
  rfl

variable (stored : shop.store = { catalog }) (distinct : catalog.rows.Distinct)

include stored distinct

theorem leadsBack_attribute {attr : Attribute} (member : attr ∈ catalog.rows.attributes) :
    shop.LeadsBack context (GlobalId.mk .attr attr.id).encode
      (toDatum (catalog.attributeReply attr)) := by
  have found : Answers context (shop.entity ⟨.attr, attr.id⟩) (some (.attr attr)) :=
    answers_entity_found stored (by simp) (Catalog.entity_attr distinct member)
  intro again same
  rw [entityReply, entityByText_encode]
  refine (found.bind ?_).result same
  exact (yields_attributeDetails stored attr).answers.map _

section Visible

variable {product : Product} (inRows : product ∈ catalog.rows.products)
  (admitted : (shop.scopeIn context).admits product = true)

include inRows admitted

theorem leadsBack_product : shop.LeadsBack context (GlobalId.mk .product product.id).encode
    (toDatum (shop.replyOn catalog context product .standard)) := by
  have found : Answers context (shop.entity ⟨.product, product.id⟩)
      (some (.product (.bare product))) :=
    answers_entity_found stored (by simp) (Catalog.entity_product distinct inRows admitted)
  intro again same
  rw [entityReply, entityByText_encode]
  refine (found.bind ?_).result same
  exact (answers_productDetails (faithful_bare stored product) rfl).map _

theorem leadsBack_variant {variant : Variant} (member : variant ∈ catalog.variantsOf product.id) :
    shop.LeadsBack context (GlobalId.mk .variant variant.id).encode
      (toDatum (variantDetails (catalog.stocked variant))) := by
  obtain ⟨known, owned⟩ := List.mem_filter.mp member
  have visible : catalog.rows.ShowsProduct (shop.scopeIn context) variant.productId :=
    ⟨product, inRows, (of_decide_eq_true owned).symm, admitted⟩
  have found : Answers context (shop.entity ⟨.variant, variant.id⟩)
      (some (.variant (catalog.stocked variant))) :=
    answers_entity_found stored (by simp) (Catalog.entity_variant distinct known visible)
  intro again same
  rw [entityReply, entityByText_encode]
  refine (found.bind ?_).result same
  exact Answers.pure _

theorem leadsBack_image {image : Image} (member : image ∈ catalog.imagesOf product.id) :
    shop.LeadsBack context (GlobalId.mk .image image.id).encode
      (toDatum (shop.imageReply image)) := by
  obtain ⟨known, owned⟩ := List.mem_filter.mp member
  have visible : catalog.rows.ShowsProduct (shop.scopeIn context) image.productId :=
    ⟨product, inRows, (of_decide_eq_true owned).symm, admitted⟩
  have found : Answers context (shop.entity ⟨.image, image.id⟩) (some (.image image)) :=
    answers_entity_found stored (by simp) (Catalog.entity_image distinct known visible)
  intro again same
  rw [entityReply, entityByText_encode]
  refine (found.bind ?_).result same
  exact Answers.pure _

end Visible

end Shop

end LeadingBack

section Replies

namespace Shop

/-- The first is the second with a thumbnail of another size, and every id in it leads back. -/
structure Echoed (shop : Shop) (context : Context) (reply plain : ProductReply) : Prop where
  same : reply = { plain with thumbnailUrl := reply.thumbnailUrl }
  product : shop.LeadsBack context reply.id (toDatum plain)
  images : ∀ image ∈ reply.images, shop.LeadsBack context image.id (toDatum image)
  variants : ∀ variant ∈ reply.variants, shop.LeadsBack context variant.id (toDatum variant)

theorem productsReply_eq_ok_iff {categoryId : Int64} {filter : ProductFilter} {args : PageArgs}
    {size : Option String} {session : Session} {shown : Connection ProductReply} :
    (shop.productsReply categoryId filter args size).result session = some (.ok (some shown)) ↔
      ∃ category between page middle replies after,
        (shop.category categoryId).runFrom session = some (.ok (some category), between) ∧
        (shop.products category filter args).runFrom between = some (.ok page, middle) ∧
        (page.nodes.mapM fun loaded => shop.productDetails loaded size).runFrom middle =
          some (.ok replies, after) ∧
        shown = page.zipNodes replies := by
  rw [result_eq_some]
  constructor
  · rintro ⟨after, ran⟩
    obtain ⟨found, between, looked, ran⟩ := runFrom_bind_eq_ok.mp ran
    cases found with
    | none => cases ran
    | some category =>
        obtain ⟨page, middle, listed, ran⟩ := runFrom_bind_eq_ok.mp ran
        obtain ⟨replies, last, replied, done⟩ := runFrom_bind_eq_ok.mp ran
        cases done
        exact ⟨category, between, page, middle, replies, after, looked, listed, replied, rfl⟩
  · rintro ⟨category, between, page, middle, replies, after, looked, listed, replied, rfl⟩
    refine ⟨after, runFrom_bind_eq_ok.mpr ⟨some category, between, looked, ?_⟩⟩
    refine runFrom_bind_eq_ok.mpr ⟨page, middle, listed, ?_⟩
    exact runFrom_bind_eq_ok.mpr ⟨replies, after, replied, rfl⟩

theorem answers_productReply (stored : shop.store = { catalog })
    (separate : (catalog.rows.products.map Product.id).Nodup)
    {product : Product} (inRows : product ∈ catalog.rows.products)
    (admitted : (shop.scopeIn context).admits product = true) {size : Option String}
    {given : ThumbnailSize} (read : ThumbnailSize.orStandard size = .ok given) :
    Answers context (shop.productReply product.id size)
      (some (shop.replyOn catalog context product given)) := by
  apply (answers_product stored separate inRows admitted).bind
  exact (answers_productDetails (faithful_bare stored product) read).map some

theorem categoryReply_leadsBack (stored : shop.store = { catalog })
    (sound : Forest.Sound catalog.categories) {id : Int64} {session : Session}
    {reply : CategoryReply}
    (told : (shop.categoryReply id).result session = some (.ok (some reply))) :
    shop.LeadsBack context reply.id (toDatum reply) := by
  obtain ⟨after, ran⟩ := result_eq_some.mp told
  obtain ⟨found, middle, looked, ran⟩ := runFrom_bind_eq_ok.mp ran
  obtain ⟨rfl, -⟩ := category_sameRequest stored sound looked
  cases known : catalog.category? id with
  | none =>
      rw [known] at ran
      cases ran
  | some root =>
      -- One reply is told in every session, so it is the one that was told in this one.
      obtain ⟨other, named, always⟩ := runFrom_category_told stored sound known
      rw [known] at looked ran
      obtain ⟨first, details, same⟩ := runFrom_map_eq_ok.mp ran
      cases same
      obtain ⟨between, final, again, same⟩ := always session
      rw [looked] at again
      cases again
      rw [details] at same
      cases same
      intro again _
      obtain ⟨between, final, looked, details⟩ := always again
      have entity : (shop.entity ⟨.category, id⟩).runFrom again =
          some (.ok (some (.category root)), between) :=
        runFrom_bind_eq_ok.mpr ⟨some root, between, looked, rfl⟩
      rw [entityReply, named, entityByText_encode]
      refine result_eq_some.mpr ⟨final, runFrom_bind_eq_ok.mpr ⟨_, between, entity, ?_⟩⟩
      exact runFrom_map_eq_ok.mpr ⟨_, details, rfl⟩

variable (stored : shop.store = { catalog }) (distinct : catalog.rows.Distinct)

include stored distinct

theorem echoed_replyOn {product : Product} (inRows : product ∈ catalog.rows.products)
    (admitted : (shop.scopeIn context).admits product = true) (given : ThumbnailSize) :
    shop.Echoed context (shop.replyOn catalog context product given)
      (shop.replyOn catalog context product .standard) where
  same := rfl
  product := leadsBack_product stored distinct inRows admitted
  images reply member := by
    obtain ⟨image, own, rfl⟩ := List.mem_map.mp member
    exact leadsBack_image stored distinct inRows admitted own
  variants reply member := by
    obtain ⟨stocked, inStock, rfl⟩ := List.mem_map.mp member
    obtain ⟨variant, own, rfl⟩ := List.mem_map.mp inStock
    exact leadsBack_variant stored distinct inRows admitted own

theorem attributesReply_leadsBack {categoryId : Option Int64} {session : Session}
    {replies : List AttributeReply}
    (told : (shop.attributesReply categoryId).result session = some (.ok replies)) :
    ∀ reply ∈ replies, shop.LeadsBack context reply.id (toDatum reply) := by
  obtain ⟨after, ran⟩ := result_eq_some.mp told
  obtain ⟨attributes, middle, listed, ran⟩ := runFrom_bind_eq_ok.mp ran
  have known := runFrom_attributes_eq_ok stored listed
  have answers : Answers middle.context (attributes.mapM shop.attributeDetails)
      (attributes.map catalog.attributeReply) :=
    Answers.mapM fun attr _ => (yields_attributeDetails stored attr).answers
  obtain ⟨rfl, -⟩ := answers.eq (.refl _) ran
  intro reply member
  obtain ⟨attr, among, rfl⟩ := List.mem_map.mp member
  exact leadsBack_attribute stored distinct (known among)

theorem productReply_echoed {id : Int64} {size : Option String} {session : Session}
    {reply : ProductReply}
    (told : (shop.productReply id size).result session = some (.ok (some reply))) :
    ∃ plain, (shop.productReply id none).result session = some (.ok (some plain)) ∧
      shop.Echoed session.context reply plain := by
  obtain ⟨after, ran⟩ := result_eq_some.mp told
  obtain ⟨found, middle, looked, rest⟩ := runFrom_bind_eq_ok.mp ran
  obtain ⟨final, again, -⟩ := runFrom_product_visible stored id session
  rw [looked] at again
  cases again
  cases seen : catalog.visible? (shop.scopeIn session.context) id with
  | none =>
      rw [seen] at rest
      cases rest
  | some product =>
      obtain ⟨inRows, rfl, admitted⟩ := (Catalog.visible_eq_some_iff distinct.products).mp seen
      rw [seen] at rest
      -- There is a reply, so the size could be read.
      obtain ⟨_, details, -⟩ := runFrom_map_eq_ok.mp rest
      obtain ⟨given, read⟩ := size_of_productDetails details
      have answers := answers_productReply stored distinct.products inRows admitted read
      have plain : Answers session.context (shop.productReply product.id none) _ :=
        answers_productReply stored distinct.products inRows admitted rfl
      obtain ⟨⟨⟩, -⟩ := answers.eq (.refl _) ran
      exact ⟨_, plain.result (.refl _), echoed_replyOn stored distinct inRows admitted given⟩

theorem productsReply_echoed (sound : Forest.Sound catalog.categories) {categoryId : Int64}
    {filter : ProductFilter} {args : PageArgs} {size : Option String} {session : Session}
    {shown : Connection ProductReply}
    (told : (shop.productsReply categoryId filter args size).result session =
      some (.ok (some shown))) :
    ∃ plain, (shop.productsReply categoryId filter args none).result session =
        some (.ok (some plain)) ∧
      List.Forall₂ (shop.Echoed session.context) shown.nodes plain.nodes := by
  obtain ⟨category, between, page, middle, replies, after, looked, listed, replied, rfl⟩ :=
    productsReply_eq_ok_iff.mp told
  obtain ⟨found, within⟩ := category_sameRequest stored sound looked
  obtain ⟨products, nodes, passes, kept⟩ :=
    nodes_of_runFrom_products stored distinct.products listed
  have known : catalog.category? category.id = some category := by
    rw [(Forest.find_mem found.symm).2]
    exact found.symm
  have belong : ∀ product ∈ products, product.categoryId = category.id :=
    fun product member => (passes product member).2.belongs
  have same : middle.context.SameRequest session.context := kept ▸ within
  rw [nodes] at replied
  obtain ⟨given, rfl⟩ := size_of_page known belong same replied
  -- The page is the same without a size, and so are the replies but for their thumbnails.
  have plain : Answers session.context (page.nodes.mapM fun loaded =>
        shop.productDetails loaded none)
      (products.map fun product => shop.replyOn catalog session.context product .standard) := by
    rw [nodes]
    exact answers_page known belong rfl
  obtain ⟨final, again, -⟩ := plain middle same
  refine ⟨_, productsReply_eq_ok_iff.mpr
    ⟨category, between, page, middle, _, final, looked, listed, again, rfl⟩, ?_⟩
  rw [Connection.nodes_zipNodes (by simp [nodes]), Connection.nodes_zipNodes (by simp [nodes]),
    List.forall₂_map_left_iff, List.forall₂_map_right_iff, List.forall₂_same]
  intro product member
  obtain ⟨inRows, pass⟩ := passes product member
  have admitted := pass.admitted
  rw [shop.scopeIn_of_sameRequest within] at admitted
  exact echoed_replyOn stored distinct inRows admitted given

end Shop

end Replies

/-- Every id that is told within a request leads back to what it was told with. -/
theorem Shop.ids_lead_back (accepted : Catalog.ofSeed seed = .ok catalog) (unique : seed.Distinct)
    (stored : shop.store = { catalog }) (session : Session) :
    (∀ id size reply, (shop.productReply id size).result session = some (.ok (some reply)) →
      ∃ plain, (shop.productReply id none).result session = some (.ok (some plain)) ∧
        shop.Echoed session.context reply plain) ∧
    (∀ categoryId filter args size shown,
      (shop.productsReply categoryId filter args size).result session = some (.ok (some shown)) →
      ∃ plain, (shop.productsReply categoryId filter args none).result session =
          some (.ok (some plain)) ∧
        List.Forall₂ (shop.Echoed session.context) shown.nodes plain.nodes) ∧
    (∀ categoryId replies,
      (shop.attributesReply categoryId).result session = some (.ok replies) →
      ∀ reply ∈ replies, shop.LeadsBack session.context reply.id (toDatum reply)) ∧
    ∀ id reply, (shop.categoryReply id).result session = some (.ok (some reply)) →
      shop.LeadsBack session.context reply.id (toDatum reply) := by
  have distinct : catalog.rows.Distinct := by
    rw [Catalog.ofSeed_eq_ok accepted]
    exact unique.arranged
  have sound : Forest.Sound catalog.categories :=
    Forest.sound_of_check catalog.checked (Forest.agreeing_of_nodup distinct.categories)
  refine ⟨?_, ?_, ?_, ?_⟩
  · intro id size reply told
    exact productReply_echoed stored distinct told
  · intro categoryId filter args size shown told
    exact productsReply_echoed stored distinct sound told
  · intro categoryId replies told
    exact attributesReply_leadsBack stored distinct told
  · intro id reply told
    exact categoryReply_leadsBack stored sound told

/-- Told of a wine with its picture cropped, of a page of wines, of their category and of a grape,
one can ask for each of them again. -/
theorem Shop.ids_lead_back_cellar : ∃ catalog, Catalog.ofSeed .cellar = .ok catalog ∧
    let shop : Shop := { store := { catalog } }
    let session : Session := { context := { today := ⟨2024, 6, 1, by decide⟩ } }
    (∃ reply plain : ProductReply,
      (shop.productReply 8 (some "60x60")).result session = some (.ok (some reply)) ∧
      reply.name = "Port" ∧ plain.name = "Port" ∧
      (shop.entityReply reply.id).result session = some (.ok (some (toDatum plain)))) ∧
    (∃ shown plain : Connection ProductReply,
      (shop.productsReply 1 {} {} (some "60x60")).result session = some (.ok (some shown)) ∧
      (shown.nodes.map fun reply => (reply.name, reply.images.length, reply.variants.length)) =
        [("Merlot", 0, 1), ("Port", 1, 1), ("Sherry", 0, 0)] ∧
      (shop.productsReply 1 {} {} none).result session = some (.ok (some plain)) ∧
      List.Forall₂ (shop.Echoed session.context) shown.nodes plain.nodes) ∧
    (∃ replies : List AttributeReply,
      (shop.attributesReply none).result session = some (.ok replies) ∧
      replies.map AttributeReply.name = ["Grape"] ∧
      ∀ reply ∈ replies,
        (shop.entityReply reply.id).result session = some (.ok (some (toDatum reply)))) ∧
    ∃ reply : CategoryReply,
      (shop.categoryReply 1).result session = some (.ok (some reply)) ∧
      reply.id = (GlobalId.mk .category 1).encode ∧
      (shop.entityReply reply.id).result session = some (.ok (some (toDatum reply))) := by
  have unique : Seed.cellar.Distinct := by constructor <;> decide
  have checked : Forest.check Seed.cellar.arranged.categories = .ok () := by cbv
  have accepted := Catalog.ofSeed_of_check checked
  have page : (Option.map (fun shown => shown.nodes.map fun reply =>
        (reply.name, reply.images.length, reply.variants.length)) <$>
      ({ store := { catalog := ⟨_, _, rfl, checked⟩ } } : Shop).productsReply 1 {} {}
        (some "60x60")).result { context := { today := ⟨2024, 6, 1, by decide⟩ } } =
      some (.ok (some [("Merlot", 0, 1), ("Port", 1, 1), ("Sherry", 0, 0)])) := by cbv
  have attributes : (List.map AttributeReply.name <$>
      ({ store := { catalog := ⟨_, _, rfl, checked⟩ } } : Shop).attributesReply none).result
        { context := { today := ⟨2024, 6, 1, by decide⟩ } } = some (.ok ["Grape"]) := by cbv
  have known : Catalog.category? ⟨_, _, rfl, checked⟩ 1 =
    some { id := 1, name := "Wine", slug := "wine" } := by cbv
  generalize (⟨_, _, rfl, checked⟩ : Catalog) = catalog at accepted page attributes known
  have stored : ({ store := { catalog } } : Shop).store = { catalog } := rfl
  have distinct : catalog.rows.Distinct := by
    rw [Catalog.ofSeed_eq_ok accepted]
    exact unique.arranged
  have sound : Forest.Sound catalog.categories :=
    Forest.sound_of_check catalog.checked (Forest.agreeing_of_nodup distinct.categories)
  obtain ⟨products, pages, attrs, categories⟩ := ids_lead_back accepted unique stored
    { context := { today := ⟨2024, 6, 1, by decide⟩ } }
  refine ⟨catalog, accepted, ?_, ?_, ?_, ?_⟩
  · have inRows : (⟨8, "Port", "", 1, 1, ⟨1900, .eur⟩, true, none, []⟩ : Product) ∈
        catalog.rows.products := by
      rw [Catalog.ofSeed_eq_ok accepted]
      exact (Seed.byId_perm Product.id Seed.cellar.products).mem_iff.mpr (by decide)
    have read : ThumbnailSize.orStandard (some "60x60") = .ok ⟨60, 60⟩ := by cbv
    have told : (({ store := { catalog } } : Shop).productReply 8 (some "60x60")).result
        { context := { today := ⟨2024, 6, 1, by decide⟩ } } = some (.ok (some _)) :=
      (answers_productReply stored distinct.products inRows rfl read).result (.refl _)
    obtain ⟨plain, -, echoed⟩ := products 8 _ _ told
    have name := congrArg ProductReply.name echoed.same
    exact ⟨_, plain, told, rfl, name.symm, echoed.product _ (.refl _)⟩
  · obtain ⟨_, told, names⟩ := result_map_eq_ok.mp page
    obtain ⟨shown, rfl, listed⟩ := Option.map_eq_some_iff.mp names
    obtain ⟨plain, again, echoed⟩ := pages 1 {} {} _ shown told
    exact ⟨shown, plain, told, listed, again, echoed⟩
  · obtain ⟨replies, told, names⟩ := result_map_eq_ok.mp attributes
    exact ⟨replies, told, names, fun reply member => attrs none replies told reply member _ (.refl _)⟩
  · obtain ⟨reply, named, always⟩ := runFrom_category_told stored sound known
    obtain ⟨middle, after, looked, details⟩ :=
      always { context := { today := ⟨2024, 6, 1, by decide⟩ } }
    have told : (({ store := { catalog } } : Shop).categoryReply 1).result
        { context := { today := ⟨2024, 6, 1, by decide⟩ } } = some (.ok (some reply)) :=
      result_eq_some.mpr ⟨after, runFrom_bind_eq_ok.mpr
        ⟨_, middle, looked, runFrom_map_eq_ok.mpr ⟨reply, details, rfl⟩⟩⟩
    exact ⟨reply, told, named, categories 1 reply told _ (.refl _)⟩

end Storefront
