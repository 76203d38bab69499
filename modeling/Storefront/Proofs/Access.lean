import Storefront.Shop.Entities
import Storefront.Proofs.Worklist
/-!
Requests to a shop whose store answers every question. A computation keeps a property of the
context if it ends, with an answer or a fault, and leaves a context that still has the property.
It yields a value if it answers with it in every session and leaves the context as it is; what it
takes is the number of questions in between.
-/

namespace Storefront

open Access

variable {α β : Type} {shop : Shop} {catalog : Catalog}

/-- One request, whatever is remembered of it. -/
structure Context.SameRequest (left right : Context) : Prop where
  requester : left.requester = right.requester
  discounts : left.discounts = right.discounts
  currency : left.currency = right.currency
  today : left.today = right.today

theorem Context.SameRequest.refl (context : Context) : context.SameRequest context :=
  ⟨rfl, rfl, rfl, rfl⟩

theorem Context.SameRequest.trans {first second third : Context}
    (one : first.SameRequest second) (two : second.SameRequest third) : first.SameRequest third :=
  ⟨one.requester.trans two.requester, one.discounts.trans two.discounts,
    one.currency.trans two.currency, one.today.trans two.today⟩

theorem Context.sameRequest_remember {before after : Context} {tree : Subtree}
    {rootChain : List Category} (remembered : before.remember tree rootChain = some after) :
    after.SameRequest before := by
  obtain ⟨lineage, -, rfl⟩ := Option.map_eq_some_iff.mp remembered
  exact ⟨rfl, rfl, rfl, rfl⟩

namespace Access

def Keeps (kept : Context → Prop) (access : Access α) : Prop :=
  ∀ session, kept session.context →
    ∃ reached after, access.runFrom session = some (reached, after) ∧ kept after.context

variable {kept : Context → Prop}

theorem Keeps.pure (value : α) : Keeps kept (pure value : Access α) :=
  fun session holds => ⟨.ok value, session, rfl, holds⟩

theorem Keeps.ofExcept (reached : Except Fault α) : Keeps kept (ofExcept reached) :=
  fun session holds => ⟨reached, session, rfl, holds⟩

theorem Keeps.context : Keeps kept context :=
  fun session holds => ⟨.ok session.context, session, rfl, holds⟩

theorem Keeps.bind {access : Access α} {next : α → Access β} (first : Keeps kept access)
    (others : ∀ value, Keeps kept (next value)) : Keeps kept (access >>= next) := by
  intro session holds
  obtain ⟨reached, middle, ran, still⟩ := first session holds
  cases reached with
  | error fault => exact ⟨.error fault, middle, by rw [runFrom_bind, ran]; rfl, still⟩
  | ok value =>
      obtain ⟨final, after, done, last⟩ := others value middle still
      exact ⟨final, after, by rw [runFrom_bind, ran]; exact done, last⟩

theorem Keeps.map {access : Access α} (change : α → β) (first : Keeps kept access) :
    Keeps kept (change <$> access) := by
  rw [← bind_pure_comp]
  exact first.bind fun value => Keeps.pure (change value)

theorem runFrom_bind_eq_ok {access : Access α} {next : α → Access β} {session after : Session}
    {value : β} : (access >>= next).runFrom session = some (.ok value, after) ↔
      ∃ first middle, access.runFrom session = some (.ok first, middle) ∧
        (next first).runFrom middle = some (.ok value, after) := by
  rw [runFrom_bind, Option.bind_eq_some_iff]
  constructor
  · rintro ⟨⟨first | first, middle⟩, ran, others⟩
    · cases others
    · exact ⟨first, middle, ran, others⟩
  · rintro ⟨first, middle, ran, others⟩
    exact ⟨(.ok first, middle), ran, others⟩

theorem runFrom_map_eq_ok {access : Access α} {change : α → β} {session after : Session}
    {value : β} : (change <$> access).runFrom session = some (.ok value, after) ↔
      ∃ first, access.runFrom session = some (.ok first, after) ∧ change first = value := by
  rw [← bind_pure_comp, runFrom_bind_eq_ok]
  constructor
  · rintro ⟨first, middle, ran, told⟩
    cases told
    exact ⟨first, ran, rfl⟩
  · rintro ⟨first, ran, rfl⟩
    exact ⟨first, after, ran, rfl⟩

theorem result_map_eq_ok {access : Access α} {change : α → β} {session : Session} {value : β} :
    (change <$> access).result session = some (.ok value) ↔
      ∃ first, access.result session = some (.ok first) ∧ change first = value := by
  simp only [result_eq_some, runFrom_map_eq_ok]
  constructor
  · rintro ⟨after, first, ran, same⟩
    exact ⟨first, ⟨after, ran⟩, same⟩
  · rintro ⟨first, ⟨after, ran⟩, same⟩
    exact ⟨after, first, ran, same⟩

theorem runFrom_ofExcept_eq_ok {reached : Except Fault α} {session after : Session} {value : α} :
    (ofExcept reached).runFrom session = some (.ok value, after) ↔
      reached = .ok value ∧ after = session := by
  rw [runFrom_ofExcept]
  constructor
  · rintro ⟨⟩
    exact ⟨rfl, rfl⟩
  · rintro ⟨rfl, rfl⟩
    rfl

section Yields

def Yields (access : Access α) (value : α) : Prop :=
  ∀ session, ∃ after : Session,
    access.runFrom session = some (.ok value, after) ∧ after.context = session.context

/-- Both come to one and the same answer, whatever session they start from. -/
def SameAnswer (left right : Access α) : Prop :=
  ∀ session, ∃ answer, left.result session = some answer ∧ right.result session = some answer

theorem Yields.pure (value : α) : Yields (pure value : Access α) value :=
  fun session => ⟨session, rfl, rfl⟩

theorem Yields.bind {access : Access α} {next : α → Access β} {first : α} {value : β}
    (yields : Yields access first) (others : Yields (next first) value) :
    Yields (access >>= next) value := by
  intro session
  obtain ⟨middle, ran, same⟩ := yields session
  obtain ⟨after, done, still⟩ := others middle
  exact ⟨after, runFrom_bind_eq_ok.mpr ⟨first, middle, ran, done⟩, still.trans same⟩

theorem Yields.eq {access : Access α} {value other : α} {session after : Session}
    (yields : Yields access value) (ran : access.runFrom session = some (.ok other, after)) :
    other = value := by
  obtain ⟨_, same, -⟩ := yields session
  rw [ran] at same
  cases same
  rfl

theorem Yields.result {access : Access α} {value : α} (yields : Yields access value)
    (session : Session) : access.result session = some (.ok value) := by
  obtain ⟨after, ran, -⟩ := yields session
  rw [Access.result, ran]
  rfl

theorem Yields.sameAnswer {left right : Access α} {value : α} (first : Yields left value)
    (second : Yields right value) : SameAnswer left right :=
  fun session => ⟨.ok value, first.result session, second.result session⟩

theorem Yields.sameAnswer_bind {left right : Access α} {value : α} {next : α → Access β}
    (first : Yields left value) (second : Yields right value) (final : Context → Except Fault β)
    (others : ∀ session, (next value).result session = some (final session.context)) :
    SameAnswer (left >>= next) (right >>= next) := by
  have told : ∀ {access : Access α}, Yields access value → ∀ session,
      (access >>= next).result session = some (final session.context) := by
    intro access yields session
    obtain ⟨after, ran, same⟩ := yields session
    rw [Access.result, runFrom_bind, ran]
    exact (others after).trans (by rw [same])
  exact fun session => ⟨final session.context, told first session, told second session⟩

end Yields

section Takes

/-- Yields a value, after so many questions. -/
def Takes (access : Access α) (value : α) (trips : Nat) : Prop :=
  ∀ session, ∃ after : Session, access.runFrom session = some (.ok value, after) ∧
    after.context = session.context ∧ after.trips = session.trips + trips

theorem Takes.yields {access : Access α} {value : α} {trips : Nat}
    (takes : Takes access value trips) : Yields access value := by
  intro session
  obtain ⟨after, ran, same, -⟩ := takes session
  exact ⟨after, ran, same⟩

theorem Takes.pure (value : α) : Takes (pure value : Access α) value 0 :=
  fun session => ⟨session, rfl, rfl, rfl⟩

theorem Takes.ofExcept {reached : Except Fault α} {value : α} (known : reached = .ok value) :
    Takes (ofExcept reached) value 0 :=
  known ▸ Takes.pure value

theorem Takes.bind {access : Access α} {next : α → Access β} {first : α} {value : β}
    {one two : Nat} (takes : Takes access first one) (others : Takes (next first) value two) :
    Takes (access >>= next) value (one + two) := by
  intro session
  obtain ⟨middle, ran, same, counted⟩ := takes session
  obtain ⟨after, done, still, total⟩ := others middle
  exact ⟨after, runFrom_bind_eq_ok.mpr ⟨first, middle, ran, done⟩, still.trans same, by omega⟩

theorem Takes.bind_pure {access : Access α} {value : α} {trips : Nat}
    (takes : Takes access value trips) (change : α → β) :
    Takes (access >>= fun value => Pure.pure (change value)) (change value) trips := by
  intro session
  obtain ⟨after, ran, same, counted⟩ := takes session
  exact ⟨after, runFrom_bind_eq_ok.mpr ⟨value, after, ran, rfl⟩, same, counted⟩

end Takes

end Access

namespace Shop

def withCatalog (shop : Shop) (catalog : Catalog) : Shop := { shop with store := { catalog } }

theorem runFrom_ask (stored : shop.store = { catalog }) (query : Query) (session : Session) :
    (shop.ask query).runFrom session =
      (catalog.answer query).run.map fun answer => (answer, session.noting query) := by
  rw [ask, stored]
  exact Store.runFrom_ask _ query session rfl

theorem keeps_ask {kept : Context → Prop} (stored : shop.store = { catalog }) {query : Query}
    (ended : (catalog.answer query).run.isSome) : Keeps kept (shop.ask query) := by
  intro session holds
  obtain ⟨answer, ended⟩ := Option.isSome_iff_exists.mp ended
  exact ⟨answer, session.noting query, by rw [runFrom_ask stored, ended]; rfl, holds⟩

theorem takes_ask (stored : shop.store = { catalog }) {query : Query} {answer : query.Answer}
    (known : (catalog.answer query).run = some (.ok answer)) : Takes (shop.ask query) answer 1 :=
  fun session => ⟨session.noting query, by rw [runFrom_ask stored, known]; rfl, rfl, rfl⟩

theorem yields_ask (stored : shop.store = { catalog }) {query : Query} {answer : query.Answer}
    (known : (catalog.answer query).run = some (.ok answer)) : Yields (shop.ask query) answer :=
  (takes_ask stored known).yields

end Shop

end Storefront
