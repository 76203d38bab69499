import Storefront.Proofs.Access
/-!
Two requests side by side. From sessions with one context they are alike if they come to related
answers or to one fault, or neither comes to an end, and leave one context behind. What they ask
on the way may differ.
-/

namespace Storefront

namespace Access

variable {α β γ δ : Type} {on : Context → Prop}

/-- What two runs come to, the contexts that are left being of the given kind. -/
inductive Matched (on : Context → Prop) (related : α → β → Prop) :
    Walk (Except Fault α × Session) → Walk (Except Fault β × Session) → Prop where
  | endless : Matched on related none none
  | fault (reason : Fault) {left right : Session} (same : left.context = right.context)
      (still : on left.context) :
      Matched on related (some (.error reason, left)) (some (.error reason, right))
  | value {first : α} {second : β} {left right : Session} (told : related first second)
      (same : left.context = right.context) (still : on left.context) :
      Matched on related (some (.ok first, left)) (some (.ok second, right))

def Alike (on : Context → Prop) (related : α → β → Prop) (left : Access α) (right : Access β) :
    Prop :=
  ∀ first second : Session, first.context = second.context → on first.context →
    Matched on related (left.runFrom first) (right.runFrom second)

theorem Alike.pure {related : α → β → Prop} {first : α} {second : β}
    (told : related first second) : Alike on related (pure first) (pure second) :=
  fun _ _ same still => .value told same still

theorem Alike.ofExcept (reached : Except Fault α) :
    Alike on (fun left right => left = right ∧ reached = .ok left) (ofExcept reached)
      (ofExcept reached) := by
  intro first second same still
  cases reached with
  | error reason => exact .fault reason same still
  | ok value => exact .value ⟨rfl, rfl⟩ same still

theorem Alike.remember (tree : Subtree) (rootChain : List Category)
    (kept : ∀ context after, on context → context.remember tree rootChain = some after → on after) :
    Alike on Eq (remember tree rootChain) (remember tree rootChain) := by
  intro first second same still
  rw [runFrom_remember, runFrom_remember, ← same]
  cases ended : first.context.remember tree rootChain with
  | none => exact .endless
  | some after => exact .value rfl rfl (kept first.context after still ended)

theorem Alike.bind {related : α → β → Prop} {final : γ → δ → Prop} {left : Access α}
    {right : Access β} {next : α → Access γ} {after : β → Access δ}
    (first : Alike on related left right)
    (others : ∀ value other, related value other → Alike on final (next value) (after other)) :
    Alike on final (left >>= next) (right >>= after) := by
  intro l r same still
  have matched := first l r same still
  rw [runFrom_bind, runFrom_bind]
  -- The runs are made variables, so that the cases are those of how the first parts ended.
  generalize left.runFrom l = leftRun at matched
  generalize right.runFrom r = rightRun at matched
  cases matched with
  | endless => exact .endless
  | fault reason same still => exact .fault reason same still
  | value told same still => exact others _ _ told _ _ same still

theorem Alike.result_eq {left right : Access α} (alike : Alike on Eq left right)
    (session : Session) (still : on session.context) :
    left.result session = right.result session := by
  have matched := alike session session rfl still
  rw [result, result]
  generalize left.runFrom session = leftRun at matched
  generalize right.runFrom session = rightRun at matched
  cases matched with
  | endless => rfl
  | fault reason same still => rfl
  | value told same still => rw [told]; rfl

end Access

namespace Shop

open Access

variable {on : Context → Prop} {shop other : Shop} {full part : Catalog}

theorem alike_ask_of_eq (stored : shop.store = { catalog := full })
    (restored : other.store = { catalog := part }) (query : Query)
    (same : (full.answer query).run = (part.answer query).run) :
    Alike on Eq (shop.ask query) (other.ask query) := by
  intro first second one still
  rw [runFrom_ask stored, runFrom_ask restored, ← same]
  cases (full.answer query).run with
  | none => exact .endless
  | some reached =>
      cases reached with
      | error reason => exact .fault reason one still
      | ok value => exact .value rfl one still

theorem alike_ask (stored : shop.store = { catalog := full })
    (restored : other.store = { catalog := part }) (query : Query) {first second : query.Answer}
    {related : query.Answer → query.Answer → Prop}
    (known : (full.answer query).run = some (.ok first))
    (again : (part.answer query).run = some (.ok second)) (told : related first second) :
    Alike on related (shop.ask query) (other.ask query) := by
  intro left right same still
  rw [runFrom_ask stored, runFrom_ask restored, known, again]
  exact .value told same still

end Shop

end Storefront
