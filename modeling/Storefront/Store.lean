import Storefront.Catalog.Query
import Storefront.Context
/-!
Access to a catalog. Every question goes through the store, which notes it in the session; a store
can have some of its questions out of service. What an answer costs can be read off the session,
and what was remembered before a failure stays remembered after it.
-/

namespace Storefront

structure Store where
  catalog : Catalog
  inService : Query → Bool := fun _ => true

structure Session where
  context : Context
  asked : List Query := []
  /-- How many of them reached the catalog. -/
  trips : Nat := 0
  deriving DecidableEq

/-- A computation that may put questions to a store, remember something in its context, and
fail. -/
abbrev Access := ExceptT Fault (StateT Session Walk)

namespace Access

variable {α : Type}

def ofExcept (result : Except Fault α) : Access α := fun session => some (result, session)

def context : Access Context := fun session => some (.ok session.context, session)

def remember (tree : Subtree) (rootChain : List Category) : Access Unit := fun session =>
  (session.context.remember tree rootChain).map fun context => (.ok (), { session with context })

def runFrom (access : Access α) (session : Session) : Walk (Except Fault α × Session) :=
  access session

def result (access : Access α) (session : Session) : Walk (Except Fault α) :=
  (access.runFrom session).map Prod.fst

theorem runFrom_bind {β : Type} (access : Access α) (next : α → Access β) (session : Session) :
    (access >>= next).runFrom session = (access.runFrom session).bind fun
      | (.ok value, after) => (next value).runFrom after
      | (.error fault, after) => some (.error fault, after) := by
  simp only [runFrom, bind, ExceptT.bind, ExceptT.mk, StateT.bind]
  congr 1
  funext ⟨reached, after⟩
  cases reached <;> rfl

theorem runFrom_map {β : Type} (change : α → β) (access : Access α) (session : Session) :
    (change <$> access).runFrom session = (access.runFrom session).map fun
      | (.ok value, after) => (.ok (change value), after)
      | (.error fault, after) => (.error fault, after) := by
  rw [← bind_pure_comp, runFrom_bind, Option.map_eq_bind]
  congr 1
  funext ⟨reached, after⟩
  cases reached <;> rfl

theorem result_eq_some {access : Access α} {session : Session} {answer : Except Fault α} :
    access.result session = some answer ↔
      ∃ after, access.runFrom session = some (answer, after) := by
  simp [result, Option.map_eq_some_iff]

theorem result_map {β : Type} (change : α → β) (access : Access α) (session : Session) :
    (change <$> access).result session = (access.result session).map (Except.map change) := by
  rw [result, runFrom_map, result, Option.map_map, Option.map_map]
  congr 1
  funext ⟨reached, after⟩
  cases reached <;> rfl

theorem runFrom_ofExcept (reached : Except Fault α) (session : Session) :
    (ofExcept reached).runFrom session = some (reached, session) := rfl

theorem runFrom_context (session : Session) :
    context.runFrom session = some (.ok session.context, session) := rfl

theorem runFrom_remember (tree : Subtree) (rootChain : List Category) (session : Session) :
    (remember tree rootChain).runFrom session =
      (session.context.remember tree rootChain).map fun context =>
        (.ok (), { session with context }) := rfl

end Access

namespace Session

def noting (session : Session) (query : Query) : Session :=
  { session with asked := session.asked ++ [query], trips := session.trips + 1 }

theorem context_noting (session : Session) (query : Query) :
    (session.noting query).context = session.context := rfl

end Session

namespace Store

def ask (store : Store) (query : Query) : Access query.Answer := fun session =>
  if store.inService query then
    (store.catalog.answer query).run.map fun answer => (answer, session.noting query)
  else
    some (.error (.store (query.name ++ " unavailable")),
      { session with asked := session.asked ++ [query] })

theorem runFrom_ask (store : Store) (query : Query) (session : Session)
    (served : store.inService query = true) :
    (store.ask query).runFrom session =
      (store.catalog.answer query).run.map fun answer => (answer, session.noting query) :=
  if_pos served

end Store

end Storefront
