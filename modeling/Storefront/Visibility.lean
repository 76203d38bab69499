import Storefront.Catalog.Product
import Storefront.Text.NameSet
/-!
Who may see which products. A product that is not published, or whose day has not come, is shown
only to those who hold the permission to see all products.
-/

namespace Storefront

open Text (NameSet)

instance : ToDatum NameSet := ⟨fun set => toDatum set.names⟩
instance : OfDatum NameSet := ⟨fun format datum => (ofDatum? format datum).map NameSet.ofList⟩

structure Requester where
  userId : Option Int64 := none
  isStaff : Bool := false
  /-- Holds every permission. -/
  isSuperuser : Bool := false
  permissions : NameSet := .empty
  deriving DecidableEq, Repr

namespace Requester

def viewProduct : String := "product.view_product"

def anonymous : Requester := {}

def customer (userId : Int64) : Requester := { userId := some userId }

def staff (userId : Int64) (permissions : List String) : Requester where
  userId := some userId
  isStaff := true
  permissions := .ofList permissions

def holds (requester : Requester) (permission : String) : Bool :=
  requester.isSuperuser || requester.permissions.contains permission

instance : ToDatum Requester where
  toDatum requester :=
    .table (Record.entryIfSome "user_id" requester.userId ++
      Record.entry "is_staff" requester.isStaff ++
      Record.entry "is_superuser" requester.isSuperuser ++
      Record.entry "permissions" requester.permissions)

def entryNames : List String := ["user_id", "is_staff", "is_superuser", "permissions"]

instance : OfDatum Requester where
  ofDatum? := Record.ofDatum? entryNames fun given => do
    pure { userId := ← Record.optional "user_id" given
           isStaff := ← Record.orElse "is_staff" false given
           isSuperuser := ← Record.orElse "is_superuser" false given
           permissions := ← Record.orElse "permissions" .empty given }

end Requester

/-- The products that an answer may draw on. -/
inductive Scope where
  | everything
  | availableOn (date : Date)
  deriving DecidableEq

namespace Scope

def admits (scope : Scope) (product : Product) : Bool :=
  match scope with
  | everything => true
  | availableOn date => product.isAvailableOn date

def ofRequester (requester : Requester) (today : Date) : Scope :=
  if requester.holds Requester.viewProduct then everything else availableOn today

end Scope

end Storefront
