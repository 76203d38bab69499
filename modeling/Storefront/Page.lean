import Storefront.Datum.Basic
import Storefront.Fault
import Storefront.Text.Base64
import Storefront.Text.Numeral
import Storefront.Text.Split
/-!
Collections a page at a time. A page is what lies between two cursors, cut to so many items from
its front or its back; every item on it has a cursor of its own, from which the next page can be
asked for.
-/

namespace Storefront

namespace Cursor

def lead : String := "arrayconnection:"

def encode (offset : Nat) : String := Text.Base64.ofText (lead ++ toString offset)

example : encode 0 = "YXJyYXljb25uZWN0aW9uOjA=" := by cbv

def decode? (cursor : String) : Option UInt64 := do
  let bytes ← (Text.Base64.bytes cursor).toOption
  let plain ← Text.ofUtf8? bytes
  let offset ← Text.stripLead? lead.toList plain.toList
  (Text.Numeral.readUInt64 (String.ofList offset)).toOption

def decode (cursor : String) : Except Fault UInt64 :=
  match decode? cursor with
  | some offset => .ok offset
  | none => .error (.cursor cursor)

end Cursor

structure PageArgs where
  first : Option UInt64 := none
  after : Option String := none
  last : Option UInt64 := none
  before : Option String := none
  deriving DecidableEq, Repr

/-- Offsets from `start` up to `stop`, and whether a cut left something out before or behind. -/
structure Window where
  start : Nat
  stop : Nat
  hasPrevious : Bool
  hasNext : Bool
  deriving DecidableEq, Repr

namespace PageArgs

def lower (args : PageArgs) (size : Nat) : Except Fault Nat :=
  match args.after with
  | none => .ok 0
  | some cursor => (Cursor.decode cursor).map fun offset => min (offset.toNat + 1) size

def upper (args : PageArgs) (size : Nat) : Except Fault Nat :=
  match args.before with
  | none => .ok size
  | some cursor => (Cursor.decode cursor).map fun offset => min offset.toNat size

/-- Of the offsets between the cursors the first `first`, of these the last `last`. -/
def cut (args : PageArgs) (lower upper : Nat) : Window :=
  let upper := max upper lower
  let stop := match args.first with
    | none => upper
    | some first => min upper (lower + first.toNat)
  let start := match args.last with
    | none => lower
    | some last => max lower (stop - last.toNat)
  { start, stop
    hasPrevious := args.last.isSome && decide (lower < start)
    hasNext := args.first.isSome && decide (stop < upper) }

def window (args : PageArgs) (size : Nat) : Except Fault Window := do
  let lower ← args.lower size
  let upper ← args.upper size
  pure (args.cut lower upper)

instance : ToDatum PageArgs where
  toDatum args :=
    .table (Record.entry "first" args.first ++ Record.entry "after" args.after ++
      Record.entry "last" args.last ++ Record.entry "before" args.before)

def entryNames : List String := ["first", "after", "last", "before"]

instance : OfDatum PageArgs where
  ofDatum? := Record.ofDatum? entryNames fun given => do
    pure { first := ← Record.optional "first" given
           after := ← Record.optional "after" given
           last := ← Record.optional "last" given
           before := ← Record.optional "before" given }

end PageArgs

structure Edge (α : Type) where
  cursor : String
  node : α
  deriving DecidableEq, Repr

structure PageInfo where
  hasNextPage : Bool
  hasPreviousPage : Bool
  startCursor : Option String
  endCursor : Option String
  deriving DecidableEq, Repr

structure Connection (α : Type) where
  edges : List (Edge α)
  pageInfo : PageInfo
  totalCount : Nat
  deriving DecidableEq, Repr

namespace Connection

variable {α β : Type}

def ofWindow (items : List α) (window : Window) : Connection α :=
  let shown := (items.zipIdx.drop window.start).take (window.stop - window.start)
  let edges := shown.map fun (node, offset) => { cursor := Cursor.encode offset, node }
  { edges
    pageInfo :=
      { hasNextPage := window.hasNext
        hasPreviousPage := window.hasPrevious
        startCursor := edges.head?.map Edge.cursor
        endCursor := edges.getLast?.map Edge.cursor }
    totalCount := items.length }

def ofList (items : List α) (args : PageArgs) : Except Fault (Connection α) :=
  (args.window items.length).map (ofWindow items)

def nodes (page : Connection α) : List α := page.edges.map Edge.node

/-- Other nodes in place of the page's own, in order. There should be one for each edge; further
ones are left out, and so are edges for which there is none. -/
def zipNodes (page : Connection α) (nodes : List β) : Connection β :=
  { page with edges := page.edges.zipWith (fun edge node => { cursor := edge.cursor, node }) nodes }

theorem nodes_ofWindow (items : List α) (window : Window) :
    (ofWindow items window).nodes = (items.drop window.start).take (window.stop - window.start) := by
  simp only [nodes, ofWindow, List.map_map, Function.comp_def]
  have plain : items.zipIdx.map (fun entry => entry.1) = items := List.zipIdx_map_fst 0 items
  rw [List.map_take, List.map_drop, plain]

theorem nodes_sublist {items : List α} {args : PageArgs} {page : Connection α}
    (listed : ofList items args = .ok page) : page.nodes.Sublist items := by
  cases known : args.window items.length with
  | error fault => simp [ofList, known, Except.map] at listed
  | ok window =>
      have same : ofWindow items window = page := by simpa [ofList, known, Except.map] using listed
      rw [← same, nodes_ofWindow]
      exact (List.take_sublist _ _).trans (List.drop_sublist _ _)

theorem nodes_zipNodes_sublist (page : Connection α) (others : List β) :
    (page.zipNodes others).nodes.Sublist others := by
  rw [nodes, zipNodes]
  induction page.edges generalizing others with
  | nil => exact List.nil_sublist others
  | cons edge edges ih =>
      cases others with
      | nil => exact List.Sublist.refl []
      | cons node others => exact (ih others).cons_cons node

instance [ToDatum α] : ToDatum (Edge α) where
  toDatum edge := .table (Record.entry "cursor" edge.cursor ++ Record.entry "node" edge.node)

instance : ToDatum PageInfo where
  toDatum info :=
    .table (Record.entry "hasNextPage" info.hasNextPage ++
      Record.entry "hasPreviousPage" info.hasPreviousPage ++
      Record.entry "startCursor" info.startCursor ++ Record.entry "endCursor" info.endCursor)

instance [ToDatum α] : ToDatum (Connection α) where
  toDatum page :=
    .table (Record.entry "edges" page.edges ++ Record.entry "pageInfo" page.pageInfo ++
      Record.entry "totalCount" page.totalCount)

end Connection

end Storefront
