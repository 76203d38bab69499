import Storefront.Proofs.Windows
/-!
Walking through a collection page by page, from the front or from the back. A client asks for so
many items, and for as many again at the cursor where the page ended, as long as there is more.
The walk ends, and its pages have every item once.
-/

namespace Storefront

/-- How to walk: what to ask for at a cursor, whether to go on after a page and at which cursor, and
how the items of a page stand to those of the pages after it. -/
structure Direction where
  ask : UInt64 → Option String → PageArgs
  more : PageInfo → Bool
  next : PageInfo → Option String
  join : {α : Type} → List α → List α → List α

namespace Direction

def forward : Direction where
  ask size cursor := { first := some size, after := cursor }
  more := PageInfo.hasNextPage
  next := PageInfo.endCursor
  join page later := page ++ later

def backward : Direction where
  ask size cursor := { last := some size, before := cursor }
  more := PageInfo.hasPreviousPage
  next := PageInfo.startCursor
  join page later := later ++ page

variable {α : Type}

def pages (way : Direction) (size : UInt64) (items : List α) (cursor : Option String) :
    Walk (Except Fault (List (Connection α))) :=
  match Connection.ofList items (way.ask size cursor) with
  | .error fault => some (.error fault)
  | .ok page =>
      if way.more page.pageInfo then do
        -- The place of a call that is written out would be kept in the term.
        let later : Except Fault (List (Connection α)) ← by
          apply pages
          · exact way
          · exact size
          · exact items
          · exact way.next page.pageInfo
        pure (later.map fun others => page :: others)
      else some (.ok [page])
partial_fixpoint

def gather (way : Direction) (pages : List (Connection α)) : List α :=
  pages.foldr (fun page later => way.join page.nodes later) []

theorem gather_forward (pages : List (Connection α)) :
    forward.gather pages = pages.flatMap Connection.nodes := by
  induction pages with
  | nil => rfl
  | cons page pages ih => rw [List.flatMap_cons, ← ih]; rfl

theorem gather_backward (pages : List (Connection α)) :
    backward.gather pages = pages.reverse.flatMap Connection.nodes := by
  induction pages with
  | nil => rfl
  | cons page pages ih =>
      rw [List.reverse_cons, List.flatMap_append, ← ih, List.flatMap_singleton]
      rfl

section Steps

variable {way : Direction} {size : UInt64} {items : List α}

/-- What a request comes to where `left` items are still to come, and `part` says which ones. -/
structure Advances (way : Direction) (size : UInt64) (items : List α)
    (stands : Nat → Option String → Prop) (part : Nat → List α) : Prop where
  nothing : part 0 = []
  step : ∀ left cursor, stands left cursor → ∃ page,
    Connection.ofList items (way.ask size cursor) = .ok page ∧
    page.totalCount = items.length ∧ page.nodes.length = min size.toNat left ∧
    way.join page.nodes (part (left - size.toNat)) = part left ∧
    way.more page.pageInfo = decide (size.toNat < left) ∧
    (size.toNat < left → stands (left - size.toNat) (way.next page.pageInfo))

/-- How many pages of `size` items it takes; one for no items. -/
def pagesFor (size count : Nat) : Nat := max 1 ((count + (size - 1)) / size)

theorem pagesFor_of_le {size count : Nat} (positive : 0 < size) (few : count ≤ size) :
    pagesFor size count = 1 := by
  have least : (count + (size - 1)) / size < 2 := Nat.div_lt_of_lt_mul (by omega)
  rw [pagesFor]
  omega

theorem pagesFor_of_lt {size count : Nat} (positive : 0 < size) (many : size < count) :
    pagesFor size count = pagesFor size (count - size) + 1 := by
  have next : (count + (size - 1)) / size = (count - size + (size - 1)) / size + 1 := by
    rw [← Nat.add_div_right _ positive]
    congr 1
    omega
  have some : 0 < (count - size + (size - 1)) / size := Nat.div_pos (by omega) positive
  rw [pagesFor, pagesFor]
  omega

structure Covers (size : UInt64) (items : List α) (left : Nat) (pages : List (Connection α)) :
    Prop where
  count : pages.length = pagesFor size.toNat left
  filled : ∀ page ∈ pages, page.nodes = [] → left = 0
  total : ∀ page ∈ pages, page.totalCount = items.length

theorem Covers.cons {left : Nat} {later : List (Connection α)}
    (covers : Covers size items (left - size.toNat) later) (positive : 0 < size.toNat)
    (further : size.toNat < left) {page : Connection α} (filled : page.nodes = [] → left = 0)
    (total : page.totalCount = items.length) : Covers size items left (page :: later) where
  count := by rw [List.length_cons, covers.count, ← pagesFor_of_lt positive further]
  filled := List.forall_mem_cons.mpr ⟨filled, fun other member empty => by
    have none := covers.filled other member empty
    omega⟩
  total := List.forall_mem_cons.mpr ⟨total, covers.total⟩

theorem Advances.pages {stands : Nat → Option String → Prop} {part : Nat → List α}
    (advances : Advances way size items stands part) (positive : 0 < size.toNat) {left : Nat}
    {cursor : Option String} (standing : stands left cursor) :
    ∃ pages, way.pages size items cursor = some (.ok pages) ∧ way.gather pages = part left ∧
      Covers size items left pages := by
  -- By induction on what is to come, of which every page but the last takes away `size` items.
  induction left using Nat.strong_induction_on generalizing cursor with
  | _ left ih =>
    obtain ⟨page, listed, total, length, joined, more, next⟩ := advances.step left cursor standing
    have filled : page.nodes = [] → left = 0 := by
      intro empty
      rw [empty, List.length_nil] at length
      omega
    by_cases further : size.toNat < left
    · obtain ⟨later, walked, gathered, covers⟩ :=
        ih (left - size.toNat) (by omega) (next further)
      refine ⟨page :: later, ?_, ?_, ?_⟩
      · rw [Direction.pages, listed]
        simp only [more, decide_eq_true further, if_true, walked]
        rfl
      · rw [← joined, ← gathered]
        rfl
      · exact covers.cons positive further filled total
    · refine ⟨[page], ?_, ?_, ?_⟩
      · rw [Direction.pages, listed]
        simp only [more, decide_eq_false further]
        rfl
      · rw [← joined, Nat.sub_eq_zero_of_le (by omega), advances.nothing]
        rfl
      · exact {
          count := (pagesFor_of_le positive (by omega)).symm
          filled := List.forall_mem_singleton.mpr filled
          total := List.forall_mem_singleton.mpr total }

end Steps

section Ways

variable {size : UInt64} {items : List α}

theorem cut_forward (size : UInt64) (cursor : Option String) {left count : Nat}
    (within : left ≤ count) :
    (forward.ask size cursor).cut (count - left) count =
      { start := count - left
        stop := count - (left - size.toNat)
        hasPrevious := false
        hasNext := decide (size.toNat < left) } := by
  have ending : max count (count - left) = count := by omega
  have stop : min count (count - left + size.toNat) = count - (left - size.toNat) := by omega
  have more : decide (count - (left - size.toNat) < count) = decide (size.toNat < left) :=
    decide_eq_decide.mpr (by omega)
  rw [← more, ← stop]
  simp only [PageArgs.cut, forward, ending]
  rfl

theorem cut_backward (size : UInt64) (cursor : Option String) (left : Nat) :
    (backward.ask size cursor).cut 0 left =
      { start := left - size.toNat
        stop := left
        hasPrevious := decide (size.toNat < left)
        hasNext := false } := by
  have more : decide (0 < left - size.toNat) = decide (size.toNat < left) :=
    decide_eq_decide.mpr (by omega)
  rw [← more]
  simp only [PageArgs.cut, backward, Nat.max_zero, Nat.zero_max]
  rfl

theorem advances_forward (positive : 0 < size.toNat) (fits : items.length ≤ UInt64.size) :
    Advances forward size items
      (fun left cursor => left ≤ items.length ∧
        (forward.ask size cursor).lower items.length = .ok (items.length - left))
      (fun left => items.drop (items.length - left)) where
  nothing := List.drop_length
  step left cursor standing := by
    obtain ⟨within, low⟩ := standing
    have high : (forward.ask size cursor).upper items.length = .ok items.length := rfl
    have asked := PageArgs.window_eq low high
    rw [cut_forward size cursor within] at asked
    refine ⟨_, Connection.ofList_eq_ok asked, rfl, ?_, ?_, rfl, fun further => ?_⟩
    · rw [Connection.length_nodes_ofWindow items (by dsimp only; omega)]
      dsimp only
      omega
    · have onward : items.drop (items.length - (left - size.toNat)) =
          (items.drop (items.length - left)).drop
            (items.length - (left - size.toNat) - (items.length - left)) := by
        rw [List.drop_drop]
        congr 1
        omega
      rw [Connection.nodes_ofWindow, onward]
      exact List.take_append_drop _ _
    · -- The next request starts behind the last offset shown.
      refine ⟨by omega, ?_⟩
      have last := Connection.endCursor_ofWindow items ⟨items.length - left,
        items.length - (left - size.toNat), false, decide (size.toNat < left)⟩
        (by dsimp only; omega) (by dsimp only; omega)
      rw [PageArgs.lower_encode last (by dsimp only; omega)]
      congr 1
      dsimp only
      omega

theorem advances_backward (positive : 0 < size.toNat) (fits : items.length ≤ UInt64.size) :
    Advances backward size items
      (fun left cursor => left ≤ items.length ∧
        (backward.ask size cursor).upper items.length = .ok left)
      (fun left => items.take left) where
  nothing := rfl
  step left cursor standing := by
    obtain ⟨within, high⟩ := standing
    have low : (backward.ask size cursor).lower items.length = .ok 0 := rfl
    have asked := PageArgs.window_eq low high
    rw [cut_backward] at asked
    refine ⟨_, Connection.ofList_eq_ok asked, rfl, ?_, ?_, rfl, fun further => ?_⟩
    · rw [Connection.length_nodes_ofWindow items within]
      dsimp only
      omega
    · have whole : left - size.toNat + (left - (left - size.toNat)) = left := by omega
      rw [Connection.nodes_ofWindow]
      exact (List.take_add ..).symm.trans (congrArg items.take whole)
    · -- The next request stops before the first one.
      refine ⟨by omega, ?_⟩
      have first := Connection.startCursor_ofWindow items ⟨left - size.toNat, left,
        decide (size.toNat < left), false⟩ within (by dsimp only; omega)
      rw [PageArgs.upper_encode first (by dsimp only; omega)]
      congr 1
      dsimp only
      omega

/-- Either way the pages have every item once, in order. Cursors are read as words, so every offset
has to be one. -/
theorem pages_whole (items : List α) (fits : items.length ≤ UInt64.size) (positive : 0 < size) :
    (∃ pages, forward.pages size items none = some (.ok pages) ∧
      pages.flatMap Connection.nodes = items ∧ Covers size items items.length pages) ∧
    (∃ pages, backward.pages size items none = some (.ok pages) ∧
      pages.reverse.flatMap Connection.nodes = items ∧ Covers size items items.length pages) := by
  replace positive : 0 < size.toNat := UInt64.lt_iff_toNat_lt.mp positive
  constructor
  · have atFront : (forward.ask size none).lower items.length =
        .ok (items.length - items.length) := by
      rw [Nat.sub_self]
      rfl
    obtain ⟨pages, walked, gathered, covers⟩ :=
      (advances_forward positive fits).pages positive ⟨Nat.le_refl _, atFront⟩
    refine ⟨pages, walked, ?_, covers⟩
    rw [← gather_forward, gathered, Nat.sub_self, List.drop_zero]
  · have atBack : (backward.ask size none).upper items.length = .ok items.length := rfl
    obtain ⟨pages, walked, gathered, covers⟩ :=
      (advances_backward positive fits).pages positive ⟨Nat.le_refl _, atBack⟩
    refine ⟨pages, walked, ?_, covers⟩
    rw [← gather_backward, gathered, List.take_length]

theorem pages_whole_letters :
    (∃ pages, forward.pages 2 ['a', 'b', 'c', 'd', 'e'] none = some (.ok pages) ∧
      pages.flatMap Connection.nodes = ['a', 'b', 'c', 'd', 'e'] ∧ pages.length = 3) ∧
    (∃ pages, backward.pages 2 ['a', 'b', 'c', 'd', 'e'] none = some (.ok pages) ∧
      pages.reverse.flatMap Connection.nodes = ['a', 'b', 'c', 'd', 'e'] ∧ pages.length = 3) := by
  obtain ⟨⟨front, walked, whole, covers⟩, back, walkedBack, wholeBack, coversBack⟩ :=
    pages_whole ['a', 'b', 'c', 'd', 'e'] (by decide) (show (0 : UInt64) < 2 by decide)
  exact ⟨⟨front, walked, whole, covers.count⟩, back, walkedBack, wholeBack, coversBack.count⟩

end Ways

end Direction

end Storefront
