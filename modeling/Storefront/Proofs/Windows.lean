import Mathlib.Data.List.Range
import Storefront.Proofs.Written
/-!
Windows on a collection. A window never ends before it starts nor reaches beyond the collection,
and the page behind it has an edge for each of its offsets, in order, with the item found there.
-/

namespace Storefront

variable {α β : Type}

namespace PageArgs

structure Readable (args : PageArgs) : Prop where
  after : ∀ cursor ∈ args.after, ∃ offset, Cursor.decode cursor = .ok offset
  before : ∀ cursor ∈ args.before, ∃ offset, Cursor.decode cursor = .ok offset

variable {args : PageArgs}

theorem Readable.lower (readable : args.Readable) (size : Nat) :
    ∃ lower ≤ size, args.lower size = .ok lower := by
  cases given : args.after with
  | none => exact ⟨0, Nat.zero_le size, by rw [PageArgs.lower, given]⟩
  | some cursor =>
      obtain ⟨offset, read⟩ := readable.after cursor given
      refine ⟨min (offset.toNat + 1) size, Nat.min_le_right _ _, ?_⟩
      simp only [PageArgs.lower, given, read, Except.map]

theorem Readable.upper (readable : args.Readable) (size : Nat) :
    ∃ upper ≤ size, args.upper size = .ok upper := by
  cases given : args.before with
  | none => exact ⟨size, Nat.le_refl size, by rw [PageArgs.upper, given]⟩
  | some cursor =>
      obtain ⟨offset, read⟩ := readable.before cursor given
      refine ⟨min offset.toNat size, Nat.min_le_right _ _, ?_⟩
      simp only [PageArgs.upper, given, read, Except.map]

theorem window_eq {size lower upper : Nat} (low : args.lower size = .ok lower)
    (high : args.upper size = .ok upper) : args.window size = .ok (args.cut lower upper) := by
  rw [window, low, high]
  rfl

theorem start_le_stop (args : PageArgs) (lower upper : Nat) :
    (args.cut lower upper).start ≤ (args.cut lower upper).stop := by
  simp only [cut]
  cases args.first <;> cases args.last <;> dsimp only <;> omega

theorem stop_le (args : PageArgs) {lower upper size : Nat} (low : lower ≤ size)
    (high : upper ≤ size) : (args.cut lower upper).stop ≤ size := by
  simp only [cut]
  cases args.first <;> dsimp only <;> omega

theorem Readable.window (readable : args.Readable) (size : Nat) :
    ∃ window, args.window size = .ok window ∧ window.start ≤ window.stop ∧ window.stop ≤ size := by
  obtain ⟨lower, low, first⟩ := readable.lower size
  obtain ⟨upper, high, second⟩ := readable.upper size
  exact ⟨_, window_eq first second, args.start_le_stop lower upper, args.stop_le low high⟩

theorem lower_encode {size offset : Nat} (given : args.after = some (Cursor.encode offset))
    (fits : offset < UInt64.size) : args.lower size = .ok (min (offset + 1) size) := by
  simp only [PageArgs.lower, given, Cursor.decode_encode fits, Except.map,
    UInt64.toNat_ofNat_of_lt' fits]

theorem upper_encode {size offset : Nat} (given : args.before = some (Cursor.encode offset))
    (fits : offset < UInt64.size) : args.upper size = .ok (min offset size) := by
  simp only [PageArgs.upper, given, Cursor.decode_encode fits, Except.map,
    UInt64.toNat_ofNat_of_lt' fits]

end PageArgs

namespace Connection

variable (items : List α) {window : Window}

theorem ofList_eq_ok {items : List α} {args : PageArgs}
    (asked : args.window items.length = .ok window) :
    ofList items args = .ok (ofWindow items window) := by
  rw [ofList, asked]
  rfl

theorem length_nodes_ofWindow (within : window.stop ≤ items.length) :
    (ofWindow items window).nodes.length = window.stop - window.start := by
  rw [nodes_ofWindow, List.length_take, List.length_drop]
  omega

theorem cursors_ofWindow (within : window.stop ≤ items.length) :
    (ofWindow items window).edges.map Edge.cursor =
      (List.range' window.start (window.stop - window.start)).map Cursor.encode := by
  have offsets : ((items.zipIdx.drop window.start).take (window.stop - window.start)).map Prod.snd =
      List.range' window.start (window.stop - window.start) := by
    rw [List.map_take, List.map_drop, List.zipIdx_map_snd, List.drop_range',
      List.take_range'_of_length_ge (by omega)]
    simp
  rw [← offsets, List.map_map, ofWindow, List.map_map]
  rfl

/-- The page has an edge for each offset of the window, in order, with the item found there. -/
structure Shows (page : Connection α) (items : List α) (window : Window) : Prop where
  total : page.totalCount = items.length
  cursors : page.edges.map Edge.cursor =
    (List.range' window.start (window.stop - window.start)).map Cursor.encode
  nodes : ∀ edge ∈ page.edges, ∀ offset, edge.cursor = Cursor.encode offset →
    items[offset]? = some edge.node

theorem shows_ofWindow (within : window.stop ≤ items.length) :
    (ofWindow items window).Shows items window where
  total := rfl
  cursors := cursors_ofWindow items within
  nodes edge member offset named := by
    obtain ⟨⟨node, place⟩, shown, rfl⟩ := List.mem_map.mp member
    have listed := List.mem_of_mem_drop (List.mem_of_mem_take shown)
    rw [← Cursor.encode_injective named]
    exact List.mem_zipIdx_iff_getElem?.mp listed

variable (window) in
theorem startCursor_ofWindow (within : window.stop ≤ items.length)
    (filled : window.start < window.stop) :
    (ofWindow items window).pageInfo.startCursor = some (Cursor.encode window.start) := by
  have first := congrArg List.head? (cursors_ofWindow items within)
  rw [List.head?_map, List.head?_map, List.head?_range', if_neg (by omega)] at first
  exact first

variable (window) in
theorem endCursor_ofWindow (within : window.stop ≤ items.length)
    (filled : window.start < window.stop) :
    (ofWindow items window).pageInfo.endCursor = some (Cursor.encode (window.stop - 1)) := by
  have last := congrArg List.getLast? (cursors_ofWindow items within)
  rw [List.getLast?_map, List.getLast?_map, List.getLast?_range', if_neg (by omega),
    show window.start + (window.stop - window.start) - 1 = window.stop - 1 by omega] at last
  exact last

theorem zipNodes_map (page : Connection α) (change : α → β) :
    page.zipNodes (page.nodes.map change) = { page with
      edges := page.edges.map fun edge => { cursor := edge.cursor, node := change edge.node } } := by
  rw [zipNodes, nodes, List.map_map, List.zipWith_map_right, List.zipWith_self]
  rfl

theorem Shows.zipNodes {page : Connection α} {items : List α} (shows : page.Shows items window)
    (change : α → β) :
    (page.zipNodes (page.nodes.map change)).Shows (items.map change) window := by
  rw [zipNodes_map]
  exact {
    total := by rw [List.length_map, ← shows.total]
    cursors := by rw [← shows.cursors, List.map_map]; rfl
    nodes := by
      intro edge member offset named
      obtain ⟨old, inPage, rfl⟩ := List.mem_map.mp member
      rw [List.getElem?_map, shows.nodes old inPage offset named]
      rfl }

end Connection

end Storefront
