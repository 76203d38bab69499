import Mathlib.Data.List.Forall2
import Storefront.Proofs.Cursors
import Storefront.Proofs.Windows
/-!
A page by the items that may be on it. What lies between the cursors is cut to its first items and
then to the last of these; a cut that leaves something out is told. The bounds are natural numbers
here, and counting in words instead makes no difference: a sum that would leave the words is cut
down by a bound anyway, and no window ends before it starts.
-/

namespace Storefront

variable {α β : Type}

namespace Word

def saturatingAdd (left right : UInt64) : UInt64 :=
  if left + right < left then .ofNat (UInt64.size - 1) else left + right

def saturatingSub (left right : UInt64) : UInt64 := if left < right then 0 else left - right

theorem toNat_saturatingAdd (left right : UInt64) :
    (saturatingAdd left right).toNat = min (left.toNat + right.toNat) (UInt64.size - 1) := by
  have small := left.toNat_lt
  have less := right.toNat_lt
  have sum := UInt64.toNat_add left right
  simp only [saturatingAdd, UInt64.lt_iff_toNat_lt]
  by_cases wraps : (left + right).toNat < left.toNat
  · rw [if_pos wraps, UInt64.toNat_ofNat_of_lt' (by decide)]
    simp only [UInt64.size]
    omega
  · rw [if_neg wraps]
    simp only [UInt64.size]
    omega

theorem toNat_saturatingSub (left right : UInt64) :
    (saturatingSub left right).toNat = left.toNat - right.toNat := by
  simp only [saturatingSub, UInt64.lt_iff_toNat_lt]
  by_cases short : left.toNat < right.toNat
  · rw [if_pos short, UInt64.toNat_zero]
    omega
  · rw [if_neg short, UInt64.toNat_sub_of_le _ _ (UInt64.le_iff_toNat_le.mpr (by omega))]

end Word

structure WordWindow where
  start : UInt64
  stop : UInt64
  hasPrevious : Bool
  hasNext : Bool

/-- As many offsets from `start` on as the plain difference of words says, whether or not it
wraps. -/
def WordWindow.span (words : WordWindow) : Window where
  start := words.start.toNat
  stop := words.start.toNat + (words.stop - words.start).toNat
  hasPrevious := words.hasPrevious
  hasNext := words.hasNext

namespace PageArgs

def lowerWord (args : PageArgs) (size : UInt64) : Except Fault UInt64 :=
  match args.after with
  | none => .ok 0
  | some cursor => (Cursor.decode cursor).map fun offset => min (Word.saturatingAdd offset 1) size

def upperWord (args : PageArgs) (size : UInt64) : Except Fault UInt64 :=
  match args.before with
  | none => .ok size
  | some cursor => (Cursor.decode cursor).map fun offset => min offset size

def cutWords (args : PageArgs) (lower upper : UInt64) : WordWindow :=
  let upper := max upper lower
  let stop := match args.first with
    | none => upper
    | some first => min upper (Word.saturatingAdd lower first)
  let start := match args.last with
    | none => lower
    | some last => max lower (Word.saturatingSub stop last)
  { start, stop
    hasPrevious := args.last.isSome && decide (lower < start)
    hasNext := args.first.isSome && decide (stop < upper) }

def windowWords (args : PageArgs) (size : UInt64) : Except Fault WordWindow := do
  let lower ← args.lowerWord size
  let upper ← args.upperWord size
  pure (args.cutWords lower upper)

variable (args : PageArgs)

theorem lower_words (size : UInt64) :
    args.lower size.toNat = (args.lowerWord size).map UInt64.toNat := by
  have least := size.toNat_lt
  cases given : args.after with
  | none => simp only [lower, lowerWord, given, Except.map, UInt64.toNat_zero]
  | some cursor =>
      simp only [lower, lowerWord, given]
      cases Cursor.decode cursor with
      | error fault => rfl
      | ok offset =>
          simp only [Except.map, UInt64.toNat_min, Word.toNat_saturatingAdd, UInt64.toNat_one,
            UInt64.size]
          congr 1
          omega

theorem upper_words (size : UInt64) :
    args.upper size.toNat = (args.upperWord size).map UInt64.toNat := by
  cases given : args.before with
  | none => simp only [upper, upperWord, given, Except.map]
  | some cursor =>
      simp only [upper, upperWord, given]
      cases Cursor.decode cursor with
      | error fault => rfl
      | ok offset => simp only [Except.map, UInt64.toNat_min]

theorem cutWords_toNat (lower upper : UInt64) :
    (args.cutWords lower upper).start.toNat = (args.cut lower.toNat upper.toNat).start ∧
      (args.cutWords lower upper).stop.toNat = (args.cut lower.toNat upper.toNat).stop := by
  have least := (max upper lower).toNat_lt
  -- The upper bound is a word, so it is no matter where beyond it a sum stops.
  have bounded (first : UInt64) : min (max upper.toNat lower.toNat)
      (min (lower.toNat + first.toNat) (UInt64.size - 1)) =
        min (max upper.toNat lower.toNat) (lower.toNat + first.toNat) := by
    rw [UInt64.toNat_max] at least
    simp only [UInt64.size]
    omega
  simp only [cutWords, cut]
  constructor <;> cases args.first <;> cases args.last <;>
    simp only [UInt64.toNat_max, UInt64.toNat_min, Word.toNat_saturatingAdd,
      Word.toNat_saturatingSub, bounded]

theorem start_le_stop_words (lower upper : UInt64) :
    (args.cutWords lower upper).start ≤ (args.cutWords lower upper).stop := by
  rw [UInt64.le_iff_toNat_le, (args.cutWords_toNat lower upper).1,
    (args.cutWords_toNat lower upper).2]
  exact args.start_le_stop lower.toNat upper.toNat

theorem span_cutWords (lower upper : UInt64) :
    (args.cutWords lower upper).span = args.cut lower.toNat upper.toNat := by
  have starts := (args.cutWords_toNat lower upper).1
  have stops := (args.cutWords_toNat lower upper).2
  have ordered := args.start_le_stop_words lower upper
  have previous : (args.cutWords lower upper).hasPrevious =
      (args.cut lower.toNat upper.toNat).hasPrevious := by
    change (args.last.isSome && decide (lower < (args.cutWords lower upper).start)) =
      (args.last.isSome && decide (lower.toNat < (args.cut lower.toNat upper.toNat).start))
    rw [← starts]
    simp only [UInt64.lt_iff_toNat_lt]
  have next : (args.cutWords lower upper).hasNext =
      (args.cut lower.toNat upper.toNat).hasNext := by
    change (args.first.isSome && decide ((args.cutWords lower upper).stop < max upper lower)) =
      (args.first.isSome && decide ((args.cut lower.toNat upper.toNat).stop <
        max upper.toNat lower.toNat))
    rw [← stops]
    simp only [UInt64.lt_iff_toNat_lt, UInt64.toNat_max]
  rw [WordWindow.span, UInt64.toNat_sub_of_le _ _ ordered,
    Nat.add_sub_cancel' (UInt64.le_iff_toNat_le.mp ordered), starts, stops, previous, next]

theorem start_le_stop_of_asked {size : UInt64} {words : WordWindow}
    (asked : args.windowWords size = .ok words) : words.start ≤ words.stop := by
  rcases bind_eq_ok_iff.mp asked with ⟨lower, _, rest⟩
  rcases bind_eq_ok_iff.mp rest with ⟨upper, _, same⟩
  cases same
  exact args.start_le_stop_words lower upper

theorem window_words (size : UInt64) :
    args.window size.toNat = (args.windowWords size).map WordWindow.span := by
  rw [window, windowWords, lower_words, upper_words]
  cases args.lowerWord size with
  | error fault => rfl
  | ok lower =>
      cases args.upperWord size with
      | error fault => rfl
      | ok upper => exact congrArg Except.ok (args.span_cutWords lower upper).symm

end PageArgs

namespace PageArgs

def admits (args : PageArgs) (offset : Nat) : Bool :=
  (args.after.bind Cursor.decode?).all (fun mark => decide (mark.toNat < offset)) &&
    (args.before.bind Cursor.decode?).all fun mark => decide (offset < mark.toNat)

def eligible (args : PageArgs) (items : List α) : List (α × Nat) :=
  items.zipIdx.filter fun entry => args.admits entry.2

/-- Of what lies between the cursors the first `first`. -/
def leading (args : PageArgs) (items : List α) : List (α × Nat) :=
  match args.first with
  | none => args.eligible items
  | some first => (args.eligible items).take first.toNat

def kept (args : PageArgs) (items : List α) : List (α × Nat) :=
  match args.last with
  | none => args.leading items
  | some last => (args.leading items).drop ((args.leading items).length - last.toNat)

end PageArgs

namespace Connection

/-- The page has what is left after both cuts, each item under a cursor that reads as its offset,
and tells which of the cuts left something out. -/
structure Slices (page : Connection α) (items : List α) (args : PageArgs) : Prop where
  edges : List.Forall₂ (fun edge entry => edge.node = entry.1 ∧
    ∃ offset, Cursor.decode edge.cursor = .ok offset ∧ offset.toNat = entry.2)
      page.edges (args.kept items)
  hasNextPage : page.pageInfo.hasNextPage = true ↔
    args.first.isSome ∧ (args.leading items).length < (args.eligible items).length
  hasPreviousPage : page.pageInfo.hasPreviousPage = true ↔
    args.last.isSome ∧ (args.kept items).length < (args.leading items).length
  startCursor : page.pageInfo.startCursor = page.edges.head?.map Edge.cursor
  endCursor : page.pageInfo.endCursor = page.edges.getLast?.map Edge.cursor
  totalCount : page.totalCount = items.length

end Connection

theorem filter_zipIdx (items : List α) (start lower upper : Nat) :
    (items.zipIdx start).filter
        (fun entry => decide (lower ≤ entry.2) && decide (entry.2 < upper)) =
      ((items.zipIdx start).drop (lower - start)).take (upper - max lower start) := by
  induction items generalizing start with
  | nil => simp
  | cons item items ih =>
      rw [List.zipIdx_cons]
      -- The stretch lies ahead, the first entry is in it, or it lies behind.
      by_cases early : start < lower
      · have out : ¬ (decide (lower ≤ start) && decide (start < upper)) = true := by
          simp only [Bool.and_eq_true, decide_eq_true_eq]
          omega
        rw [List.filter_cons, if_neg out, ih,
          show lower - start = (lower - (start + 1)) + 1 by omega, List.drop_succ_cons,
          show max lower (start + 1) = max lower start by omega]
      · rw [show lower - start = 0 by omega, List.drop_zero]
        by_cases inside : start < upper
        · have within : (decide (lower ≤ start) && decide (start < upper)) = true := by
            simp only [Bool.and_eq_true, decide_eq_true_eq]
            omega
          rw [List.filter_cons, if_pos within, ih,
            show upper - max lower start = (upper - max lower (start + 1)) + 1 by omega,
            List.take_succ_cons, show lower - (start + 1) = 0 by omega, List.drop_zero]
        · have out : ¬ (decide (lower ≤ start) && decide (start < upper)) = true := by
            simp only [Bool.and_eq_true, decide_eq_true_eq]
            omega
          rw [List.filter_cons, if_neg out, ih,
            show upper - max lower start = 0 by omega,
            show upper - max lower (start + 1) = 0 by omega, List.take_zero, List.take_zero]

namespace PageArgs

variable {args : PageArgs} {items : List α} {size lower upper : Nat}

theorem lower_le_start (args : PageArgs) (lower upper : Nat) :
    lower ≤ (args.cut lower upper).start := by
  simp only [cut]
  cases args.last with
  | none => exact Nat.le_refl lower
  | some last => exact Nat.le_max_left _ _

theorem lower_le_stop (args : PageArgs) (lower upper : Nat) :
    lower ≤ (args.cut lower upper).stop :=
  Nat.le_trans (args.lower_le_start lower upper) (args.start_le_stop lower upper)

theorem stop_le_upper (args : PageArgs) (lower upper : Nat) :
    (args.cut lower upper).stop ≤ max upper lower := by
  simp only [cut]
  cases args.first with
  | none => exact Nat.le_refl _
  | some first => exact Nat.min_le_left _ _

theorem lower_le (low : args.lower size = .ok lower) : lower ≤ size := by
  cases given : args.after with
  | none =>
      rw [PageArgs.lower, given] at low
      cases low
      exact Nat.zero_le size
  | some cursor =>
      simp only [PageArgs.lower, given, map_eq_ok_iff] at low
      rcases low with ⟨mark, _, rfl⟩
      exact Nat.min_le_right _ _

theorem upper_le (high : args.upper size = .ok upper) : upper ≤ size := by
  cases given : args.before with
  | none =>
      rw [PageArgs.upper, given] at high
      cases high
      exact Nat.le_refl size
  | some cursor =>
      simp only [PageArgs.upper, given, map_eq_ok_iff] at high
      rcases high with ⟨mark, _, rfl⟩
      exact Nat.min_le_right _ _

theorem behind_eq (low : args.lower items.length = .ok lower) {offset : Nat}
    (within : offset < items.length) :
    ((args.after.bind Cursor.decode?).all fun mark => decide (mark.toNat < offset)) =
      decide (lower ≤ offset) := by
  cases given : args.after with
  | none =>
      rw [PageArgs.lower, given] at low
      cases low
      simp
  | some cursor =>
      simp only [PageArgs.lower, given, map_eq_ok_iff, Cursor.decode_eq_ok_iff] at low
      rcases low with ⟨mark, read, rfl⟩
      rw [Option.bind_some, read, Option.all_some]
      exact decide_eq_decide.mpr (by omega)

theorem ahead_eq (high : args.upper items.length = .ok upper) {offset : Nat}
    (within : offset < items.length) :
    ((args.before.bind Cursor.decode?).all fun mark => decide (offset < mark.toNat)) =
      decide (offset < upper) := by
  cases given : args.before with
  | none =>
      rw [PageArgs.upper, given] at high
      cases high
      simp [within]
  | some cursor =>
      simp only [PageArgs.upper, given, map_eq_ok_iff, Cursor.decode_eq_ok_iff] at high
      rcases high with ⟨mark, read, rfl⟩
      rw [Option.bind_some, read, Option.all_some]
      exact decide_eq_decide.mpr (by omega)

variable (low : args.lower items.length = .ok lower) (high : args.upper items.length = .ok upper)
include low high

theorem eligible_eq :
    args.eligible items = (items.zipIdx.drop lower).take (upper - lower) := by
  have bounded : ∀ entry ∈ items.zipIdx,
      args.admits entry.2 = (decide (lower ≤ entry.2) && decide (entry.2 < upper)) := by
    intro entry listed
    have within := List.snd_lt_of_mem_zipIdx listed
    rw [Nat.add_zero] at within
    rw [admits, behind_eq low within, ahead_eq high within]
  rw [eligible, List.filter_congr bounded, filter_zipIdx, Nat.sub_zero, Nat.max_zero]

theorem leading_eq :
    args.leading items = (items.zipIdx.drop lower).take ((args.cut lower upper).stop - lower) := by
  have between := eligible_eq low high
  cases given : args.first with
  | none =>
      simp only [leading, cut, given, between]
      rw [show max upper lower - lower = upper - lower by omega]
  | some first =>
      have least : min (max upper lower) (lower + first.toNat) - lower =
          min first.toNat (upper - lower) := by omega
      simp only [leading, cut, given, between]
      rw [List.take_take, least]

theorem length_eligible : (args.eligible items).length = upper - lower := by
  have most := upper_le high
  rw [eligible_eq low high, List.length_take, List.length_drop, List.length_zipIdx]
  omega

theorem length_leading : (args.leading items).length = (args.cut lower upper).stop - lower := by
  have most := args.stop_le (lower_le low) (upper_le high)
  rw [leading_eq low high, List.length_take, List.length_drop, List.length_zipIdx]
  omega

theorem kept_eq :
    args.kept items = (items.zipIdx.drop (args.cut lower upper).start).take
      ((args.cut lower upper).stop - (args.cut lower upper).start) := by
  have front := leading_eq low high
  have count := length_leading low high
  have ordered := args.lower_le_stop lower upper
  cases given : args.last with
  | none =>
      have same : (args.cut lower upper).start = lower := by simp only [cut, given]
      simp only [kept, given, same, front]
  | some last =>
      have start : (args.cut lower upper).start =
          max lower ((args.cut lower upper).stop - last.toNat) := by simp only [cut, given]
      -- What is dropped of the leading entries comes on top of those before them.
      have skipped : lower + ((args.cut lower upper).stop - lower - last.toNat) =
          (args.cut lower upper).start := by omega
      have shown : (args.cut lower upper).stop - lower -
          ((args.cut lower upper).stop - lower - last.toNat) =
            (args.cut lower upper).stop - (args.cut lower upper).start := by omega
      simp only [kept, given]
      rw [count, front, List.drop_take, List.drop_drop, skipped, shown]

theorem length_kept :
    (args.kept items).length = (args.cut lower upper).stop - (args.cut lower upper).start := by
  have most := args.stop_le (lower_le low) (upper_le high)
  rw [kept_eq low high, List.length_take, List.length_drop, List.length_zipIdx]
  omega

end PageArgs

namespace Connection

variable {args : PageArgs} {items : List α} {lower upper : Nat}

theorem slices_ofWindow (low : args.lower items.length = .ok lower)
    (high : args.upper items.length = .ok upper) (fits : items.length < UInt64.size) :
    (ofWindow items (args.cut lower upper)).Slices items args where
  edges := by
    rw [PageArgs.kept_eq low high, ofWindow]
    apply List.forall₂_map_left_iff.mpr
    apply List.forall₂_same.mpr
    intro entry member
    have listed := List.mem_of_mem_drop (List.mem_of_mem_take member)
    have within := List.snd_lt_of_mem_zipIdx listed
    have small : entry.2 < UInt64.size := by omega
    exact ⟨rfl, .ofNat entry.2, Cursor.decode_encode small, UInt64.toNat_ofNat_of_lt' small⟩
  hasNextPage := by
    have first := args.lower_le_stop lower upper
    have last := args.stop_le_upper lower upper
    rw [PageArgs.length_leading low high, PageArgs.length_eligible low high]
    change (args.first.isSome && decide ((args.cut lower upper).stop < max upper lower)) = true ↔ _
    rw [Bool.and_eq_true, decide_eq_true_eq]
    exact and_congr_right fun _ => by omega
  hasPreviousPage := by
    have first := args.lower_le_start lower upper
    have last := args.start_le_stop lower upper
    rw [PageArgs.length_kept low high, PageArgs.length_leading low high]
    change (args.last.isSome && decide (lower < (args.cut lower upper).start)) = true ↔ _
    rw [Bool.and_eq_true, decide_eq_true_eq]
    exact and_congr_right fun _ => by omega
  startCursor := rfl
  endCursor := rfl
  totalCount := rfl

/-- Every page with readable cursors is the slice asked for, whatever the counts, and the bounds it
is cut by are those counted in words, of which none passes another. -/
theorem ofList_slices (items : List α) {args : PageArgs} (readable : args.Readable)
    (fits : items.length < UInt64.size) :
    ∃ words page, args.windowWords (.ofNat items.length) = .ok words ∧
      words.start ≤ words.stop ∧ words.stop.toNat ≤ items.length ∧
      args.window items.length = .ok words.span ∧
      ofList items args = .ok page ∧ page.Slices items args := by
  have size : (UInt64.ofNat items.length).toNat = items.length := UInt64.toNat_ofNat_of_lt' fits
  rcases readable.lower items.length with ⟨lower, small, low⟩
  rcases readable.upper items.length with ⟨upper, less, high⟩
  have window := PageArgs.window_eq low high
  have counted := args.window_words (.ofNat items.length)
  rw [size, window] at counted
  rcases map_eq_ok_iff.mp counted.symm with ⟨words, asked, same⟩
  have ordered := args.start_le_stop_of_asked asked
  have stop : words.stop.toNat = words.span.stop := by
    rw [WordWindow.span, UInt64.toNat_sub_of_le _ _ ordered,
      Nat.add_sub_cancel' (UInt64.le_iff_toNat_le.mp ordered)]
  have reaches : words.stop.toNat ≤ items.length := by
    rw [stop, same]
    exact args.stop_le small less
  have shown : (ofWindow items (args.cut lower upper)).Slices items args :=
    slices_ofWindow low high fits
  exact ⟨words, _, asked, ordered, reaches, same ▸ window, ofList_eq_ok window, shown⟩

/-- `before` lies ahead of `after`, which lies beyond the end, and the counts are the extremes. -/
theorem ofList_slices_crossed :
    let crossed : PageArgs :=
      { first := some (.ofNat (UInt64.size - 1)), last := some 0
        after := some (Cursor.encode (UInt64.size - 1)), before := some (Cursor.encode 1) }
    ["a", "b", "c"].length < UInt64.size ∧ crossed.Readable ∧
      ∃ words page, crossed.windowWords (.ofNat ["a", "b", "c"].length) = .ok words ∧
        words.start ≤ words.stop ∧ words.stop.toNat ≤ ["a", "b", "c"].length ∧
        crossed.window ["a", "b", "c"].length = .ok words.span ∧
        ofList ["a", "b", "c"] crossed = .ok page ∧ page.Slices ["a", "b", "c"] crossed := by
  intro crossed
  have fits : ["a", "b", "c"].length < UInt64.size := by decide
  have readable : crossed.Readable := by
    constructor
    · intro cursor given
      cases given
      exact ⟨_, Cursor.decode_encode (by decide)⟩
    · intro cursor given
      cases given
      exact ⟨_, Cursor.decode_encode (by decide)⟩
  exact ⟨fits, readable, ofList_slices ["a", "b", "c"] readable fits⟩

end Connection

end Storefront
