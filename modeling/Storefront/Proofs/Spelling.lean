import Storefront.Proofs.Written
/-!
Which texts are read as bytes, and as other texts. Base64 is read in its written form only, with
its padding and without stray bits, so bytes have one text each and a text stands for one other at
most. A text is cut at the first mark in one way, and a lead is taken off where it stands.
-/

namespace Storefront

section Steps

variable {ε α β : Type}

theorem bind_eq_ok_iff {first : Except ε α} {next : α → Except ε β} {value : β} :
    (first >>= next) = .ok value ↔ ∃ middle, first = .ok middle ∧ next middle = .ok value := by
  cases first with
  | error fault => simp [bind, Except.bind]
  | ok middle => simp [bind, Except.bind]

theorem bind_eq_error_iff {first : Except ε α} {next : α → Except ε β} {fault : ε} :
    (first >>= next) = .error fault ↔
      first = .error fault ∨ ∃ middle, first = .ok middle ∧ next middle = .error fault := by
  cases first with
  | error other => simp [bind, Except.bind]
  | ok middle => simp [bind, Except.bind]

theorem mapError_eq_ok_iff {result : Except ε α} {change : ε → β} {value : α} :
    result.mapError change = .ok value ↔ result = .ok value := by
  cases result <;> simp [Except.mapError]

theorem mapError_eq_error_iff {result : Except ε α} {change : ε → β} {fault : β} :
    result.mapError change = .error fault ↔
      ∃ first, result = .error first ∧ change first = fault := by
  cases result <;> simp [Except.mapError]

theorem map_eq_ok_iff {result : Except ε α} {change : α → β} {value : β} :
    result.map change = .ok value ↔ ∃ first, result = .ok first ∧ change first = value := by
  cases result <;> simp [Except.map]

theorem map_eq_error_iff {result : Except ε α} {change : α → β} {fault : ε} :
    result.map change = .error fault ↔ result = .error fault := by
  cases result <;> simp [Except.map]

theorem toOption_eq_some_iff {result : Except ε α} {value : α} :
    result.toOption = some value ↔ result = .ok value := by
  cases result <;> simp [Except.toOption]

theorem forM_eq_error_iff {action : α → Except ε PUnit} {items : List α} {fault : ε} :
    items.forM action = .error fault ↔ ∃ before item after, items = before ++ item :: after ∧
      (∀ other ∈ before, action other = .ok ()) ∧ action item = .error fault := by
  induction items with
  | nil => simp [pure, Except.pure]
  | cons item rest ih =>
      have stepped : (item :: rest).forM action = (action item >>= fun _ => rest.forM action) := rfl
      rw [stepped, bind_eq_error_iff, ih]
      constructor
      · rintro (here | ⟨_, passed, before, other, after, rfl, all, there⟩)
        · exact ⟨[], item, rest, rfl, by simp, here⟩
        · exact ⟨item :: before, other, after, rfl, List.forall_mem_cons.mpr ⟨passed, all⟩, there⟩
      · rintro ⟨before, other, after, same, all, there⟩
        cases before with
        | nil =>
            cases same
            exact .inl there
        | cons first before =>
            cases same
            obtain ⟨passed, all⟩ := List.forall_mem_cons.mp all
            exact .inr ⟨(), passed, before, other, after, rfl, all, there⟩

end Steps

namespace Text

theorem ofUtf8?_eq_some_iff {bytes : List UInt8} {text : String} :
    ofUtf8? bytes = some text ↔ bytes = utf8 text := by
  constructor
  · intro read
    simp only [ofUtf8?, String.fromUTF8?] at read
    split at read
    · cases read
      simp [utf8, String.fromUTF8]
    · cases read
  · rintro rfl
    exact ofUtf8?_utf8 text

namespace Base64

theorem symbol_of_value {byte : UInt8} {value : Nat} (known : value? byte = some value) :
    value < 64 ∧ symbol value = byte := by
  have all : ∀ code < 256, (value? (UInt8.ofNat code)).all
      fun value => value < 64 ∧ symbol value = UInt8.ofNat code := by decide +kernel
  have own := all byte.toNat byte.toNat_lt
  rw [UInt8.ofNat_toNat, known] at own
  simpa using own

theorem valueAt_eq_ok {offset value : Nat} {byte : UInt8}
    (read : valueAt offset byte = .ok value) : value < 64 ∧ symbol value = byte := by
  cases known : value? byte with
  | none => simp [valueAt, known] at read
  | some found =>
      simp only [valueAt, known, Except.ok.injEq] at read
      subst read
      exact symbol_of_value known

/-- The last group is symbols and then padding, and behind padding comes no symbol. -/
theorem tailValues_eq_ok {start place : Nat} {padded : Option Nat} {group : List UInt8}
    {values : List Nat} (read : tailValues start place padded group = .ok values) :
    (∀ value ∈ values, value < 64) ∧ (padded.isSome = true → values = []) ∧
      ∃ padding, group = values.map symbol ++ List.replicate padding pad := by
  induction group generalizing place padded values with
  | nil =>
      cases read
      exact ⟨by simp, fun _ => rfl, 0, rfl⟩
  | cons byte rest ih =>
      by_cases isPad : byte = pad
      · by_cases early : place < 2
        · simp [tailValues, isPad, early] at read
        · simp only [tailValues, if_pos isPad, if_neg early] at read
          obtain ⟨-, none, padding, rfl⟩ := ih read
          obtain rfl := none (by cases padded <;> rfl)
          exact ⟨by simp, fun _ => rfl, padding + 1, by simp [isPad, List.replicate_succ]⟩
      · cases padded with
        | some first => simp [tailValues, isPad] at read
        | none =>
            simp only [tailValues, if_neg isPad, bind_eq_ok_iff] at read
            obtain ⟨value, first, later, others, same⟩ := read
            cases same
            obtain ⟨small, named⟩ := valueAt_eq_ok first
            obtain ⟨all, -, padding, rfl⟩ := ih others
            exact ⟨List.forall_mem_cons.mpr ⟨small, all⟩, by simp, padding, by simp [named]⟩

section Groups

variable {v w x y : Nat}

theorem toNat_ofNat {number : Nat} (small : number < 256) : (UInt8.ofNat number).toNat = number :=
  UInt8.toNat_ofNat_of_lt' small

theorem encode_one (first : v < 64) (second : w < 64) (spare : w % 16 = 0) :
    encode [UInt8.ofNat (v * 4 + w / 16)] = [symbol v, symbol w, pad, pad] := by
  have one : (v * 4 + w / 16) / 4 = v := by omega
  have two : (v * 4 + w / 16) % 4 * 16 = w := by omega
  rw [encode, toNat_ofNat (by omega), one, two]

theorem encode_two (first : v < 64) (second : w < 64) (third : x < 64) (spare : x % 4 = 0) :
    encode [UInt8.ofNat (v * 4 + w / 16), UInt8.ofNat (w % 16 * 16 + x / 4)] =
      [symbol v, symbol w, symbol x, pad] := by
  have one : (v * 4 + w / 16) / 4 = v := by omega
  have two : (v * 4 + w / 16) % 4 * 16 + (w % 16 * 16 + x / 4) / 16 = w := by omega
  have three : (w % 16 * 16 + x / 4) % 16 * 4 = x := by omega
  rw [encode, toNat_ofNat (by omega), toNat_ofNat (by omega), one, two, three]

theorem encode_three (first : v < 64) (second : w < 64) (third : x < 64) (fourth : y < 64)
    (rest : List UInt8) :
    encode (UInt8.ofNat (v * 4 + w / 16) :: UInt8.ofNat (w % 16 * 16 + x / 4) ::
        UInt8.ofNat (x % 4 * 64 + y) :: rest) =
      symbol v :: symbol w :: symbol x :: symbol y :: encode rest := by
  have one : (v * 4 + w / 16) / 4 = v := by omega
  have two : (v * 4 + w / 16) % 4 * 16 + (w % 16 * 16 + x / 4) / 16 = w := by omega
  have three : (w % 16 * 16 + x / 4) % 16 * 4 + (x % 4 * 64 + y) / 64 = x := by omega
  have four : (x % 4 * 64 + y) % 64 = y := by omega
  rw [encode, toNat_ofNat (by omega), toNat_ofNat (by omega), toNat_ofNat (by omega), one, two,
    three, four]

end Groups

theorem eq_encode_of_decodeTail {start : Nat} {group bytes : List UInt8} (short : group.length ≤ 4)
    (read : decodeTail start group = .ok bytes) : group = encode bytes := by
  obtain ⟨values, known, read⟩ := bind_eq_ok_iff.mp read
  obtain ⟨small, -, padding, rfl⟩ := tailValues_eq_ok known
  simp only [List.length_append, List.length_map, List.length_replicate] at read short
  -- How many values there are decides how much padding has to follow.
  split at read
  · rename_i v w
    simp only [List.forall_mem_cons, List.length_cons, List.length_nil] at small read short
    split_ifs at read with whole spare
    cases read
    obtain rfl : padding = 2 := by omega
    rw [encode_one small.1 small.2.1 (by omega)]
    rfl
  · rename_i v w x
    simp only [List.forall_mem_cons, List.length_cons, List.length_nil] at small read short
    split_ifs at read with whole spare
    cases read
    obtain rfl : padding = 1 := by omega
    rw [encode_two small.1 small.2.1 small.2.2.1 (by omega)]
    rfl
  · rename_i v w x y
    simp only [List.forall_mem_cons, List.length_cons, List.length_nil] at small short
    cases read
    obtain rfl : padding = 0 := by omega
    rw [encode_three small.1 small.2.1 small.2.2.1 small.2.2.2.1]
    rfl
  · cases read

theorem eq_encode_of_decodeGroups {start : Nat} {text bytes : List UInt8}
    (read : decodeGroups start text = .ok bytes) : text = encode bytes := by
  induction start, text using decodeGroups.induct generalizing bytes with
  | case1 start =>
      cases read
      rfl
  | case2 start a b c d e rest ih =>
      simp only [decodeGroups, bind_eq_ok_iff] at read
      obtain ⟨v, first, w, second, x, third, y, fourth, later, others, same⟩ := read
      cases same
      obtain ⟨smallV, rfl⟩ := valueAt_eq_ok first
      obtain ⟨smallW, rfl⟩ := valueAt_eq_ok second
      obtain ⟨smallX, rfl⟩ := valueAt_eq_ok third
      obtain ⟨smallY, rfl⟩ := valueAt_eq_ok fourth
      rw [encode_three smallV smallW smallX smallY, ← ih others]
  | case3 start group some few =>
      rcases group with _ | ⟨a, _ | ⟨b, _ | ⟨c, _ | ⟨d, _ | ⟨e, rest⟩⟩⟩⟩⟩
      · exact absurd rfl some
      · exact eq_encode_of_decodeTail (by simp) read
      · exact eq_encode_of_decodeTail (by simp) read
      · exact eq_encode_of_decodeTail (by simp) read
      · exact eq_encode_of_decodeTail (by simp) read
      · exact absurd rfl (few a b c d e rest)

/-- Bytes have one written form, and nothing else is read. -/
theorem decode_eq_ok_iff {text bytes : List UInt8} :
    decode text = .ok bytes ↔ text = encode bytes := by
  constructor
  · intro read
    unfold decode at read
    split at read
    · cases read
    · exact eq_encode_of_decodeGroups read
  · rintro rfl
    exact decode_encode bytes

theorem plain_iff {text plain : String} :
    (∃ bytes', bytes text = .ok bytes' ∧ ofUtf8? bytes' = some plain) ↔ text = ofText plain := by
  constructor
  · rintro ⟨read, decoded, known⟩
    obtain rfl := ofUtf8?_eq_some_iff.mp known
    apply utf8_injective
    rw [ofText, utf8_ofList_ascii (encode_ascii (utf8 plain))]
    exact decode_eq_ok_iff.mp decoded
  · rintro rfl
    exact ⟨utf8 plain, bytes_ofText plain, ofUtf8?_utf8 plain⟩

end Base64

section Cutting

theorem cutFirst_eq_some_iff {mark : Char} {text before rest : List Char} :
    cutFirst mark text = some (before, rest) ↔
      text = before ++ mark :: rest ∧ mark ∉ before := by
  constructor
  · intro cut
    induction text generalizing before with
    | nil => cases cut
    | cons char text ih =>
        by_cases here : char = mark
        · simp only [cutFirst, if_pos here, Option.some.injEq, Prod.mk.injEq] at cut
          obtain ⟨rfl, rfl⟩ := cut
          simp [here]
        · simp only [cutFirst, if_neg here, Option.map_eq_some_iff, Prod.mk.injEq] at cut
          obtain ⟨⟨first, last⟩, later, rfl, rfl⟩ := cut
          obtain ⟨rfl, absent⟩ := ih later
          exact ⟨rfl, by simp [absent, Ne.symm here]⟩
  · rintro ⟨rfl, absent⟩
    exact cutFirst_append absent rest

theorem splitFirst_eq_some_iff {mark : Char} {text before rest : String} :
    splitFirst mark text = some (before, rest) ↔
      text = before ++ String.singleton mark ++ rest ∧ mark ∉ before.toList := by
  constructor
  · intro split
    simp only [splitFirst, Option.map_eq_some_iff, Prod.mk.injEq] at split
    obtain ⟨⟨first, last⟩, cut, rfl, rfl⟩ := split
    obtain ⟨whole, absent⟩ := cutFirst_eq_some_iff.mp cut
    refine ⟨String.toList_inj.mp ?_, by simpa using absent⟩
    simp [whole]
  · rintro ⟨rfl, absent⟩
    exact splitFirst_append absent rest

theorem cutLast_eq_none_iff {mark : Char} {text : List Char} :
    cutLast mark text = none ↔ mark ∉ text := by
  induction text with
  | nil => simp [cutLast]
  | cons char rest ih =>
      rw [cutLast, List.mem_cons, not_or, ← ih, eq_comm (a := mark)]
      cases cutLast mark rest <;> simp

theorem exists_last_cut {mark : Char} {text : List Char} (among : mark ∈ text) :
    ∃ before rest, text = before ++ mark :: rest ∧ mark ∉ rest := by
  obtain ⟨back, front, same, absent⟩ := List.eq_append_cons_of_mem (List.mem_reverse.mpr among)
  refine ⟨front.reverse, back.reverse, ?_, mt List.mem_reverse.mp absent⟩
  simpa using congrArg List.reverse same

theorem cutLast_append {mark : Char} {rest : List Char} (absent : mark ∉ rest)
    (before : List Char) : cutLast mark (before ++ mark :: rest) = some (before, rest) := by
  induction before with
  | nil => simp [cutLast, cutLast_eq_none_iff.mpr absent]
  | cons char before ih => rw [List.cons_append, cutLast, ih]

theorem cutLast_eq_some_iff {mark : Char} {text before rest : List Char} :
    cutLast mark text = some (before, rest) ↔
      text = before ++ mark :: rest ∧ mark ∉ rest := by
  constructor
  · intro cut
    have among : mark ∈ text := by
      by_contra absent
      rw [cutLast_eq_none_iff.mpr absent] at cut
      cases cut
    obtain ⟨front, back, rfl, absent⟩ := exists_last_cut among
    rw [cutLast_append absent] at cut
    cases cut
    exact ⟨rfl, absent⟩
  · rintro ⟨rfl, absent⟩
    exact cutLast_append absent before

theorem last_cut_unique {mark : Char} {before other rest tail : List Char}
    (absent : mark ∉ rest) (lacking : mark ∉ tail)
    (same : before ++ mark :: rest = other ++ mark :: tail) : before = other ∧ rest = tail := by
  have cut := congrArg (cutLast mark) same
  rw [cutLast_append absent, cutLast_append lacking, Option.some.injEq, Prod.mk.injEq] at cut
  exact cut

theorem stripLead_eq_some_iff {lead text rest : List Char} :
    stripLead? lead text = some rest ↔ text = lead ++ rest := by
  constructor
  · intro stripped
    induction lead generalizing text with
    | nil => exact Option.some.inj stripped
    | cons mark marks ih =>
        cases text with
        | nil => cases stripped
        | cons char text =>
            by_cases same : mark = char
            · rw [stripLead?, if_pos same] at stripped
              rw [ih stripped, same, List.cons_append]
            · rw [stripLead?, if_neg same] at stripped
              cases stripped
  · rintro rfl
    exact Cursor.stripLead_append lead rest

end Cutting

end Text

end Storefront
