import Storefront.Proofs.Numerals
/-!
The format of global ids. A text is read as an id exactly if it is the base64 form of the name of
the kind, a colon and a numeral for the key, and every other text is refused as no global id. So an
id has as many texts as its key has numerals, and the one that is written has the canonical numeral.
-/

namespace Storefront

open Text

namespace EntityKind

theorem ofName?_eq_some_iff {name : String} {kind : EntityKind} :
    ofName? name = some kind ↔ name = kind.name := by
  constructor
  · intro found
    have named := List.find?_some found
    simpa using (of_decide_eq_true named).symm
  · rintro rfl
    exact ofName?_name kind

theorem read_eq_ok_iff {name : String} {kind : EntityKind} :
    read name = .ok kind ↔ name = kind.name := by
  rw [← ofName?_eq_some_iff, read]
  cases ofName? name <;> simp

theorem eq_of_read_eq_error {name : String} {fault : Storefront.Fault}
    (refused : read name = .error fault) : fault = .globalId ("unknown type " ++ name) := by
  rw [read] at refused
  cases known : ofName? name with
  | none =>
      rw [known] at refused
      cases refused
      rfl
  | some kind =>
      rw [known] at refused
      cases refused

end EntityKind

namespace GlobalId

/-- The text is the base64 form of the name of the kind, a colon and this numeral for the key. -/
structure Spells (id : GlobalId) (key text : String) : Prop where
  form : text = Base64.ofText (id.kind.name ++ ":" ++ key)
  key : Numeral.Denotes key.toList id.key.toInt

variable {text : String} {id : GlobalId}

theorem spells_of_decode (read : decode text = .ok id) : ∃ key, id.Spells key text := by
  obtain ⟨bytes, decoded, read⟩ := bind_eq_ok_iff.mp read
  cases known : ofUtf8? bytes with
  | none => simp [known, bind, Except.bind] at read
  | some plain =>
      simp only [known] at read
      cases cut : splitFirst ':' plain with
      | none => simp [cut, bind, Except.bind] at read
      | some parts =>
          obtain ⟨lead, key⟩ := parts
          simp only [cut, bind_eq_ok_iff, mapError_eq_ok_iff, Except.ok.injEq,
            exists_eq_left'] at read
          obtain ⟨number, numeral, kind, named, same⟩ := read
          cases same
          obtain rfl := EntityKind.read_eq_ok_iff.mp named
          obtain ⟨rfl, -⟩ := splitFirst_eq_some_iff.mp cut
          exact ⟨key, Base64.plain_iff.mp ⟨bytes, mapError_eq_ok_iff.mp decoded, known⟩,
            Numeral.readInt64_eq_ok_iff.mp numeral⟩

theorem Spells.decode {key : String} (spells : id.Spells key text) : decode text = .ok id := by
  have parts : splitFirst ':' (id.kind.name ++ ":" ++ key) = some (id.kind.name, key) :=
    splitFirst_append (colon_not_mem_name id.kind) key
  have named : EntityKind.read id.kind.name = .ok id.kind := EntityKind.read_eq_ok_iff.mpr rfl
  have numeral := Numeral.readInt64_eq_ok_iff.mpr spells.key
  rw [spells.form]
  simp only [GlobalId.decode, Base64.bytes_ofText, ofUtf8?_utf8, parts, numeral, named,
    Except.mapError, bind, Except.bind]
  rfl

theorem decode_eq_ok_iff : decode text = .ok id ↔ ∃ key, id.Spells key text :=
  ⟨spells_of_decode, fun ⟨_, spells⟩ => spells.decode⟩

theorem globalId_of_decode {fault : Storefront.Fault} (refused : decode text = .error fault) :
    ∃ reason, fault = .globalId reason := by
  rcases bind_eq_error_iff.mp refused with flawed | ⟨bytes, -, refused⟩
  · obtain ⟨flaw, -, rfl⟩ := mapError_eq_error_iff.mp flawed
    exact ⟨_, rfl⟩
  · cases known : ofUtf8? bytes with
    | none =>
        rw [known] at refused
        cases refused
        exact ⟨_, rfl⟩
    | some plain =>
        simp only [known, bind_eq_error_iff, Except.ok.injEq, exists_eq_left', reduceCtorEq,
          false_or] at refused
        cases cut : splitFirst ':' plain with
        | none =>
            rw [cut] at refused
            cases refused
            exact ⟨_, rfl⟩
        | some parts =>
            simp only [cut, bind_eq_error_iff, Except.ok.injEq, exists_eq_left', reduceCtorEq,
              false_or] at refused
            rcases refused with flawed | ⟨key, -, unnamed | ⟨kind, -, done⟩⟩
            · obtain ⟨flaw, -, rfl⟩ := mapError_eq_error_iff.mp flawed
              exact ⟨_, rfl⟩
            · exact ⟨_, EntityKind.eq_of_read_eq_error unnamed⟩
            · cases done

theorem encode_injective : Function.Injective encode := by
  intro left right same
  have read := decode_encode left
  rw [same, decode_encode] at read
  exact (Except.ok.inj read).symm

theorem Spells.encode_eq_iff {key : String} (spells : id.Spells key text) :
    id.encode = text ↔ Numeral.Canonical key.toList := by
  rw [← Numeral.toList_toString_eq_iff spells.key, spells.form]
  constructor
  · intro same
    have plain := Base64.ofText_injective same
    rw [GlobalId.plain, String.append_right_inj] at plain
    rw [plain]
  · intro same
    rw [encode, GlobalId.plain, String.toList_inj.mp same]

/-- Exactly the texts of the format are read as ids, everything else is refused as no id, what is
written is read back, and what was read is written again exactly if its numeral was canonical. -/
theorem decode_exact :
    (∀ text id, decode text = .ok id ↔ ∃ key, Spells id key text) ∧
    (∀ text, (∃ id, decode text = .ok id) ∨ ∃ reason, decode text = .error (.globalId reason)) ∧
    (∀ id, decode id.encode = .ok id) ∧ Function.Injective encode ∧
    ∀ id key text, Spells id key text →
      decode text = .ok id ∧ (id.encode = text ↔ Numeral.Canonical key.toList) := by
  refine ⟨fun text id => decode_eq_ok_iff, fun text => ?_, decode_encode, encode_injective, ?_⟩
  · cases read : decode text with
    | ok id => exact .inl ⟨id, rfl⟩
    | error fault =>
        obtain ⟨reason, rfl⟩ := globalId_of_decode read
        exact .inr ⟨reason, rfl⟩
  · intro id key text spells
    exact ⟨spells.decode, spells.encode_eq_iff⟩

theorem decode_exact_padded :
    decode (Base64.ofText "ProductVariant:+07") = .ok ⟨.variant, 7⟩ ∧
      (GlobalId.mk .variant 7).encode ≠ Base64.ofText "ProductVariant:+07" := by
  have digits : Numeral.Digits ['0', '7'] := ⟨by simp, by simp⟩
  have spells : Spells ⟨.variant, 7⟩ "+07" (Base64.ofText "ProductVariant:+07") :=
    { form := rfl
      key := .plus digits }
  obtain ⟨-, -, -, -, written⟩ := decode_exact
  obtain ⟨read, same⟩ := written ⟨.variant, 7⟩ "+07" _ spells
  refine ⟨read, fun written => ?_⟩
  cases same.mp written with
  | positive digits leading => exact Numeral.not_isDigit_plus (digits.all '+' List.mem_cons_self)

end GlobalId

end Storefront
