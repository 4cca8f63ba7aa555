import Termbase.Failure
import Termbase.Proofs.Containers

namespace Termbase

namespace Number

/-- The digits make the number; they may start with zeros. -/
structure Numeral (ds : List Char) (n : UInt32) : Prop where
  some_digits : ds ≠ []
  digits : ∀ c ∈ ds, c.isDigit = true
  value : Nat.ofDigitChars 10 ds 0 = n.toNat

theorem numeral_digits (n : UInt32) : Numeral (digits n.toNat) n where
  some_digits := digits_ne_nil _
  digits _ := isDigit_of_mem_digits
  value := ofDigitChars_digits _

theorem Numeral.digits_eq {ds : List Char} {n : UInt32} (numeral : Numeral ds n)
    (first : ds.head? ≠ some '0') : Number.digits n.toNat = ds := by
  rw [← numeral.value, digits_ofDigitChars numeral.some_digits numeral.digits first]

theorem Numeral.not_plus {ds : List Char} {n : UInt32} : ¬Numeral ('+' :: ds) n :=
  fun numeral => nomatch numeral.digits '+' List.mem_cons_self

/-- Of the numbers that digits make, those below the bound are the ones that fit. -/
theorem ofDigits?_fits_iff {ds : List Char} {n : UInt32} :
    ((ofDigits? ds).filter (· < twoTo 32)).map UInt32.ofNat = some n ↔ Numeral ds n := by
  have bound : twoTo 32 = 2 ^ 32 := by decide
  simp only [Option.map_eq_some_iff, Option.filter_eq_some_iff, ofDigits?_eq_some_iff,
    decide_eq_true_eq, bound]
  constructor
  · rintro ⟨value, ⟨⟨some_digits, digits, rfl⟩, small⟩, rfl⟩
    exact ⟨some_digits, digits, (UInt32.toNat_ofNat_of_lt small).symm⟩
  · rintro ⟨some_digits, digits, value⟩
    exact ⟨_, ⟨⟨some_digits, digits, value⟩, n.toNat_lt⟩, UInt32.ofNat_toNat⟩

end Number

namespace EntityId

/-- The text is the letter of the entity's kind, in either case, and then `rest`. -/
def Lettered (text : String) (kind : EntityKind) (rest : List Char) : Prop :=
  ∃ letter, text.toList = letter :: rest ∧ (letter = kind.letter ∨ letter = kind.letter.toLower)

/-- The letter of a kind and the digits of a number that do not start with a zero. -/
def Spelled (text : String) (entity : EntityId) : Prop :=
  ∃ ds, Lettered text entity.kind ds ∧ Number.Numeral ds entity.number ∧ ds.head? ≠ some '0'

/-- The letter of a kind, a plus sign and the digits of a number. -/
def SpelledWithSign (text : String) (entity : EntityId) : Prop :=
  ∃ ds, Lettered text entity.kind ('+' :: ds) ∧ Number.Numeral ds entity.number

theorem ofLetter?_eq_some_iff {c : Char} {kind : EntityKind} :
    EntityKind.ofLetter? c = some kind ↔ c = kind.letter ∨ c = kind.letter.toLower := by
  unfold EntityKind.ofLetter?
  constructor
  · intro h
    split_ifs at h with item property <;> cases h
    · exact item
    · exact property
  · cases kind with
    | item => exact fun item => if_pos item
    | property => rintro (rfl | rfl) <;> rfl

theorem numberOf?_eq_some_iff {cs : List Char} {n : UInt32} :
    numberOf? cs = some n ↔
      Number.Numeral cs n ∧ cs.head? ≠ some '0' ∨ ∃ ds, cs = '+' :: ds ∧ Number.Numeral ds n := by
  unfold numberOf? Number.unsigned?
  -- The zero is looked for before the sign is taken off, so a sign hides it.
  split
  next zero =>
    refine iff_of_false nofun ?_
    rintro (⟨_, nonzero⟩ | ⟨ds, rfl, _⟩)
    · exact nonzero zero
    · cases zero
  next nonzero =>
    rw [Number.ofDigits?_fits_iff]
    split
    next ds =>
      constructor
      · exact fun numeral => Or.inr ⟨ds, rfl, numeral⟩
      · rintro (⟨numeral, _⟩ | ⟨_, same, numeral⟩)
        · exact absurd numeral Number.Numeral.not_plus
        · cases same
          exact numeral
    next unsigned =>
      constructor
      · exact fun numeral => Or.inl ⟨numeral, nonzero⟩
      · rintro (⟨numeral, _⟩ | ⟨ds, rfl, _⟩)
        · exact numeral
        · exact absurd rfl (unsigned ds)

theorem ofText?_parts {text : String} {entity : EntityId} :
    ofText? text = some entity ↔
      ∃ rest, Lettered text entity.kind rest ∧ numberOf? rest = some entity.number := by
  unfold ofText? Lettered
  cases text.toList with
  | nil => exact iff_of_false nofun nofun
  | cons c rest =>
    dsimp only
    constructor
    · intro h
      split at h
      next kind number hkind hnumber =>
        cases h
        exact ⟨rest, ⟨c, rfl, ofLetter?_eq_some_iff.mp hkind⟩, hnumber⟩
      next => cases h
    · rintro ⟨_, ⟨_, same, letter⟩, hnumber⟩
      cases same
      rw [ofLetter?_eq_some_iff.mpr letter, hnumber]

/-- The texts that are read as an id. -/
theorem ofText?_eq_some_iff {text : String} {entity : EntityId} :
    ofText? text = some entity ↔ Spelled text entity ∨ SpelledWithSign text entity := by
  rw [ofText?_parts]
  simp only [numberOf?_eq_some_iff]
  constructor
  · rintro ⟨rest, lettered, ⟨numeral, first⟩ | ⟨ds, rfl, numeral⟩⟩
    · exact Or.inl ⟨rest, lettered, numeral, first⟩
    · exact Or.inr ⟨ds, lettered, numeral⟩
  · rintro (⟨rest, lettered, numeral, first⟩ | ⟨ds, lettered, numeral⟩)
    · exact ⟨rest, lettered, Or.inl ⟨numeral, first⟩⟩
    · exact ⟨_, lettered, Or.inr ⟨ds, rfl, numeral⟩⟩

theorem lettered_text (entity : EntityId) :
    Lettered entity.text entity.kind (Number.digits entity.number.toNat) :=
  ⟨_, String.toList_ofList, Or.inl rfl⟩

/-- The digits of a number that is not zero do not start with a zero. -/
theorem Lettered.spelled {text : String} {entity : EntityId}
    (lettered : Lettered text entity.kind (Number.digits entity.number.toNat))
    (nonzero : entity.number ≠ 0) : Spelled text entity := by
  have positive : 0 < entity.number.toNat :=
    Nat.pos_of_ne_zero fun zero => nonzero (UInt32.toNat_inj.mp zero)
  exact ⟨_, lettered, Number.numeral_digits _, Number.head?_digits_of_pos positive⟩

theorem ofText_eq_ok_iff {text : String} {entity : EntityId} :
    ofText text = .ok entity ↔ Spelled text entity ∨ SpelledWithSign text entity := by
  rw [← ofText?_eq_some_iff]
  unfold ofText
  cases ofText? text with
  | none => exact iff_of_false nofun nofun
  | some other => rw [Except.ok.injEq, Option.some.injEq]

theorem ofText_eq_error_iff {text : String} :
    ofText text = .error (.invalidEntityId text) ↔
      ∀ entity, ¬Spelled text entity ∧ ¬SpelledWithSign text entity := by
  simp only [← not_or, ← ofText_eq_ok_iff]
  unfold ofText
  cases ofText? text with
  | none => exact iff_of_true rfl nofun
  | some entity => exact iff_of_false nofun fun h => h entity rfl

/-- Zero is the one number whose written id is not read. -/
theorem ofText_text_iff {entity : EntityId} :
    ofText entity.text = .ok entity ↔ entity.number ≠ 0 := by
  constructor
  · rintro h zero
    obtain ⟨kind, number⟩ := entity
    cases zero
    cases kind <;> cases h
  · exact fun nonzero => ofText_eq_ok_iff.mpr (Or.inl ((lettered_text entity).spelled nonzero))

theorem Spelled.number_ne_zero {text : String} {entity : EntityId} (spelled : Spelled text entity) :
    entity.number ≠ 0 := by
  obtain ⟨ds, _, numeral, first⟩ := spelled
  intro zero
  rw [← numeral.digits_eq first, zero] at first
  exact first rfl

theorem toUpper_eq_letter {c : Char} {kind : EntityKind}
    (h : c = kind.letter ∨ c = kind.letter.toLower) : c.toUpper = kind.letter := by
  cases kind <;> rcases h with rfl | rfl <;> rfl

/-- An id that is read is written as its text with the letter in upper case. -/
theorem Spelled.text_eq {text : String} {entity : EntityId} (spelled : Spelled text entity) :
    entity.text.toList = text.toList.modifyHead Char.toUpper := by
  obtain ⟨ds, ⟨letter, htext, hletter⟩, numeral, first⟩ := spelled
  unfold EntityId.text
  rw [String.toList_ofList, numeral.digits_eq first, htext, List.modifyHead_cons,
    toUpper_eq_letter hletter]

/-- A JSON string is read as its text is, with the failure's message for a fault. -/
theorem ofJson_eq {json text : String}
    (read : Json.readAll (Json.readText "a string") json = .ok text) :
    ofJson json = (ofText text).mapError fun failure => .refused failure.message := by
  obtain ⟨rest, found, ended⟩ := Json.readAll_eq_ok_iff.mp read
  unfold ofJson Json.readAll
  simp only [bind, Except.bind, found]
  cases ofText text with
  | ok entity =>
    simp only [pure, Except.pure, ended]
    rfl
  | error failure => rfl

/-- After a plus sign even a zero is read. The id that it makes is written as a text that is not
read. -/
theorem signed_zero_read :
    ofText "Q+0" = .ok ⟨.item, 0⟩ ∧ (∀ entity, ¬Spelled "Q+0" entity) ∧
      ofText (text ⟨.item, 0⟩) = .error (.invalidEntityId "Q0") := by
  refine ⟨rfl, ?_, rfl⟩
  rintro entity ⟨_, ⟨_, same, _⟩, numeral, _⟩
  cases same
  exact numeral.not_plus

/-- The texts of ids are a letter and a number in digits, which start with a zero only after a plus
sign; any other text is refused and told. Without a sign, the id is written as its text with the
letter in upper case. The written ids are read again, but for those of zero. JSON strings are read
as their texts are. -/
theorem ofText_exact (text : String) :
    (∀ entity, ofText text = .ok entity ↔ Spelled text entity ∨ SpelledWithSign text entity) ∧
    (ofText text = .error (.invalidEntityId text) ↔
      ∀ entity, ¬Spelled text entity ∧ ¬SpelledWithSign text entity) ∧
    (∀ entity, Spelled text entity →
      entity.text.toList = text.toList.modifyHead Char.toUpper ∧
        ofText entity.text = .ok entity) ∧
    (∀ entity, ofText entity.text = .ok entity ↔ entity.number ≠ 0) ∧
    Json.readAll (Json.readText "a string") (Json.Value.text text).compact = .ok text ∧
    ∀ json, Json.readAll (Json.readText "a string") json = .ok text →
      ofJson json = (ofText text).mapError fun failure => .refused failure.message := by
  refine ⟨fun _ => ofText_eq_ok_iff, ofText_eq_error_iff, fun entity spelled => ?_,
    fun _ => ofText_text_iff, ?_, fun _ => ofJson_eq⟩
  · exact ⟨spelled.text_eq, ofText_text_iff.mpr spelled.number_ne_zero⟩
  · unfold Json.Value.compact
    rw [Json.Value.compactChars_text]
    exact Json.readAll_of_reads Json.readText_textChars

theorem ofText_exact_escaped :
    Spelled "q42" ⟨.item, 42⟩ ∧ ofText (text ⟨.item, 42⟩) = .ok ⟨.item, 42⟩ ∧
      Json.readAll (Json.readText "a string") "\"\\u007142\" " = .ok "q42" ∧
      ofJson "\"\\u007142\" " =
        (ofText "q42").mapError fun failure => .refused failure.message := by
  have spelled : Spelled "q42" ⟨.item, 42⟩ :=
    ⟨['4', '2'], ⟨'q', rfl, Or.inr rfl⟩, Number.numeral_digits 42, by decide⟩
  have read : Json.readAll (Json.readText "a string") "\"\\u007142\" " = .ok "q42" := by
    decide +kernel
  obtain ⟨_, _, written, _, _, alike⟩ := ofText_exact "q42"
  exact ⟨spelled, (written _ spelled).2, read, alike _ read⟩

end EntityId

end Termbase
