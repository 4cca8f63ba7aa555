import Termbase.Proofs.Scanning

namespace Termbase.Json

/-- Parts that come after another one. -/
def furtherChars (parts : List (List Char)) : List Char := parts.flatMap fun part => ',' :: part

theorem furtherChars_cons {part : List Char} {parts : List (List Char)} :
    furtherChars (part :: parts) = ',' :: (part ++ furtherChars parts) := rfl

theorem commaJoined_cons {part : List Char} {parts : List (List Char)} :
    commaJoined (part :: parts) = part ++ furtherChars parts := by
  induction parts generalizing part with
  | nil => exact (List.append_nil part).symm
  | cons other parts ih =>
    rw [commaJoined, ih, furtherChars_cons]
    exact List.cons_ne_nil _ _

theorem length_le_furtherChars {parts : List (List Char)} :
    parts.length ≤ (furtherChars parts).length := by
  induction parts with
  | nil => exact Nat.le_refl _
  | cons part parts ih =>
    rw [furtherChars_cons, List.length_cons, List.length_cons, List.length_append]
    omega

/-- The bound that the readers put on the number of parts is out of reach. -/
theorem length_lt_container {β : Type} {xs : List β} {chars : β → List Char}
    {opening closing : Char} {rest : List Char} :
    xs.length < (opening :: (commaJoined (xs.map chars) ++ closing :: rest)).length := by
  rw [List.length_cons, List.length_append, List.length_cons]
  cases xs with
  | nil => exact Nat.zero_lt_succ _
  | cons x xs =>
    have further := @length_le_furtherChars (xs.map chars)
    rw [List.length_map] at further
    rw [List.map_cons, commaJoined_cons, List.length_append, List.length_cons]
    omega

theorem sequenceChars_append {parts : List (List Char)} {rest : List Char} :
    sequenceChars parts ++ rest = '[' :: (commaJoined parts ++ ']' :: rest) := by
  unfold sequenceChars
  rw [List.cons_append, List.append_assoc]
  rfl

theorem delimits_furtherChars {parts : List (List Char)} {closing : Char} {rest : List Char}
    (closes : closing = ']' ∨ closing = '\x7d') :
    Delimits (furtherChars parts ++ closing :: rest) := by
  intro c hc
  cases parts with
  | nil =>
    cases hc
    exact Or.inr closes
  | cons part parts =>
    cases hc
    exact Or.inl rfl

/-- Text that starts like an item of an array: neither with a blank nor with the array's end. -/
def StartsItem (chars : List Char) : Prop :=
  ∃ c cs, chars = c :: cs ∧ isBlank c = false ∧ c ≠ ']'

theorem startsItem_textChars {s : String} : StartsItem (textChars s) :=
  ⟨'"', _, rfl, rfl, by decide⟩

theorem startsItem_integerChars {n : Int} : StartsItem (Number.integerChars n) := by
  obtain ⟨c, cs, hchars, visible, numeric⟩ := exists_integerChars_eq_cons n
  refine ⟨c, cs, hchars, visible, ?_⟩
  rintro rfl
  rcases numeric with dash | digit
  · cases dash
  · cases digit

section Items

variable {σ : Type} {item : σ → Reader σ} {fuel : Nat} {state : σ}

theorem foldItems_end {isFirst : Bool} {rest : List Char} :
    foldItems item (fuel + 1) isFirst state (']' :: rest) = .ok (state, rest) := rfl

theorem foldItems_first {chars tail : List Char} {next : σ} (starts : StartsItem chars)
    (reads : Reads (item state) chars next) (delimits : Delimits tail) :
    foldItems item (fuel + 1) true state (chars ++ tail) = foldItems item fuel false next tail := by
  obtain ⟨c, cs, rfl, visible, inside⟩ := starts
  have taken := reads tail delimits
  rw [List.cons_append] at taken ⊢
  rw [foldItems, skipBlanks_cons visible]
  simp only [inside, taken, if_false, if_true]

theorem foldItems_further {chars tail : List Char} {next : σ} (starts : StartsItem chars)
    (reads : Reads (item state) chars next) (delimits : Delimits tail) :
    foldItems item (fuel + 1) false state (',' :: (chars ++ tail)) =
      foldItems item fuel false next tail := by
  obtain ⟨c, cs, rfl, visible, inside⟩ := starts
  have taken := reads tail delimits
  rw [List.cons_append] at taken ⊢
  rw [foldItems, skipBlanks_cons rfl]
  simp only [skipBlanks_cons visible, inside, taken, if_false]
  rfl

variable {β : Type} {chars : β → List Char} {step : σ → β → σ} {xs : List β} {rest : List Char}

theorem foldItems_furtherChars (starts : ∀ x ∈ xs, StartsItem (chars x))
    (reads : ∀ x ∈ xs, ∀ state, Reads (item state) (chars x) (step state x))
    (enough : xs.length < fuel) :
    foldItems item fuel false state (furtherChars (xs.map chars) ++ ']' :: rest) =
      .ok (xs.foldl step state, rest) := by
  -- Each item takes one unit of fuel, and the last one is for the closing bracket.
  induction xs generalizing fuel state with
  | nil =>
    obtain ⟨fuel, rfl⟩ := Nat.exists_eq_succ_of_ne_zero (Nat.ne_of_gt enough)
    exact foldItems_end
  | cons x xs ih =>
    obtain ⟨fuel, rfl⟩ := Nat.exists_eq_succ_of_ne_zero (Nat.ne_of_gt (Nat.zero_lt_of_lt enough))
    obtain ⟨start, starts⟩ := List.forall_mem_cons.mp starts
    obtain ⟨read, reads⟩ := List.forall_mem_cons.mp reads
    rw [List.map_cons, furtherChars_cons, List.cons_append, List.append_assoc,
      foldItems_further start (read state) (delimits_furtherChars (Or.inl rfl))]
    exact ih starts reads (Nat.lt_of_succ_lt_succ enough)

theorem foldItems_commaJoined (starts : ∀ x ∈ xs, StartsItem (chars x))
    (reads : ∀ x ∈ xs, ∀ state, Reads (item state) (chars x) (step state x))
    (enough : xs.length < fuel) :
    foldItems item fuel true state (commaJoined (xs.map chars) ++ ']' :: rest) =
      .ok (xs.foldl step state, rest) := by
  obtain ⟨fuel, rfl⟩ := Nat.exists_eq_succ_of_ne_zero (Nat.ne_of_gt (Nat.zero_lt_of_lt enough))
  cases xs with
  | nil => exact foldItems_end
  | cons x xs =>
    obtain ⟨start, starts⟩ := List.forall_mem_cons.mp starts
    obtain ⟨read, reads⟩ := List.forall_mem_cons.mp reads
    rw [List.map_cons, commaJoined_cons, List.append_assoc,
      foldItems_first start (read state) (delimits_furtherChars (Or.inl rfl))]
    exact foldItems_furtherChars starts reads (Nat.lt_of_succ_lt_succ enough)

/-- An array whose items are read one by one is read. -/
theorem readItems_sequenceChars {expected : String} {empty : σ}
    (starts : ∀ x ∈ xs, StartsItem (chars x))
    (reads : ∀ x ∈ xs, ∀ state, Reads (item state) (chars x) (step state x)) :
    Reads (readItems expected empty item) (sequenceChars (xs.map chars)) (xs.foldl step empty) := by
  intro rest _
  unfold readItems
  rw [sequenceChars_append, skipBlanks_cons rfl]
  exact foldItems_commaJoined starts reads length_lt_container

end Items

section Lists

variable {α : Type} {chars : α → List Char} {xs : List α}

/-- The readers of lists put each item before the earlier ones. -/
theorem readItems_reverse {expected : String} {reader : Reader α}
    (starts : ∀ x ∈ xs, StartsItem (chars x)) (reads : ∀ x ∈ xs, Reads reader (chars x) x) :
    Reads (readItems expected [] fun (items : List α) s =>
      (reader s).map fun r => (r.1 :: items, r.2)) (sequenceChars (xs.map chars)) xs.reverse := by
  have reversed : xs.foldl (fun items x => x :: items) [] = xs.reverse := by
    rw [List.foldl_flip_cons_eq_append', List.append_nil]
  rw [← reversed]
  refine readItems_sequenceChars starts fun x hx items rest delimits => ?_
  rw [reads x hx rest delimits]
  rfl

theorem readList_sequenceChars {reader : Reader α} (starts : ∀ x ∈ xs, StartsItem (chars x))
    (reads : ∀ x ∈ xs, Reads reader (chars x) x) :
    Reads (readList reader) (sequenceChars (xs.map chars)) xs := by
  intro rest delimits
  unfold readList
  rw [readItems_reverse starts reads rest delimits, Except.map, List.reverse_reverse]

/-- An array is read as a list is, one level deeper. -/
theorem readValue_bracket {depth : Nat} {rest : List Char} :
    readValue (depth + 1) ('[' :: rest) =
      (readItems "a sequence" [] (fun (items : List Value) s =>
        (readValue depth s).map fun r => (r.1 :: items, r.2)) ('[' :: rest)).map
          fun r => (.sequence r.1.reverse, r.2) := by
  rw [readValue]
  rfl

theorem readValue_sequenceChars {depth : Nat} {chars : Value → List Char} {items : List Value}
    (starts : ∀ item ∈ items, StartsItem (chars item))
    (reads : ∀ item ∈ items, Reads (readValue depth) (chars item) item) :
    Reads (readValue (depth + 1)) (sequenceChars (items.map chars)) (.sequence items) := by
  intro rest delimits
  rw [sequenceChars_append, readValue_bracket, ← sequenceChars_append,
    readItems_reverse starts reads rest delimits, Except.map, List.reverse_reverse]

end Lists

section Members

variable {σ : Type} {member : σ → Reader σ} {fuel : Nat} {state : σ}

theorem readColon_cons {rest : List Char} : readColon (':' :: rest) = .ok rest := rfl

/-- A member of an object after the opening quote of its name. -/
def memberChars (name : String) (value : List Char) : List Char :=
  name.toList.flatMap escapedChar ++ '"' :: ':' :: value

theorem foldMembers_end {isFirst : Bool} {rest : List Char} :
    foldMembers member (fuel + 1) isFirst state ('\x7d' :: rest) = .ok (state, rest) := rfl

theorem foldMembers_first {chars tail : List Char} {next : σ}
    (reads : Reads (member state) chars next) (delimits : Delimits tail) :
    foldMembers member (fuel + 1) true state ('"' :: (chars ++ tail)) =
      foldMembers member fuel false next tail := by
  rw [foldMembers, skipBlanks_cons rfl]
  simp only [reads tail delimits]
  rfl

theorem foldMembers_further {chars tail : List Char} {next : σ}
    (reads : Reads (member state) chars next) (delimits : Delimits tail) :
    foldMembers member (fuel + 1) false state (',' :: '"' :: (chars ++ tail)) =
      foldMembers member fuel false next tail := by
  rw [foldMembers, skipBlanks_cons rfl]
  simp only [skipBlanks_cons (c := '"') rfl, reads tail delimits]
  rfl

variable {β : Type} {name : β → String} {chars : β → List Char} {step : σ → β → σ} {xs : List β}
  {rest : List Char}

theorem textChars_member {name : String} {value : List Char} :
    textChars name ++ ':' :: value = '"' :: memberChars name value := textChars_append

theorem mapChars_append :
    mapChars (xs.map fun x => (name x, chars x)) ++ rest =
      '\x7b' :: (commaJoined (xs.map fun x => '"' :: memberChars (name x) (chars x)) ++
        '\x7d' :: rest) := by
  unfold mapChars
  rw [List.map_map, List.cons_append, List.append_assoc]
  simp only [Function.comp_def, textChars_member]
  rfl

theorem foldMembers_furtherChars
    (reads : ∀ x ∈ xs, ∀ state, Reads (member state) (chars x) (step state x))
    (enough : xs.length < fuel) :
    foldMembers member fuel false state
        (furtherChars (xs.map fun x => '"' :: chars x) ++ '\x7d' :: rest) =
      .ok (xs.foldl step state, rest) := by
  induction xs generalizing fuel state with
  | nil =>
    obtain ⟨fuel, rfl⟩ := Nat.exists_eq_succ_of_ne_zero (Nat.ne_of_gt enough)
    exact foldMembers_end
  | cons x xs ih =>
    obtain ⟨fuel, rfl⟩ := Nat.exists_eq_succ_of_ne_zero (Nat.ne_of_gt (Nat.zero_lt_of_lt enough))
    obtain ⟨read, reads⟩ := List.forall_mem_cons.mp reads
    rw [List.map_cons, furtherChars_cons, List.cons_append, List.cons_append, List.cons_append,
      List.append_assoc, foldMembers_further (read state) (delimits_furtherChars (Or.inr rfl))]
    exact ih reads (Nat.lt_of_succ_lt_succ enough)

theorem foldMembers_commaJoined
    (reads : ∀ x ∈ xs, ∀ state, Reads (member state) (chars x) (step state x))
    (enough : xs.length < fuel) :
    foldMembers member fuel true state
        (commaJoined (xs.map fun x => '"' :: chars x) ++ '\x7d' :: rest) =
      .ok (xs.foldl step state, rest) := by
  obtain ⟨fuel, rfl⟩ := Nat.exists_eq_succ_of_ne_zero (Nat.ne_of_gt (Nat.zero_lt_of_lt enough))
  cases xs with
  | nil => exact foldMembers_end
  | cons x xs =>
    obtain ⟨read, reads⟩ := List.forall_mem_cons.mp reads
    rw [List.map_cons, commaJoined_cons, List.cons_append, List.cons_append, List.append_assoc,
      foldMembers_first (read state) (delimits_furtherChars (Or.inr rfl))]
    exact foldMembers_furtherChars reads (Nat.lt_of_succ_lt_succ enough)

/-- An object whose members are read one by one is read. -/
theorem readMembers_mapChars {expected : String} {empty : σ}
    (reads : ∀ x ∈ xs, ∀ state,
      Reads (member state) (memberChars (name x) (chars x)) (step state x)) :
    Reads (readMembers expected empty member) (mapChars (xs.map fun x => (name x, chars x)))
      (xs.foldl step empty) := by
  intro rest _
  unfold readMembers
  rw [mapChars_append, skipBlanks_cons rfl]
  exact foldMembers_commaJoined reads length_lt_container

end Members

namespace Value

theorem compactChars_sequence {items : List Value} :
    (sequence items).compactChars = sequenceChars (items.map compactChars) := by
  rw [compactChars]
  exact congrArg sequenceChars List.attach_map_val

theorem compactChars_map {members : List (String × Value)} :
    (map members).compactChars = mapChars (members.map fun m => (m.1, m.2.compactChars)) := by
  rw [compactChars]
  exact congrArg mapChars
    (List.attach_map_val (f := fun m : String × Value => (m.1, m.2.compactChars)))

theorem compactChars_text {s : String} : (text s).compactChars = textChars s := by
  rw [compactChars]

theorem compactChars_integer {n : Int} : (integer n).compactChars = Number.integerChars n := by
  unfold integer Number.integerChars
  rw [compactChars]
  split <;> rfl

end Value

end Termbase.Json
