import Termbase.Ascending

namespace Termbase

section Ordered

variable {α : Type} [LT α] [DecidableLT α] [DecidableEq α]

theorem mem_insertAscending {x y : α} {ys : List α} :
    x ∈ insertAscending y ys ↔ x = y ∨ x ∈ ys := by
  induction ys with
  | nil => simp [insertAscending]
  | cons z zs ih =>
    unfold insertAscending
    split
    next => exact List.mem_cons
    next =>
      split
      next same => subst z; simp
      next =>
        rw [List.mem_cons, List.mem_cons, ih]
        exact ⟨fun h => h.elim (fun h => .inr (.inl h)) (fun h => h.imp_right .inr),
          fun h => h.elim (fun h => .inr (.inl h)) (fun h => h.imp_right .inr)⟩

theorem mem_ascending {x : α} {xs : List α} : x ∈ ascending xs ↔ x ∈ xs := by
  induction xs with
  | nil => simp [ascending]
  | cons y ys ih =>
    have step : ascending (y :: ys) = insertAscending y (ascending ys) := rfl
    rw [step, mem_insertAscending, ih, List.mem_cons]

theorem insertAscending_pairwise {y : α} {ys : List α}
    (trans : ∀ a b c : α, a < b → b < c → a < c) (total : ∀ a b : α, ¬a < b → a ≠ b → b < a)
    (h : ys.Pairwise (· < ·)) : (insertAscending y ys).Pairwise (· < ·) := by
  induction ys with
  | nil => simp [insertAscending]
  | cons z zs ih =>
    obtain ⟨above, rest⟩ := List.pairwise_cons.mp h
    unfold insertAscending
    split
    next before =>
      refine List.pairwise_cons.mpr ⟨fun x hx => ?_, h⟩
      rcases List.mem_cons.mp hx with rfl | hx
      · exact before
      · exact trans _ _ _ before (above x hx)
    next notBefore =>
      split
      next => exact h
      next other =>
        refine List.pairwise_cons.mpr ⟨fun x hx => ?_, ih rest⟩
        rcases mem_insertAscending.mp hx with rfl | hx
        · exact total _ _ notBefore other
        · exact above x hx

theorem ascending_pairwise (trans : ∀ a b c : α, a < b → b < c → a < c)
    (total : ∀ a b : α, ¬a < b → a ≠ b → b < a) (xs : List α) :
    (ascending xs).Pairwise (· < ·) := by
  induction xs with
  | nil => exact List.Pairwise.nil
  | cons x xs ih => exact insertAscending_pairwise trans total ih

end Ordered

section Keyed

variable {κ α : Type} [DecidableEq κ]

theorem lookup_cons_eq {key : κ} {entry : κ × α} {entries : List (κ × α)} :
    (entry :: entries).lookup key =
      if key = entry.1 then some entry.2 else entries.lookup key := by
  rw [List.lookup_cons]
  by_cases same : key = entry.1
  · simp [same]
  · rw [beq_false_of_ne same, if_neg same]

theorem mem_of_lookup {key : κ} {value : α} {entries : List (κ × α)}
    (h : entries.lookup key = some value) : (key, value) ∈ entries := by
  obtain ⟨before, after, split, _⟩ := List.lookup_eq_some_iff.mp h
  rw [split]
  simp

theorem lookup_exists {key : κ} {entries : List (κ × α)} (h : key ∈ entries.map Prod.fst) :
    ∃ value, entries.lookup key = some value := by
  obtain ⟨entry, hentry, rfl⟩ := List.mem_map.mp h
  cases hl : entries.lookup entry.1 with
  | some value => exact ⟨value, rfl⟩
  | none =>
    have hne := List.lookup_eq_none_iff.mp hl entry hentry
    simp at hne

theorem key_mem_of_lookup {key : κ} {value : α} {entries : List (κ × α)}
    (h : entries.lookup key = some value) : key ∈ entries.map Prod.fst :=
  List.mem_map.mpr ⟨(key, value), mem_of_lookup h, rfl⟩

theorem lookup_of_mem {key : κ} {value : α} {entries : List (κ × α)}
    (h : (key, value) ∈ entries) (single : ∀ other, (key, other) ∈ entries → other = value) :
    entries.lookup key = some value := by
  obtain ⟨found, hfound⟩ := lookup_exists (List.mem_map.mpr ⟨(key, value), h, rfl⟩)
  rw [hfound, single found (mem_of_lookup hfound)]

omit [DecidableEq κ] in
theorem single_of_nodup_keys {entries : List (κ × α)} (h : (entries.map Prod.fst).Nodup)
    {key : κ} {a b : α} (ha : (key, a) ∈ entries) (hb : (key, b) ∈ entries) : a = b := by
  induction entries with
  | nil => simp at ha
  | cons entry entries ih =>
    obtain ⟨fresh, rest⟩ := List.nodup_cons.mp (List.map_cons ▸ h)
    rcases List.mem_cons.mp ha with ea | ha
    · rcases List.mem_cons.mp hb with eb | hb
      · have he := ea.trans eb.symm
        exact (Prod.mk.inj he).2
      · exact absurd (List.mem_map.mpr ⟨(key, b), hb, by rw [← ea]⟩) fresh
    · rcases List.mem_cons.mp hb with eb | hb
      · exact absurd (List.mem_map.mpr ⟨(key, a), ha, by rw [← eb]⟩) fresh
      · exact ih rest ha hb

theorem lookup_eq_some_iff_mem {entries : List (κ × α)} (h : (entries.map Prod.fst).Nodup)
    {key : κ} {value : α} : entries.lookup key = some value ↔ (key, value) ∈ entries :=
  ⟨mem_of_lookup, fun hm => lookup_of_mem hm fun _ ho => single_of_nodup_keys h ho hm⟩

theorem lookup_append_of_some {key : κ} {value : α} {front back : List (κ × α)}
    (h : front.lookup key = some value) : (front ++ back).lookup key = some value := by
  rw [List.lookup_append, h]
  rfl

theorem lookup_append_of_none {key : κ} {front back : List (κ × α)}
    (h : front.lookup key = none) : (front ++ back).lookup key = back.lookup key := by
  rw [List.lookup_append, h]
  rfl

theorem mem_firstPerKey {entry : κ × α} {entries : List (κ × α)}
    (h : entry ∈ firstPerKey entries) : entry ∈ entries := by
  induction entries with
  | nil => simp [firstPerKey] at h
  | cons first rest ih =>
    rcases List.mem_cons.mp h with rfl | h
    · exact List.mem_cons_self
    · exact List.mem_cons_of_mem _ (ih (List.mem_filter.mp h).1)

theorem firstPerKey_keys_nodup (entries : List (κ × α)) :
    ((firstPerKey entries).map Prod.fst).Nodup := by
  induction entries with
  | nil => simp [firstPerKey]
  | cons first rest ih =>
    refine List.nodup_cons.mpr ⟨fun hm => ?_, ih.sublist (List.filter_sublist.map _)⟩
    obtain ⟨entry, hentry, he⟩ := List.mem_map.mp hm
    have hne := (List.mem_filter.mp hentry).2
    simp [he] at hne

theorem mem_firstPerKey_keys {key : κ} {entries : List (κ × α)} :
    key ∈ (firstPerKey entries).map Prod.fst ↔ key ∈ entries.map Prod.fst := by
  induction entries with
  | nil => simp [firstPerKey]
  | cons first rest ih =>
    constructor
    · intro h
      obtain ⟨entry, hentry, rfl⟩ := List.mem_map.mp h
      exact List.mem_map.mpr ⟨entry, mem_firstPerKey hentry, rfl⟩
    · intro h
      by_cases same : key = first.1
      · exact List.mem_map.mpr ⟨first, List.mem_cons_self, same.symm⟩
      · have hrest : key ∈ rest.map Prod.fst := by
          rcases List.mem_cons.mp (List.map_cons ▸ h) with h | h
          · exact absurd h same
          · exact h
        obtain ⟨entry, hentry, he⟩ := List.mem_map.mp (ih.mpr hrest)
        refine List.mem_map.mpr ⟨entry, List.mem_cons_of_mem _ ?_, he⟩
        exact List.mem_filter.mpr ⟨hentry, by simpa [he] using same⟩

theorem mem_distinctOn {key : α → κ} (injective : ∀ a b, key a = key b → a = b) {x : α}
    {xs : List α} : x ∈ distinctOn key xs ↔ x ∈ xs := by
  constructor
  · intro h
    obtain ⟨entry, hentry, rfl⟩ := List.mem_map.mp h
    obtain ⟨y, hy, rfl⟩ := List.mem_map.mp (mem_firstPerKey hentry)
    exact hy
  · intro h
    have hkey : key x ∈ (firstPerKey (xs.map fun y => (key y, y))).map Prod.fst := by
      rw [mem_firstPerKey_keys, List.map_map]
      exact List.mem_map.mpr ⟨x, h, rfl⟩
    obtain ⟨entry, hentry, he⟩ := List.mem_map.mp hkey
    obtain ⟨y, _, rfl⟩ := List.mem_map.mp (mem_firstPerKey hentry)
    exact List.mem_map.mpr ⟨(key y, y), hentry, injective _ _ he⟩

theorem distinctOn_nodup (key : α → κ) (xs : List α) : (distinctOn key xs).Nodup := by
  have hkeys := List.pairwise_map.mp (firstPerKey_keys_nodup (xs.map fun y => (key y, y)))
  refine List.pairwise_map.mpr (hkeys.imp_of_mem fun {a b} ha hb hne same => hne ?_)
  obtain ⟨x, _, rfl⟩ := List.mem_map.mp (mem_firstPerKey ha)
  obtain ⟨y, _, rfl⟩ := List.mem_map.mp (mem_firstPerKey hb)
  exact congrArg key same

theorem mem_assign {key : κ} {value : α} {entry : κ × α} {entries : List (κ × α)}
    (h : entry ∈ assign key value entries) : entry = (key, value) ∨ entry ∈ entries := by
  induction entries with
  | nil => exact Or.inl (List.mem_singleton.mp h)
  | cons first rest ih =>
    unfold assign at h
    split at h
    next => exact (List.mem_cons.mp h).imp_right (List.mem_cons_of_mem _)
    next =>
      rcases List.mem_cons.mp h with rfl | h
      · exact Or.inr List.mem_cons_self
      · exact (ih h).imp_right (List.mem_cons_of_mem _)

theorem lookup_assign {key other : κ} {value : α} {entries : List (κ × α)} :
    (assign key value entries).lookup other =
      if other = key then some value else entries.lookup other := by
  induction entries with
  | nil => exact lookup_cons_eq
  | cons entry entries ih =>
    unfold assign
    split
    next same =>
      rw [lookup_cons_eq, lookup_cons_eq, same]
      split <;> rfl
    next different =>
      rw [lookup_cons_eq, lookup_cons_eq, ih]
      by_cases same : other = entry.1
      · rw [if_pos same, if_neg (same ▸ different), if_pos same]
      · rw [if_neg same, if_neg same]

theorem lookup_filter_ne {key other : κ} {entries : List (κ × α)} :
    (entries.filter fun entry => entry.1 ≠ key).lookup other =
      if other = key then none else entries.lookup other := by
  induction entries with
  | nil => simp
  | cons entry entries ih =>
    rw [List.filter_cons, lookup_cons_eq]
    by_cases erased : entry.1 = key
    · rw [if_neg (by simp [erased]), ih, erased]
      split <;> rfl
    · rw [if_pos (by simp [erased]), lookup_cons_eq, ih]
      by_cases same : other = entry.1
      · rw [if_pos same, if_neg (same ▸ erased), if_pos same]
      · rw [if_neg same, if_neg same]

theorem mem_assign_keys {key k : κ} {value : α} {entries : List (κ × α)} :
    k ∈ (assign key value entries).map Prod.fst ↔ k = key ∨ k ∈ entries.map Prod.fst := by
  refine ⟨assign_keys_subset, fun h => ?_⟩
  induction entries with
  | nil => simpa [assign] using h
  | cons first rest ih =>
    unfold assign
    split
    next same => simpa [same] using h
    next =>
      simp only [List.map_cons, List.mem_cons] at h ⊢
      rcases h with h | h | h
      · exact Or.inr (ih (Or.inl h))
      · exact Or.inl h
      · exact Or.inr (ih (Or.inr h))

end Keyed

end Termbase
