import Mathlib.Data.List.Basic
import Termbase.Number.Digits

namespace Termbase.Number

theorem digit?_eq (c : Char) :
    digit? c = if c.isDigit then some (c.toNat - '0'.toNat) else none := by
  unfold digit?
  simp only [Char.isDigit_iff_toNat, Char.le_def, UInt32.le_iff_toNat_le]
  rfl

theorem digitChar_of_isDigit {c : Char} (h : c.isDigit = true) :
    Nat.digitChar (c.toNat - '0'.toNat) = c := by
  obtain ⟨low, high⟩ := Char.isDigit_iff_toNat.mp h
  have hzero : '0'.toNat = 48 := rfl
  have hnine : '9'.toNat = 57 := rfl
  refine Char.toNat_inj.mp ?_
  rw [Nat.toNat_digitChar_of_lt_ten (by omega)]
  omega

theorem lt_ten_of_isDigit {c : Char} (h : c.isDigit = true) : c.toNat - '0'.toNat < 10 := by
  have high := (Char.isDigit_iff_toNat.mp h).2
  have hzero : '0'.toNat = 48 := rfl
  have hnine : '9'.toNat = 57 := rfl
  omega

/-- Only digits are read, and they are read as their decimal value. -/
theorem appendDigits_eq_some_iff {cs : List Char} {start n : Nat} :
    appendDigits start cs = some n ↔
      (∀ c ∈ cs, c.isDigit = true) ∧ Nat.ofDigitChars 10 cs start = n := by
  induction cs generalizing start with
  | nil => simp [appendDigits, Nat.ofDigitChars_nil]
  | cons c cs ih =>
    unfold appendDigits
    rw [digit?_eq, List.forall_mem_cons, Nat.ofDigitChars_cons, Nat.mul_comm 10 start]
    by_cases digit : c.isDigit = true
    · rw [if_pos digit]
      simp only [ih, digit, true_and]
    · rw [if_neg digit]
      exact iff_of_false nofun fun h => digit h.1.1

theorem ofDigits?_eq_some_iff {cs : List Char} {n : Nat} :
    ofDigits? cs = some n ↔
      cs ≠ [] ∧ (∀ c ∈ cs, c.isDigit = true) ∧ Nat.ofDigitChars 10 cs 0 = n := by
  unfold ofDigits?
  cases cs with
  | nil => exact iff_of_false nofun fun h => h.1 rfl
  | cons c cs => simp only [appendDigits_eq_some_iff, ne_eq, reduceCtorEq, not_false_iff, true_and]

theorem le_ofDigitChars {ds : List Char} {start : Nat} : start ≤ Nat.ofDigitChars 10 ds start := by
  induction ds generalizing start with
  | nil => exact Nat.le_refl _
  | cons c ds ih =>
    rw [Nat.ofDigitChars_cons]
    exact Nat.le_trans (by omega) ih

/-- Digits that follow a positive number are the last digits of the number that they make. -/
theorem digits_ofDigitChars_of_pos {cs : List Char} (digits : ∀ c ∈ cs, c.isDigit = true)
    {start : Nat} (positive : 0 < start) :
    Number.digits (Nat.ofDigitChars 10 cs start) = Number.digits start ++ cs := by
  induction cs generalizing start with
  | nil => rw [Nat.ofDigitChars_nil, List.append_nil]
  | cons c cs ih =>
    obtain ⟨first, rest⟩ := List.forall_mem_cons.mp digits
    have small := lt_ten_of_isDigit first
    have last : Number.digits (10 * start + (c.toNat - '0'.toNat)) = Number.digits start ++ [c] := by
      unfold Number.digits
      rw [← Nat.toDigits_append_toDigits (by decide) positive small,
        Nat.toDigits_of_lt_base small, digitChar_of_isDigit first]
    rw [Nat.ofDigitChars_cons, ih rest (by omega), last, List.append_assoc]
    rfl

/-- Digits that do not start with a zero are the digits of their value. -/
theorem digits_ofDigitChars {cs : List Char} (some_digits : cs ≠ [])
    (digits : ∀ c ∈ cs, c.isDigit = true) (first : cs.head? ≠ some '0') :
    Number.digits (Nat.ofDigitChars 10 cs 0) = cs := by
  cases cs with
  | nil => exact absurd rfl some_digits
  | cons c cs =>
    obtain ⟨digit, rest⟩ := List.forall_mem_cons.mp digits
    have low := (Char.isDigit_iff_toNat.mp digit).1
    have nonzero : c.toNat ≠ '0'.toNat := fun h => first (congrArg some (Char.toNat_inj.mp h))
    rw [Nat.ofDigitChars_cons, digits_ofDigitChars_of_pos rest (by omega)]
    unfold Number.digits
    rw [Nat.mul_zero, Nat.zero_add, Nat.toDigits_of_lt_base (lt_ten_of_isDigit digit),
      digitChar_of_isDigit digit]
    rfl

theorem digits_ne_nil (n : Nat) : Number.digits n ≠ [] := Nat.toDigits_ne_nil

theorem isDigit_of_mem_digits {n : Nat} {c : Char} (h : c ∈ Number.digits n) : c.isDigit = true :=
  Nat.isDigit_of_mem_toDigits (by decide) (by decide) h

theorem exists_digits_eq_cons (n : Nat) :
    ∃ c cs, Number.digits n = c :: cs ∧ c.isDigit = true := by
  obtain ⟨c, cs, h⟩ := List.exists_cons_of_ne_nil (digits_ne_nil n)
  exact ⟨c, cs, h, isDigit_of_mem_digits (h ▸ List.mem_cons_self)⟩

/-- Only zero is written with a zero at the start. -/
theorem head?_digits_of_pos {n : Nat} (positive : 0 < n) :
    (Number.digits n).head? ≠ some '0' := by
  induction n using Nat.strongRecOn with
  | ind n ih =>
    unfold Number.digits
    rw [Nat.toDigits_eq_if (by decide)]
    split
    next small =>
      intro zero
      have : n = 0 := Nat.digitChar_eq_zero.mp (Option.some.inj zero)
      omega
    next large =>
      have shorter := ih (n / 10) (by omega) (by omega)
      rwa [List.head?_append_of_ne_nil _ Nat.toDigits_ne_nil]

theorem ofDigitChars_digits (n : Nat) : Nat.ofDigitChars 10 (Number.digits n) 0 = n :=
  Nat.ofDigitChars_ten_toDigits

end Termbase.Number
