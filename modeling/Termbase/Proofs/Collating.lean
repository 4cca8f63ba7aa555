import Mathlib.Tactic.SplitIfs
import Termbase.Proofs.Truncating

namespace Termbase.Text

theorem cons_ofNat_lt_iff {m n : Nat} {back others : List UInt8} (hm : m < 256) (hn : n < 256) :
    UInt8.ofNat m :: back < UInt8.ofNat n :: others ↔ m < n ∨ m = n ∧ back < others := by
  rw [List.cons_lt_cons_iff, UInt8.ofNat_lt_iff_lt hm hn, ← UInt8.toNat_inj,
    UInt8.toNat_ofNat', UInt8.toNat_ofNat', Nat.mod_eq_of_lt hm, Nat.mod_eq_of_lt hn]

/-- The lower of two numbers has the lower digit where their digits to the base 64 differ first. -/
theorem digits_lt_of_lt {m n : Nat} (h : m < n) :
    m / 262144 < n / 262144 ∨ m / 262144 = n / 262144 ∧
      (m / 4096 % 64 < n / 4096 % 64 ∨ m / 4096 % 64 = n / 4096 % 64 ∧
        (m / 64 % 64 < n / 64 % 64 ∨ m / 64 % 64 = n / 64 % 64 ∧ m % 64 < n % 64)) := by
  omega

/-- The bytes of a character come before those of a higher one, whatever stands behind them. -/
theorem utf8EncodeChar_append_lt {c d : Char} (h : c < d) (back others : List UInt8) :
    String.utf8EncodeChar c ++ back < String.utf8EncodeChar d ++ others := by
  have lower : c.val.toNat < d.val.toNat := h
  have small : d.val.toNat < 0x110000 := d.valid.elim (fun h => by omega) fun h => by omega
  have digits := digits_lt_of_lt lower
  dsimp only [String.utf8EncodeChar]
  -- A longer form starts with a higher byte. Forms of one length hold the digits of the numbers.
  split_ifs
  all_goals
    simp (disch := omega) only [List.cons_append, List.nil_append, cons_ofNat_lt_iff]
    rcases digits with first | ⟨_, second | ⟨_, third | ⟨_, last⟩⟩⟩ <;> omega

theorem encoded_lt_of_lt {cs ds : List Char} (h : cs < ds) : encoded cs < encoded ds := by
  induction h with
  | nil =>
    obtain ⟨first, others, bytes, _⟩ := utf8EncodeChar_cons _
    unfold encoded
    rw [List.flatMap_cons, bytes]
    exact List.Lex.nil
  | rel lower => exact utf8EncodeChar_append_lt lower _ _
  | cons _ ih => exact List.append_left_lt ih

/-- Texts are in the order of their bytes. -/
theorem utf8Bytes_lt_iff {s t : String} : utf8Bytes s < utf8Bytes t ↔ s < t := by
  have forward : ∀ {s t : String}, s < t → utf8Bytes s < utf8Bytes t := by
    intro s t h
    rw [utf8Bytes_eq, utf8Bytes_eq]
    exact encoded_lt_of_lt h
  refine ⟨fun bytes => Decidable.by_contra fun notBefore => ?_, forward⟩
  by_cases after : t < s
  · exact List.lt_asymm bytes (forward after)
  · have same := String.le_antisymm (String.not_lt.mp after) (String.not_lt.mp notBefore)
    rw [same] at bytes
    exact List.lt_irrefl _ bytes

end Termbase.Text
