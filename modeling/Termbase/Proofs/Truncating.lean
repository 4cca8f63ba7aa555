import Mathlib.Tactic.SplitIfs
import Termbase.Proofs.Encoding
import Termbase.Text.ByteLength

namespace Termbase.Text

/-- The byte goes on with a character that an earlier byte has started. -/
def Continues (byte : UInt8) : Prop := 0x80 ≤ byte ∧ byte ≤ 0xBF

instance (byte : UInt8) : Decidable (Continues byte) :=
  inferInstanceAs (Decidable (0x80 ≤ byte ∧ byte ≤ 0xBF))

/-- Bytes can be cut where a character starts and at their end, and nowhere behind it. -/
def isBoundary (bytes : List UInt8) (offset : Nat) : Bool :=
  match bytes[offset]? with
  | some byte => !decide (Continues byte)
  | none => offset = bytes.length

/-- Goes down from an offset to one where the bytes can be cut. There is none if this leads below
the start. -/
def boundaryFrom? (bytes : List UInt8) : Nat → Option Nat
  | 0 => if isBoundary bytes 0 then some 0 else none
  | offset + 1 =>
    if isBoundary bytes (offset + 1) then some (offset + 1) else boundaryFrom? bytes offset

/-- Cuts a text that is too long by a search over its bytes, from the limit down. There is no result
if the search fails or ends where the text cannot be cut. -/
def cut? (limit : Nat) (text : String) : Option String :=
  if text.utf8ByteSize ≤ limit then some text
  else (boundaryFrom? (utf8Bytes text) limit).bind fun offset =>
    String.fromUTF8? (text.toUTF8.extract 0 offset)

/-- The bytes of characters. -/
def encoded (cs : List Char) : List UInt8 := cs.flatMap String.utf8EncodeChar

theorem encoded_append (front back : List Char) :
    encoded (front ++ back) = encoded front ++ encoded back := List.flatMap_append

theorem length_encoded_cons (c : Char) (cs : List Char) :
    (encoded (c :: cs)).length = c.utf8Size + (encoded cs).length := by
  unfold encoded
  rw [List.flatMap_cons, List.length_append, String.length_utf8EncodeChar]

theorem utf8Bytes_eq (text : String) : utf8Bytes text = encoded text.toList := by
  obtain ⟨cs, rfl⟩ := text.exists_eq_ofList
  simp [utf8Bytes, encoded, List.utf8Encode]

theorem utf8ByteSize_eq (text : String) : text.utf8ByteSize = (encoded text.toList).length := by
  rw [← utf8Bytes_eq]
  simp [utf8Bytes]

theorem continues_ofNat (n : Nat) :
    Continues (UInt8.ofNat n) ↔ 128 ≤ n % 256 ∧ n % 256 ≤ 191 := by
  simp [Continues, UInt8.le_iff_toNat_le]

/-- The first byte of a character starts it, and the others go on with it. -/
theorem utf8EncodeChar_cons (c : Char) :
    ∃ first others, String.utf8EncodeChar c = first :: others ∧
      ¬Continues first ∧ ∀ byte ∈ others, Continues byte := by
  dsimp only [String.utf8EncodeChar]
  split_ifs
  all_goals
    refine ⟨_, _, rfl, ?_, ?_⟩
    · rw [continues_ofNat]
      omega
    · simp only [List.forall_mem_cons, List.not_mem_nil, false_imp_iff, implies_true, and_true,
        continues_ofNat] <;> omega

section Boundaries

variable {front back : List Char} {c : Char} {k : Nat}

theorem isBoundary_between :
    isBoundary (encoded (front ++ back)) (encoded front).length = true := by
  unfold isBoundary
  rw [encoded_append, List.getElem?_append_right (Nat.le_refl _), Nat.sub_self]
  cases back with
  | nil => simp [encoded]
  | cons c back =>
    obtain ⟨first, others, bytes, starts, _⟩ := utf8EncodeChar_cons c
    simp [encoded, bytes, starts]

theorem isBoundary_within (positive : 0 < k) (inside : k < c.utf8Size) :
    isBoundary (encoded (front ++ c :: back)) ((encoded front).length + k) = false := by
  obtain ⟨first, others, bytes, _, continues⟩ := utf8EncodeChar_cons c
  have length : others.length + 1 = c.utf8Size := by
    rw [← String.length_utf8EncodeChar, bytes, List.length_cons]
  obtain ⟨j, rfl⟩ := Nat.exists_eq_succ_of_ne_zero (Nat.ne_of_gt positive)
  have hj : j < others.length := by omega
  have byte : (encoded (front ++ c :: back))[(encoded front).length + (j + 1)]? =
      some others[j] := by
    have shift : (encoded front).length + (j + 1) - (encoded front).length = j + 1 := by omega
    rw [encoded_append, List.getElem?_append_right (Nat.le_add_right _ _), shift]
    unfold encoded
    rw [List.flatMap_cons, bytes, List.cons_append, List.getElem?_cons_succ,
      List.getElem?_append_left hj, List.getElem?_eq_getElem hj]
  unfold isBoundary
  rw [byte]
  simp [continues _ (List.getElem_mem hj)]

theorem boundaryFrom?_boundary {bytes : List UInt8} {offset : Nat}
    (boundary : isBoundary bytes offset = true) : boundaryFrom? bytes offset = some offset := by
  cases offset <;> simp [boundaryFrom?, boundary]

/-- From inside a character, the search goes down to the start of the character. -/
theorem boundaryFrom?_within (inside : k < c.utf8Size) :
    boundaryFrom? (encoded (front ++ c :: back)) ((encoded front).length + k) =
      some (encoded front).length := by
  induction k with
  | zero => exact boundaryFrom?_boundary isBoundary_between
  | succ k ih =>
    have further : isBoundary (encoded (front ++ c :: back)) ((encoded front).length + (k + 1)) =
        false := isBoundary_within (Nat.zero_lt_succ k) inside
    rw [← Nat.add_assoc, boundaryFrom?, Nat.add_assoc, further, if_neg Bool.false_ne_true]
    exact ih (Nat.lt_of_succ_lt inside)

end Boundaries

theorem fitting_cons (limit : Nat) (c : Char) (cs : List Char) :
    fitting limit (c :: cs) =
      if c.utf8Size ≤ limit then c :: fitting (limit - c.utf8Size) cs else [] := rfl

/-- Either all characters fit, or the first that is left out does not fit any more. -/
theorem fitting_cases (limit : Nat) (cs : List Char) :
    fitting limit cs = cs ∧ (encoded cs).length ≤ limit ∨
      ∃ c rest, cs = fitting limit cs ++ c :: rest ∧
        (encoded (fitting limit cs)).length ≤ limit ∧
        limit < (encoded (fitting limit cs)).length + c.utf8Size := by
  induction cs generalizing limit with
  | nil => exact Or.inl ⟨rfl, Nat.zero_le _⟩
  | cons c cs ih =>
    rw [fitting_cons]
    split
    next fits =>
      simp only [List.cons_append, List.cons.injEq, true_and, length_encoded_cons]
      rcases ih (limit - c.utf8Size) with ⟨all, small⟩ | ⟨d, rest, split, small, large⟩
      · exact Or.inl ⟨all, by omega⟩
      · exact Or.inr ⟨d, rest, split, by omega, by omega⟩
    next overflows =>
      have none_taken : (encoded []).length = 0 := rfl
      exact Or.inr ⟨c, cs, rfl, by omega, by omega⟩

theorem fitting_fitting (first second : Nat) (cs : List Char) :
    fitting second (fitting first cs) = fitting (min first second) cs := by
  induction cs generalizing first second with
  | nil => rfl
  | cons c cs ih =>
    have rest : min first second - c.utf8Size =
        min (first - c.utf8Size) (second - c.utf8Size) := by omega
    rw [fitting_cons, fitting_cons]
    by_cases fitsFirst : c.utf8Size ≤ first
    · rw [if_pos fitsFirst, fitting_cons]
      by_cases fitsSecond : c.utf8Size ≤ second
      · have fitsBoth : c.utf8Size ≤ min first second := by omega
        rw [if_pos fitsSecond, if_pos fitsBoth, ih, rest]
      · have overflows : ¬c.utf8Size ≤ min first second := by omega
        rw [if_neg fitsSecond, if_neg overflows]
    · have overflows : ¬c.utf8Size ≤ min first second := by omega
      rw [if_neg fitsFirst, if_neg overflows]
      rfl

theorem toList_takeBytes (limit : Nat) (text : String) :
    (takeBytes limit text).toList = fitting limit text.toList := String.toList_ofList

/-- The first bytes of a text are a text if they are those of its first characters. -/
theorem fromUTF8?_extract (front back : String) :
    String.fromUTF8? ((front ++ back).toUTF8.extract 0 front.utf8ByteSize) = some front := by
  have bytes : (front ++ back).toUTF8.extract 0 front.utf8ByteSize = front.toByteArray := by
    rw [String.toUTF8_eq_toByteArray, String.toByteArray_append]
    exact ByteArray.extract_append_eq_left rfl
  unfold String.fromUTF8?
  rw [bytes, dif_pos front.isValidUTF8]
  rfl

/-- A limit inside a character cuts the text before the character. -/
theorem cut?_within {front back : List Char} {c : Char} {limit : Nat}
    (low : (encoded front).length ≤ limit)
    (high : limit < (encoded front).length + c.utf8Size) :
    cut? limit (String.ofList (front ++ c :: back)) = some (String.ofList front) := by
  obtain ⟨k, rfl⟩ := Nat.exists_eq_add_of_le low
  have inside : k < c.utf8Size := by omega
  have long : ¬(String.ofList (front ++ c :: back)).utf8ByteSize ≤ (encoded front).length + k := by
    rw [utf8ByteSize_eq, String.toList_ofList, encoded_append, List.length_append,
      length_encoded_cons]
    omega
  have size : (encoded front).length = (String.ofList front).utf8ByteSize := by
    rw [utf8ByteSize_eq, String.toList_ofList]
  unfold cut?
  rw [if_neg long, utf8Bytes_eq, String.toList_ofList, boundaryFrom?_within inside,
    Option.bind_some, size, String.ofList_append]
  exact fromUTF8?_extract _ _

/-- The search over the bytes cuts the text behind the characters that fit. -/
theorem cut?_eq (limit : Nat) (text : String) : cut? limit text = some (takeBytes limit text) := by
  obtain ⟨cs, rfl⟩ := text.exists_eq_ofList
  unfold takeBytes
  rw [String.toList_ofList]
  rcases fitting_cases limit cs with ⟨all, small⟩ | ⟨c, rest, parts, low, high⟩
  · have fits : (String.ofList cs).utf8ByteSize ≤ limit := by
      rwa [utf8ByteSize_eq, String.toList_ofList]
    unfold cut?
    rw [if_pos fits, all]
  · have cut : cut? limit (String.ofList (fitting limit cs ++ c :: rest)) =
        some (String.ofList (fitting limit cs)) := cut?_within low high
    rwa [← parts] at cut

/-- The leading parts of what fits are the leading parts that fit. -/
theorem prefix_fitting_iff {limit : Nat} {part cs : List Char} :
    part <+: fitting limit cs ↔ part <+: cs ∧ (encoded part).length ≤ limit := by
  induction cs generalizing limit part with
  | nil =>
    have nothing : fitting limit [] = [] := rfl
    rw [nothing, List.prefix_nil]
    refine iff_self_and.mpr fun h => ?_
    rw [h]
    exact Nat.zero_le _
  | cons c cs ih =>
    cases part with
    | nil => exact iff_of_true List.nil_prefix ⟨List.nil_prefix, Nat.zero_le _⟩
    | cons d part =>
      rw [fitting_cons, List.cons_prefix_cons, length_encoded_cons]
      split
      next fits =>
        rw [List.cons_prefix_cons, ih, and_assoc]
        refine and_congr_right fun same => and_congr_right fun _ => ?_
        subst same
        omega
      next overflows =>
        rw [List.prefix_nil]
        refine iff_of_false (List.cons_ne_nil _ _) ?_
        rintro ⟨⟨rfl, _⟩, small⟩
        omega

/-- The longest leading part of a text that fits is what the search over the bytes cuts off. At most
three bytes are left unused when a text is cut, and cutting twice comes to cutting once at the lower
limit. -/
theorem takeBytes_exact (limit : Nat) (text : String) :
    cut? limit text = some (takeBytes limit text) ∧
    (takeBytes limit text).toList <+: text.toList ∧
    (takeBytes limit text).utf8ByteSize ≤ limit ∧
    (∀ part : String, part.toList <+: (takeBytes limit text).toList ↔
      part.toList <+: text.toList ∧ part.utf8ByteSize ≤ limit) ∧
    (takeBytes limit text = text ∨ limit ≤ (takeBytes limit text).utf8ByteSize + 3) ∧
    (∀ other, takeBytes other (takeBytes limit text) = takeBytes (min limit other) text) ∧
    kept (kept text) = kept text := by
  have parts : ∀ part : String, part.toList <+: (takeBytes limit text).toList ↔
      part.toList <+: text.toList ∧ part.utf8ByteSize ≤ limit := by
    intro part
    rw [toList_takeBytes, prefix_fitting_iff, utf8ByteSize_eq]
  have twice : ∀ first second, takeBytes second (takeBytes first text) =
      takeBytes (min first second) text := by
    intro first second
    unfold takeBytes
    rw [String.toList_ofList, fitting_fitting]
  obtain ⟨leading, fits⟩ := (parts (takeBytes limit text)).mp List.prefix_rfl
  refine ⟨cut?_eq limit text, leading, fits, parts, ?_, twice limit, ?_⟩
  · rw [utf8ByteSize_eq, toList_takeBytes]
    rcases fitting_cases limit text.toList with ⟨all, _⟩ | ⟨c, rest, _, _, large⟩
    · left
      unfold takeBytes
      rw [all, String.ofList_toList]
    · right
      have four := c.utf8Size_le_four
      omega
  · have once := twice keptBytes keptBytes
    rwa [Nat.min_self] at once

/-- The euro sign takes three bytes, of which two are over when it does not fit. -/
example : takeBytes 3 "a€b" = "a" := by decide +kernel

end Termbase.Text
