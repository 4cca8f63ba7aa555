import Mathlib.Data.List.Basic
import Mathlib.Tactic.SplitIfs
import Termbase.Json.Reader
import Termbase.Json.Writer
import Termbase.Proofs.Numerals

namespace Termbase.Json

section Texts

theorem scanText_letter {done rest : List Char} {letter c : Char} (notU : letter ≠ 'u')
    (short : shortEscape? letter = some c) :
    scanText done ('\\' :: letter :: rest) = scanText (c :: done) rest := by
  rw [scanText, short]
  · exact fun _ _ _ _ _ h => absurd h notU
  · exact notU

/-- The escape of a code point that is a character's stands for the character: no surrogate is
one. -/
theorem scanText_codePoint {done rest : List Char} {p q r s c : Char}
    (code : hexFour? p q r s = some c.toNat) :
    scanText done ('\\' :: 'u' :: p :: q :: r :: s :: rest) = scanText (c :: done) rest := by
  have scalar : c.toNat < 0xd800 ∨ 0xdfff < c.toNat := c.valid.imp_right And.left
  have notLow : isLowSurrogate c.toNat = false := by
    unfold isLowSurrogate
    rw [Bool.and_eq_false_iff, decide_eq_false_iff_not, decide_eq_false_iff_not]
    omega
  have notHigh : isHighSurrogate c.toNat = false := by
    unfold isHighSurrogate
    rw [Bool.and_eq_false_iff, decide_eq_false_iff_not, decide_eq_false_iff_not]
    omega
  rw [scanText, code]
  simp only [notLow, notHigh, Bool.false_eq_true, if_false, Char.ofNat_toNat]

theorem scanText_plain {done rest : List Char} {c : Char} (notQuote : c ≠ '"')
    (notBackslash : c ≠ '\\') (visible : ¬c.toNat < 32) :
    scanText done (c :: rest) = scanText (c :: done) rest := by
  rw [scanText, if_neg visible]
  · exact notQuote
  all_goals
    intros
    exact notBackslash ‹_›

theorem hexFour?_oneDigit : ∀ n < 16, hexFour? '0' '0' '0' (Nat.digitChar n) = some n := by decide

theorem hexFour?_twoDigits :
    ∀ n < 32, hexFour? '0' '0' (Nat.digitChar (n / 16)) (Nat.digitChar (n % 16)) = some n := by
  decide

theorem hexDigits_twoDigits : ∀ n < 32, ¬n < 16 →
    Number.hexDigits n = [Nat.digitChar (n / 16), Nat.digitChar (n % 16)] := by
  decide

theorem scanText_escapedChar {done rest : List Char} (c : Char) :
    scanText done (escapedChar c ++ rest) = scanText (c :: done) rest := by
  unfold escapedChar
  -- In the order of the writer's tests: seven letters, two lengths of a code point, all else.
  split_ifs with quote backslash backspace tab newline feed carriage oneDigit control
  · exact scanText_letter (by decide) (congrArg some quote.symm)
  · exact scanText_letter (by decide) (congrArg some backslash.symm)
  · exact scanText_letter (by decide) (congrArg some backspace.symm)
  · exact scanText_letter (by decide) (congrArg some tab.symm)
  · exact scanText_letter (by decide) (congrArg some newline.symm)
  · exact scanText_letter (by decide) (congrArg some feed.symm)
  · exact scanText_letter (by decide) (congrArg some carriage.symm)
  · rw [Number.hexDigits, Nat.toDigits_of_lt_base oneDigit]
    exact scanText_codePoint (hexFour?_oneDigit c.toNat oneDigit)
  · rw [hexDigits_twoDigits c.toNat control oneDigit]
    exact scanText_codePoint (hexFour?_twoDigits c.toNat control)
  · exact scanText_plain quote backslash control

/-- A written string is read up to its closing quote, whatever comes after that. -/
theorem scanText_escaped {done cs rest : List Char} :
    scanText done (cs.flatMap escapedChar ++ '"' :: rest) = .ok (done.reverse ++ cs, rest) := by
  induction cs generalizing done with
  | nil => rw [List.flatMap_nil, List.nil_append, scanText, List.append_nil]
  | cons c cs ih =>
    rw [List.flatMap_cons, List.append_assoc, scanText_escapedChar, ih, List.reverse_cons,
      List.append_assoc]
    rfl

end Texts

/-- Text that does not go on a value: none, or a comma or the end of a container. -/
def Delimits (rest : List Char) : Prop :=
  ∀ c ∈ rest.head?, c = ',' ∨ c = ']' ∨ c = '\x7d'

theorem delimits_nil : Delimits [] := nofun

section Integers

variable {rest : List Char}

theorem Delimits.digit?_eq_none {c : Char} (delimits : Delimits (c :: rest)) :
    Number.digit? c = none := by
  rcases delimits c rfl with rfl | rfl | rfl <;> rfl

theorem Delimits.needDigit_error (delimits : Delimits rest) :
    ∃ fault, needDigit rest = .error fault := by
  cases rest with
  | nil => exact ⟨_, rfl⟩
  | cons c rest =>
    refine ⟨.malformed, ?_⟩
    unfold needDigit
    simp only [delimits.digit?_eq_none]
    rfl

theorem scanWhole_digits {ds : List Char} (digits : ∀ c ∈ ds, c.isDigit = true)
    (delimits : Delimits rest) {value : Nat}
    (bounded : Nat.ofDigitChars 10 ds value < significandBound) :
    scanWhole value (ds ++ rest) = (⟨Nat.ofDigitChars 10 ds value, 0⟩, rest) := by
  induction ds generalizing value with
  | nil =>
    cases rest with
    | nil => rfl
    | cons c rest =>
      rw [List.nil_append, scanWhole, delimits.digit?_eq_none]
      rfl
  | cons c ds ih =>
    obtain ⟨digit, digits⟩ := List.forall_mem_cons.mp digits
    rw [Nat.ofDigitChars_cons, Nat.mul_comm] at bounded ⊢
    have small := Nat.lt_of_le_of_lt Number.le_ofDigitChars bounded
    rw [List.cons_append, scanWhole, Number.digit?_eq, if_pos digit]
    exact (if_pos small).trans (ih digits bounded)

theorem scanIntegral_digits {n : Nat} (bounded : n < significandBound)
    (delimits : Delimits rest) :
    scanIntegral (Number.digits n ++ rest) = .ok (⟨n, 0⟩, rest) := by
  by_cases zero : n = 0
  -- A leading zero ends the digits: the reader looks only whether another one follows.
  · obtain ⟨fault, stop⟩ := delimits.needDigit_error
    subst zero
    change scanIntegral ('0' :: rest) = _
    unfold scanIntegral
    simp only [stop]
  · have value := Number.ofDigitChars_digits n
    rw [scanIntegral]
    · rw [scanWhole_digits (fun c => Number.isDigit_of_mem_digits) delimits (by rwa [value]), value]
    · intro tail starts
      have first := congrArg List.head? starts
      rw [List.head?_append_of_ne_nil _ (Number.digits_ne_nil n)] at first
      exact Number.head?_digits_of_pos (Nat.pos_of_ne_zero zero) first

theorem scanFurther_delimited {isNegative : Bool} {whole : Significand}
    (delimits : Delimits rest) :
    scanFurther isNegative whole rest =
      (integerNumber isNegative whole).map fun number => (number, rest) := by
  cases rest with
  | nil => rfl
  | cons c rest => rcases delimits c rfl with rfl | rfl | rfl <;> rfl

theorem scanUnsigned_digits {isNegative : Bool} {n : Nat} (bounded : n < significandBound)
    (delimits : Delimits rest) :
    scanUnsigned isNegative (Number.digits n ++ rest) =
      (integerNumber isNegative ⟨n, 0⟩).map fun number => (number, rest) := by
  have starts : needDigit (Number.digits n ++ rest) = .ok () := by
    obtain ⟨c, cs, hdigits, digit⟩ := Number.exists_digits_eq_cons n
    rw [hdigits]
    simp only [List.cons_append, needDigit, Number.digit?_eq, if_pos digit]
    rfl
  unfold scanUnsigned
  rw [starts, scanIntegral_digits bounded delimits]
  exact scanFurther_delimited delimits

theorem twoTo_sixtyThree : Termbase.Number.twoTo 63 = 9223372036854775808 := rfl

theorem twoTo_sixtyFour : Termbase.Number.twoTo 64 = 18446744073709551616 := rfl

/-- The integers that have a number of their own are read back. -/
theorem scanNumber_integerChars {n : Int} (low : -Termbase.Number.twoTo 63 ≤ n)
    (high : n < Termbase.Number.twoTo 64) (delimits : Delimits rest) :
    scanNumber (Number.integerChars n ++ rest) =
      .ok (if n < 0 then .negative n.natAbs else .natural n.natAbs, rest) := by
  rw [twoTo_sixtyThree] at low
  have bounded : n.natAbs < significandBound := by
    rw [twoTo_sixtyFour] at high
    rw [significandBound, twoTo_sixtyFour]
    omega
  unfold Number.integerChars
  by_cases negative : n < 0
  · have held : integerNumber true ⟨n.natAbs, 0⟩ = .ok (.negative n.natAbs) := by
      have fits : ¬(n.natAbs = 0 ∨ Termbase.Number.twoTo 63 < n.natAbs) := by
        rw [twoTo_sixtyThree]
        omega
      unfold integerNumber
      rw [if_neg (not_not_intro rfl), if_neg (by decide)]
      exact if_neg fits
    rw [if_pos negative, if_pos negative, List.cons_append, scanNumber,
      scanUnsigned_digits bounded delimits, held]
    rfl
  · rw [if_neg negative, if_neg negative, scanNumber, scanUnsigned_digits bounded delimits]
    · rfl
    · intro tail starts
      obtain ⟨c, cs, hdigits, digit⟩ := Number.exists_digits_eq_cons n.natAbs
      rw [hdigits] at starts
      cases starts
      cases digit

end Integers

/-- The reader takes `chars` as a value wherever they stand, and nothing after them. -/
def Reads {α : Type} (reader : Reader α) (chars : List Char) (value : α) : Prop :=
  ∀ rest, Delimits rest → reader (chars ++ rest) = .ok (value, rest)

theorem readAll_eq_ok_iff {α : Type} {reader : Reader α} {text : String} {value : α} :
    readAll reader text = .ok value ↔
      ∃ rest, reader text.toList = .ok (value, rest) ∧ skipBlanks rest = [] := by
  unfold readAll
  split
  next fault hfault => exact iff_of_false nofun fun ⟨rest, h, _⟩ => nomatch hfault.symm.trans h
  next found rest hfound =>
    rw [hfound]
    split
    next ended =>
      constructor
      · intro h
        cases h
        exact ⟨rest, rfl, ended⟩
      · rintro ⟨_, same, _⟩
        cases same
        rfl
    next further =>
      refine iff_of_false nofun ?_
      rintro ⟨_, same, ended⟩
      cases same
      exact further ended

theorem readAll_of_reads {α : Type} {reader : Reader α} {chars : List Char} {value : α}
    (reads : Reads reader chars value) : readAll reader (String.ofList chars) = .ok value := by
  refine readAll_eq_ok_iff.mpr ⟨[], ?_, rfl⟩
  rw [String.toList_ofList, ← List.append_nil chars]
  exact reads [] delimits_nil

theorem skipBlanks_cons {c : Char} {rest : List Char} (visible : isBlank c = false) :
    skipBlanks (c :: rest) = c :: rest :=
  List.dropWhile_cons_of_neg (Bool.eq_false_iff.mp visible)

theorem textChars_append {s : String} {rest : List Char} :
    textChars s ++ rest = '"' :: (s.toList.flatMap escapedChar ++ '"' :: rest) := by
  unfold textChars
  rw [List.cons_append, List.cons_append, List.append_assoc]
  rfl

theorem scanText_text {s : String} {rest : List Char} :
    scanText [] (s.toList.flatMap escapedChar ++ '"' :: rest) = .ok (s.toList, rest) :=
  scanText_escaped

theorem readText_textChars {expected s : String} : Reads (readText expected) (textChars s) s := by
  intro rest _
  unfold readText
  rw [textChars_append, skipBlanks_cons rfl]
  simp only [scanText_text, Except.map, String.ofList_toList]

/-- A string is a value at every depth. -/
theorem readValue_textChars {depth : Nat} {s : String} :
    Reads (readValue depth) (textChars s) (.text s) := by
  intro rest _
  unfold readValue
  rw [textChars_append, skipBlanks_cons rfl]
  simp only [scanText_text, Except.map, String.ofList_toList]
  rfl

theorem isBlank_eq_false_of_isDigit {c : Char} (digit : c.isDigit = true) : isBlank c = false := by
  refine Bool.eq_false_iff.mpr fun blank => ?_
  simp only [isBlank, Bool.or_eq_true, decide_eq_true_eq] at blank
  obtain ((rfl | rfl) | rfl) | rfl := blank <;> cases digit

/-- An integer starts with what its readers know a number by. -/
theorem exists_integerChars_eq_cons (n : Int) :
    ∃ c cs, Number.integerChars n = c :: cs ∧ isBlank c = false ∧
      (c = '-' ∨ (Number.digit? c).isSome = true) := by
  unfold Number.integerChars
  split
  next => exact ⟨'-', _, rfl, rfl, Or.inl rfl⟩
  next =>
    obtain ⟨c, cs, hdigits, digit⟩ := Number.exists_digits_eq_cons n.natAbs
    refine ⟨c, cs, hdigits, isBlank_eq_false_of_isDigit digit, Or.inr ?_⟩
    rw [Number.digit?_eq, if_pos digit]
    rfl

/-- An integer that its reader has room for is read back. -/
theorem readInteger_integerChars {expected : String} {fits : Int → Bool} {n : Int}
    (low : -Termbase.Number.twoTo 63 ≤ n) (high : n < Termbase.Number.twoTo 64)
    (room : fits n = true) :
    Reads (readInteger expected fits) (Number.integerChars n) n := by
  intro rest delimits
  have scanned := scanNumber_integerChars low high delimits
  obtain ⟨c, cs, hchars, visible, numeric⟩ := exists_integerChars_eq_cons n
  unfold readInteger
  rw [hchars, List.cons_append] at scanned ⊢
  rw [skipBlanks_cons visible]
  by_cases negative : n < 0
  · have value : -(n.natAbs : Int) = n := by omega
    rw [if_pos negative] at scanned
    simp only [if_pos numeric, scanned, value, room, if_true]
  · have value : (n.natAbs : Int) = n := by omega
    rw [if_neg negative] at scanned
    simp only [if_pos numeric, scanned, value, room, if_true]

theorem readSigned64_integerChars {id : Int64} :
    Reads readSigned64 (Number.integerChars id.toInt) id := by
  have low : -Termbase.Number.twoTo 63 ≤ id.toInt := id.le_toInt
  have high : id.toInt < Termbase.Number.twoTo 63 := id.toInt_lt
  have wide : id.toInt < Termbase.Number.twoTo 64 := by
    rw [twoTo_sixtyThree] at high
    rw [twoTo_sixtyFour]
    omega
  intro rest delimits
  unfold readSigned64
  dsimp only
  rw [readInteger_integerChars low wide _ rest delimits]
  · rw [Except.map, Int64.ofInt_toInt]
  · rw [Bool.and_eq_true, decide_eq_true_eq, decide_eq_true_eq]
    exact ⟨low, high⟩

end Termbase.Json
