import Mathlib.Data.List.Nodup
import Termbase.Proofs.Encoding

namespace Termbase

namespace Sha256

/-- The state after all blocks of a message. -/
def digest (message : List UInt8) : State :=
  absorb ((words (padded message)).length / 16) (words (padded message)) initial

/-- Of the messages, no two have the same digest. -/
def CollisionFree (messages : List (List UInt8)) : Prop :=
  ∀ first ∈ messages, ∀ second ∈ messages, digest first = digest second → first = second

theorem digitChar_injective {m n : Nat} (hm : m < 16) (hn : n < 16)
    (h : Nat.digitChar m = Nat.digitChar n) : m = n := by
  have all : ∀ m < 16, ∀ n < 16, Nat.digitChar m = Nat.digitChar n → m = n := by decide
  exact all m hm n hn h

theorem toNat_nibble (w : UInt32) {n : UInt32} (small : n.toNat < 32) :
    ((w >>> n) &&& 15).toNat = (w.toNat >>> n.toNat) % 16 := by
  have mask : (15 : UInt32).toNat = 2 ^ 4 - 1 := rfl
  rw [UInt32.toNat_and, mask, Nat.and_two_pow_sub_one_eq_mod, UInt32.toNat_shiftRight,
    Nat.mod_eq_of_lt small]

/-- Numbers with the same lowest hexadecimal digits and the same rest are the same. -/
theorem eq_of_nibbles (count : Nat) {m n : Nat}
    (same : ∀ i < count, (m >>> (4 * i)) % 16 = (n >>> (4 * i)) % 16)
    (rest : m >>> (4 * count) = n >>> (4 * count)) : m = n := by
  induction count with
  | zero => exact rest
  | succ count ih =>
    have lowest := same count (Nat.lt_succ_self count)
    rw [Nat.mul_succ, Nat.shiftRight_add, Nat.shiftRight_add] at rest
    have above : m >>> (4 * count) = n >>> (4 * count) := by omega
    exact ih (fun i hi => same i (Nat.lt_succ_of_lt hi)) above

theorem wordHex_injective {v w : UInt32} (h : wordHex v = wordHex w) : v = w := by
  have digits := List.map_inj_left.mp h
  have shifts : ∀ i < 8, (UInt32.ofNat (4 * i)).toNat = 4 * i ∧
      UInt32.ofNat (4 * i) ∈ ([28, 24, 20, 16, 12, 8, 4, 0] : List UInt32) := by decide
  have nibbles : ∀ i < 8, (v.toNat >>> (4 * i)) % 16 = (w.toNat >>> (4 * i)) % 16 := by
    intro i hi
    obtain ⟨value, listed⟩ := shifts i hi
    have small : (UInt32.ofNat (4 * i)).toNat < 32 := by omega
    have below : ∀ u : UInt32, ((u >>> UInt32.ofNat (4 * i)) &&& 15).toNat < 16 := by
      intro u
      rw [toNat_nibble u small]
      exact Nat.mod_lt _ (by decide)
    have alike := digitChar_injective (below v) (below w) (digits _ listed)
    rwa [toNat_nibble v small, toNat_nibble w small, value] at alike
  have hv := v.toNat_lt
  have hw := w.toNat_lt
  have rest : v.toNat >>> (4 * 8) = w.toNat >>> (4 * 8) := by omega
  exact UInt32.toNat_inj.mp (eq_of_nibbles 8 nibbles rest)

theorem flatMap_wordHex_injective {vs ws : List UInt32} (same : vs.length = ws.length)
    (h : vs.flatMap wordHex = ws.flatMap wordHex) : vs = ws := by
  induction vs generalizing ws with
  | nil => exact (List.length_eq_zero_iff.mp same.symm).symm
  | cons v vs ih =>
    cases ws with
    | nil => cases same
    | cons w ws =>
      have lengths : (wordHex v).length = (wordHex w).length := rfl
      obtain ⟨first, rest⟩ := List.append_inj h lengths
      rw [wordHex_injective first, ih (Nat.succ.inj same) rest]

def State.words (s : State) : List UInt32 := [s.a, s.b, s.c, s.d, s.e, s.f, s.g, s.h]

theorem State.words_injective {s t : State} (h : s.words = t.words) : s = t := by
  simp only [words, List.cons.injEq, and_true] at h
  cases s
  cases t
  simp_all only

theorem hex_eq (message : List UInt8) :
    hex message = String.ofList ((digest message).words.flatMap wordHex) := rfl

/-- A digest can be read off its hexadecimal digits. -/
theorem hex_injective {first second : List UInt8} (h : hex first = hex second) :
    digest first = digest second := by
  rw [hex_eq, hex_eq] at h
  exact State.words_injective (flatMap_wordHex_injective rfl (String.ofList_injective h))

end Sha256

section Distinct

variable {κ ι α : Type} [DecidableEq κ] [DecidableEq ι] {key : α → κ} {xs : List α}

theorem distinctOn_cons (key : α → κ) (x : α) (xs : List α) :
    distinctOn key (x :: xs) = x :: (distinctOn key xs).filter fun y => key y ≠ key x := by
  unfold distinctOn
  rw [List.map_cons, firstPerKey, List.map_cons, List.filter_map]
  refine congrArg (x :: List.map Prod.snd ·) (List.filter_congr fun entry hentry => ?_)
  obtain ⟨y, _, rfl⟩ := List.mem_map.mp (mem_firstPerKey hentry)
  rfl

theorem mem_of_mem_distinctOn {x : α} (h : x ∈ distinctOn key xs) : x ∈ xs := by
  induction xs with
  | nil => exact h
  | cons y ys ih =>
    rw [distinctOn_cons] at h
    rcases List.mem_cons.mp h with rfl | h
    · exact List.mem_cons_self
    · exact List.mem_cons_of_mem _ (ih (List.mem_filter.mp h).1)

/-- Keys that tell the same elements apart keep the same elements. -/
theorem distinctOn_congr {other : α → ι}
    (alike : ∀ x ∈ xs, ∀ y ∈ xs, key x = key y ↔ other x = other y) :
    distinctOn key xs = distinctOn other xs := by
  induction xs with
  | nil => rfl
  | cons x xs ih =>
    have rest : distinctOn key xs = distinctOn other xs := ih fun y hy z hz =>
      alike y (List.mem_cons_of_mem _ hy) z (List.mem_cons_of_mem _ hz)
    rw [distinctOn_cons, distinctOn_cons, rest]
    refine congrArg (x :: ·) (List.filter_congr fun y hy => ?_)
    have here := alike y (List.mem_cons_of_mem _ (mem_of_mem_distinctOn hy)) x List.mem_cons_self
    rw [decide_eq_decide, ne_eq, ne_eq, here]

theorem distinctOn_of_nodup (nodup : (xs.map key).Nodup) : distinctOn key xs = xs := by
  induction xs with
  | nil => rfl
  | cons x xs ih =>
    obtain ⟨fresh, rest⟩ := List.nodup_cons.mp (List.map_cons ▸ nodup)
    rw [distinctOn_cons, ih rest]
    refine congrArg (x :: ·) (List.filter_eq_self.mpr fun y hy => decide_eq_true fun same => ?_)
    exact fresh (same ▸ List.mem_map_of_mem hy)

/-- Elements are kept in the order of their first occurrences. -/
theorem distinctOn_ordered [DecidableEq α] (key : α → κ) (xs : List α) :
    (distinctOn key xs).Pairwise fun x y => xs.idxOf x < xs.idxOf y := by
  induction xs with
  | nil => exact List.Pairwise.nil
  | cons x xs ih =>
    have later : ∀ y ∈ (distinctOn key xs).filter fun y => key y ≠ key x,
        (x :: xs).idxOf y = xs.idxOf y + 1 := by
      intro y hy
      have other : key y ≠ key x := of_decide_eq_true (List.mem_filter.mp hy).2
      have different : x ≠ y := fun same => other (same ▸ rfl)
      rw [List.idxOf_cons_ne _ different]
    rw [distinctOn_cons]
    refine List.pairwise_cons.mpr ⟨fun y hy => ?_, ?_⟩
    · rw [List.idxOf_cons_self, later y hy]
      exact Nat.zero_lt_succ _
    · refine (ih.filter _).imp_of_mem fun {y z} hy hz before => ?_
      rw [later y hy, later z hz]
      exact Nat.succ_lt_succ before

/-- Goes through a list once and keeps the elements whose keys have not been seen before. -/
def unseen (key : α → κ) (seen : List κ) : List α → List α
  | [] => []
  | x :: xs =>
    if key x ∈ seen then unseen key seen xs else x :: unseen key (key x :: seen) xs

theorem unseen_eq_filter (key : α → κ) (seen : List κ) (xs : List α) :
    unseen key seen xs = (distinctOn key xs).filter fun y => key y ∉ seen := by
  induction xs generalizing seen with
  | nil => rfl
  | cons x xs ih =>
    rw [distinctOn_cons, unseen]
    split
    next old =>
      rw [List.filter_cons_of_neg (by simpa using old), List.filter_filter, ih]
      refine List.filter_congr fun y _ => ?_
      by_cases same : key y = key x <;> simp [same, old]
    next fresh =>
      rw [List.filter_cons_of_pos (by simpa using fresh), List.filter_filter, ih]
      refine congrArg (x :: ·) (List.filter_congr fun y _ => ?_)
      simp [Bool.and_comm]

/-- To compare with the elements seen before is to compare with all others. -/
theorem unseen_eq_distinctOn (key : α → κ) (xs : List α) :
    unseen key [] xs = distinctOn key xs := by
  rw [unseen_eq_filter]
  exact List.filter_eq_self.mpr fun y _ => decide_eq_true List.not_mem_nil

end Distinct

/-- The list has each of the elements once, in the order of their first occurrences. -/
structure FirstOccurrences {α : Type} [DecidableEq α] (xs kept : List α) : Prop where
  nodup : kept.Nodup
  mem_iff : ∀ x, x ∈ kept ↔ x ∈ xs
  ordered : kept.Pairwise fun x y => xs.idxOf x < xs.idxOf y

namespace Level

variable {level : Level} {records : List level.Record}

theorem encode_eq_iff {a b : level.Record} : level.encode a = level.encode b ↔ a = b :=
  ⟨level.encode_injective a b, congrArg level.encode⟩

theorem distinct_firstOccurrences (level : Level) (records : List level.Record) :
    FirstOccurrences records (level.distinct records) where
  nodup := level.distinct_nodup records
  mem_iff _ := mem_distinct
  ordered := distinctOn_ordered level.encode records

theorem distinct_distinct (level : Level) (records : List level.Record) :
    level.distinct (level.distinct records) = level.distinct records :=
  distinctOn_of_nodup (List.Nodup.map level.encode_injective (level.distinct_nodup records))

/-- Where the digests tell the encodings apart, the fingerprints tell the records apart. -/
theorem fingerprint_eq_iff (free : Sha256.CollisionFree (records.map level.encode))
    {a b : level.Record} (ha : a ∈ records) (hb : b ∈ records) :
    level.fingerprint a = level.fingerprint b ↔ a = b := by
  refine ⟨fun h => ?_, congrArg level.fingerprint⟩
  have same := Sha256.hex_injective h
  exact encode_eq_iff.mp
    (free _ (List.mem_map_of_mem ha) _ (List.mem_map_of_mem hb) same)

theorem unseen_fingerprint (free : Sha256.CollisionFree (records.map level.encode)) :
    unseen level.fingerprint [] records = level.distinct records := by
  rw [unseen_eq_distinctOn]
  exact distinctOn_congr fun a ha b hb => (fingerprint_eq_iff free ha hb).trans encode_eq_iff.symm

/-- The bytes behind a fingerprint are those of one record only, whatever its texts hold. As long as
no two digests collide, the records whose fingerprints have not been seen before are each record
once, in the order of their first occurrences, and a second pass finds nothing to leave out. -/
theorem fingerprints_separate (level : Level) :
    (∀ a b : level.Record, level.encode a = level.encode b ↔ a = b) ∧
    ∀ records : List level.Record, Sha256.CollisionFree (records.map level.encode) →
      (∀ a ∈ records, ∀ b ∈ records, level.fingerprint a = level.fingerprint b ↔ a = b) ∧
      level.distinct records = unseen level.fingerprint [] records ∧
      FirstOccurrences records (unseen level.fingerprint [] records) ∧
      unseen level.fingerprint [] (unseen level.fingerprint [] records) =
        unseen level.fingerprint [] records := by
  refine ⟨fun a b => encode_eq_iff, fun records free => ?_⟩
  have kept := unseen_fingerprint free
  have fewer : (level.distinct records).map level.encode ⊆ records.map level.encode :=
    List.map_subset _ fun _ => mem_distinct.mp
  have freeKept : Sha256.CollisionFree ((level.distinct records).map level.encode) :=
    fun first hfirst second hsecond => free first (fewer hfirst) second (fewer hsecond)
  refine ⟨fun a ha b hb => fingerprint_eq_iff free ha hb, kept.symm, ?_, ?_⟩
  · rw [kept]
    exact level.distinct_firstOccurrences records
  · rw [kept, unseen_fingerprint freeKept, distinct_distinct]

/-- Records that look alike once their values are put one after the other, and one of them twice. -/
def lookalikes : List (Level.Record .textInLang) :=
  [⟨1, "2en"⟩, ⟨1, "2\x00en"⟩, ⟨12, "en"⟩, ⟨1, "2en"⟩]

theorem lookalikes_collisionFree :
    Sha256.CollisionFree (lookalikes.map Level.textInLang.encode) := by
  unfold lookalikes Level.encode
  simp only [Level.columns_textInLang]
  unfold Sha256.CollisionFree
  decide +kernel

theorem fingerprints_separate_lookalikes :
    Sha256.CollisionFree (lookalikes.map Level.textInLang.encode) ∧
      FirstOccurrences lookalikes (unseen Level.textInLang.fingerprint [] lookalikes) :=
  have separate := (fingerprints_separate .textInLang).2 lookalikes lookalikes_collisionFree
  ⟨lookalikes_collisionFree, separate.2.2.1⟩

end Level

end Termbase
