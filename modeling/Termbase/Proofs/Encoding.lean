import Termbase.Record.Encoding
import Termbase.Proofs.Lists

namespace Termbase

theorem utf8Bytes_injective {s t : String} (h : utf8Bytes s = utf8Bytes t) : s = t :=
  String.toByteArray_inj.mp (ByteArray.ext (Array.toList_inj.mp h))

theorem bigEndian_injective {m n : UInt64} (h : bigEndian m = bigEndian n) : m = n := by
  simp only [bigEndian, List.cons.injEq, and_true] at h
  simp only [← UInt8.toNat_inj, UInt64.toNat_toUInt8, UInt64.toNat_shiftRight,
    Nat.shiftRight_eq_div_pow, UInt64.toNat_ofNat, Nat.reducePow, Nat.reduceMod] at h
  have hm := m.toNat_lt
  have hn := n.toNat_lt
  rw [← UInt64.toNat_inj]
  omega

theorem Cell.bytes_injective {a b : Cell} (h : a.bytes = b.bytes) : a = b := by
  cases a with
  | integer m =>
    cases b with
    | integer n =>
      have hsame := congrArg UInt64.toInt64 (bigEndian_injective (List.cons.inj h).2)
      rw [Int64.toInt64_toUInt64, Int64.toInt64_toUInt64] at hsame
      rw [hsame]
    | text => simp [bytes] at h
  | text s =>
    cases b with
    | integer => simp [bytes] at h
    | text t => rw [utf8Bytes_injective (List.cons.inj h).2]

theorem columnBytes_injective {name : String} {a b : Cell}
    (h : columnBytes (name, a) = columnBytes (name, b)) : a = b := by
  have hvalue := List.append_cancel_left (List.append_cancel_right h)
  exact Cell.bytes_injective (List.cons.inj hvalue).2

theorem columnBytes_integer_length (name : String) (n : RowId) :
    (columnBytes (name, .integer n)).length = (utf8Bytes name).length + 11 := by
  simp [columnBytes, Cell.bytes, bigEndian]

namespace Level

theorem columns_text (value : String) : columns .text value = [("value", .text value)] := by
  simp [columns, keyColumns, cells]

theorem columns_textInLang (record : TextInLang) :
    columns .textInLang record =
      [("language", .text record.language), ("text_id", .integer record.textId)] := by
  have later : ¬"text_id" ≤ "language" := by decide
  simp [columns, keyColumns, cells, List.mergeSort, List.MergeSort.Internal.splitInTwo, later]

theorem columns_termInLang (record : TermInLang) :
    columns .termInLang record =
      [("text_in_lang_id", .integer record.textInLangId),
        ("type_id", .integer record.typeCode)] := by
  have earlier : "text_in_lang_id" ≤ "type_id" := by decide
  simp [columns, keyColumns, cells, List.mergeSort, List.MergeSort.Internal.splitInTwo, earlier]

/-- Equal bytes come from equal records. The last column of the upper levels is an integer, so that
the bytes before it are told apart from it by their number. -/
theorem encode_injective (level : Level) (a b : level.Record)
    (h : level.encode a = level.encode b) : a = b := by
  unfold encode at h
  cases level with
  | text =>
    rw [columns_text, columns_text, List.flatMap_singleton, List.flatMap_singleton] at h
    exact Cell.text.inj (columnBytes_injective h)
  | textInLang =>
    rw [columns_textInLang, columns_textInLang] at h
    simp only [List.flatMap_cons, List.flatMap_nil, List.append_nil] at h
    obtain ⟨hlanguage, hid⟩ := List.append_inj' h (by simp only [columnBytes_integer_length])
    have elanguage := Cell.text.inj (columnBytes_injective hlanguage)
    have eid := Cell.integer.inj (columnBytes_injective hid)
    cases a
    cases b
    simp_all only
  | termInLang =>
    rw [columns_termInLang, columns_termInLang] at h
    simp only [List.flatMap_cons, List.flatMap_nil, List.append_nil] at h
    obtain ⟨hid, hcode⟩ := List.append_inj' h (by simp only [columnBytes_integer_length])
    have eid := Cell.integer.inj (columnBytes_injective hid)
    have ecode := Cell.integer.inj (columnBytes_injective hcode)
    cases a
    cases b
    simp_all only

theorem mem_distinct {level : Level} {record : level.Record} {records : List level.Record} :
    record ∈ level.distinct records ↔ record ∈ records :=
  mem_distinctOn level.encode_injective

theorem distinct_nodup (level : Level) (records : List level.Record) :
    (level.distinct records).Nodup :=
  distinctOn_nodup level.encode records

end Level

end Termbase
