import Termbase.Proofs.Facts
import Termbase.Proofs.Ledger

namespace Termbase

theorem Database.storedTerm?_eq_none {db : Database} {id : RowId}
    (hid : id ∉ db.termInLang.ids) : db.storedTerm? id = none := by
  have habsent : db.termInLang.record? id = none := by
    refine Option.eq_none_iff_forall_ne_some.mpr fun record h => ?_
    exact hid (Table.mem_ids.mpr ⟨record, Table.record?_eq_some_iff.mp h⟩)
  unfold storedTerm?
  rw [habsent]
  rfl

namespace Ledger

variable {ledger : Ledger} {db : Database}

theorem Explains.readable (explained : ledger.Explains db) {level : Level}
    {record : level.Record} (h : record ∈ (db.table level).records) :
    ∃ meaning, ledger.read level record = some meaning := by
  obtain ⟨id, hrow⟩ := Table.mem_records.mp h
  obtain ⟨meaning, _, hread⟩ := explained level _ hrow
  exact ⟨meaning, hread⟩

/-- Different records of a level stand for different things. -/
def Separates (ledger : Ledger) (db : Database) (level : Level) : Prop :=
  ∀ x ∈ (db.table level).records, ∀ y ∈ (db.table level).records,
    ledger.read level x = ledger.read level y → x = y

theorem Separates.id_unique {level : Level} (separate : ledger.Separates db level)
    (explained : ledger.Explains db) {a b : RowId} (ha : a ∈ (db.table level).ids)
    (hb : b ∈ (db.table level).ids) (same : ledger.entry level a = ledger.entry level b) :
    a = b := by
  obtain ⟨x, hx⟩ := Table.mem_ids.mp ha
  obtain ⟨y, hy⟩ := Table.mem_ids.mp hb
  obtain ⟨first, hfirst, hreadx⟩ := explained level _ hx
  obtain ⟨second, hsecond, hready⟩ := explained level _ hy
  have hread : ledger.read level x = ledger.read level y := by
    rw [hreadx, hready, ← hfirst, ← hsecond, same]
  have he := separate x (Table.mem_records.mpr ⟨a, hx⟩) y (Table.mem_records.mpr ⟨b, hy⟩) hread
  subst he
  exact Table.id_unique hx hy

theorem separates_text (ledger : Ledger) (db : Database) : ledger.Separates db .text :=
  fun _ _ _ _ h => Option.some.inj h

theorem separates_textInLang (explained : ledger.Explains db) (intact : db.Intact) :
    ledger.Separates db .textInLang := by
  intro x hx y hy same
  obtain ⟨_, hrowx⟩ := Table.mem_records.mp hx
  obtain ⟨_, hrowy⟩ := Table.mem_records.mp hy
  obtain ⟨phrase, hreadx⟩ := explained.readable hx
  obtain ⟨textx, htextx, rfl⟩ := Option.map_eq_some_iff.mp hreadx
  obtain ⟨texty, htexty, he⟩ := Option.map_eq_some_iff.mp (same.symm.trans hreadx)
  obtain ⟨hlanguage, htext⟩ := Phrase.mk.inj he
  have hid : x.textId = y.textId :=
    (separates_text ledger db).id_unique explained (intact.textInLang _ hrowx)
      (intact.textInLang _ hrowy) (by rw [htextx, htexty, htext])
  cases x
  cases y
  simp_all only

theorem separates_termInLang (explained : ledger.Explains db) (intact : db.Intact) :
    ledger.Separates db .termInLang := by
  intro x hx y hy same
  obtain ⟨_, hrowx⟩ := Table.mem_records.mp hx
  obtain ⟨_, hrowy⟩ := Table.mem_records.mp hy
  obtain ⟨term, hreadx⟩ := explained.readable hx
  obtain ⟨phrasex, hphrasex, rfl⟩ := Option.map_eq_some_iff.mp hreadx
  obtain ⟨phrasey, hphrasey, he⟩ := Option.map_eq_some_iff.mp (same.symm.trans hreadx)
  obtain ⟨hcode, hlanguage, htext⟩ := StoredTerm.mk.inj he
  have hphrase : phrasey = phrasex := by
    cases phrasex
    cases phrasey
    simp_all only
  have hid : x.textInLangId = y.textInLangId :=
    (separates_textInLang explained intact).id_unique explained (intact.termInLang _ hrowx)
      (intact.termInLang _ hrowy) (by rw [hphrasex, hphrasey, hphrase])
  cases x
  cases y
  simp_all only

theorem separates (explained : ledger.Explains db) (intact : db.Intact) (level : Level) :
    ledger.Separates db level := by
  cases level with
  | text => exact separates_text ledger db
  | textInLang => exact separates_textInLang explained intact
  | termInLang => exact separates_termInLang explained intact

/-- A term id that is there decodes to what it stands for. -/
theorem storedTerm?_eq (explained : ledger.Explains db) (intact : db.Intact) {id : RowId}
    (hid : id ∈ db.termInLang.ids) : db.storedTerm? id = ledger.entry .termInLang id := by
  obtain ⟨term, hterm⟩ := Table.mem_ids.mp hid
  obtain ⟨below, hbelow⟩ := Table.mem_ids.mp (intact.termInLang _ hterm)
  obtain ⟨text, htext⟩ := Table.mem_ids.mp (intact.textInLang _ hbelow)
  obtain ⟨stored, hstored, hreadTerm⟩ := explained .termInLang _ hterm
  obtain ⟨phrase, hphrase, hreadBelow⟩ := explained .textInLang _ hbelow
  obtain ⟨value, hvalue, hreadText⟩ := explained .text _ htext
  obtain ⟨_, hp, rfl⟩ := Option.map_eq_some_iff.mp hreadTerm
  obtain ⟨_, ht, rfl⟩ := Option.map_eq_some_iff.mp hreadBelow
  cases hp.symm.trans hphrase
  cases ht.symm.trans hvalue
  cases Option.some.inj hreadText
  unfold Database.storedTerm?
  rw [Table.record?_eq_some_iff.mpr hterm, Option.bind_eq_bind, Option.bind_some,
    Table.record?_eq_some_iff.mpr hbelow, Option.bind_eq_bind, Option.bind_some,
    Table.record?_eq_some_iff.mpr htext]
  exact hstored.symm

end Ledger

/-- What a fact needs at a level. -/
def Fact.At (fact : Fact) (codes : TypeCodes) : (level : Level) → level.Meaning → Prop
  | .text, text => text = fact.text
  | .textInLang, phrase => phrase = ⟨fact.language, fact.text⟩
  | .termInLang, term =>
    codes.get? fact.type = some term.code ∧ term.language = fact.language ∧ term.text = fact.text

/-- No two types have the same code. -/
def TypeCodes.Distinct (codes : TypeCodes) : Prop :=
  ∀ first second code, codes.get? first = some code → codes.get? second = some code →
    first = second

namespace Fact.At

variable {codes : TypeCodes}

theorem unique {fact : Fact} {level : Level} {a b : level.Meaning} (ha : fact.At codes level a)
    (hb : fact.At codes level b) : a = b := by
  cases level with
  | text => exact Eq.trans ha (Eq.symm hb)
  | textInLang => exact Eq.trans ha (Eq.symm hb)
  | termInLang =>
    obtain ⟨hcode, hlanguage, htext⟩ := ha
    obtain ⟨hcode', hlanguage', htext'⟩ := hb
    have he := Option.some.inj (hcode.symm.trans hcode')
    cases a
    cases b
    simp_all only

theorem fact_unique (distinct : codes.Distinct) {first second : Fact} {term : StoredTerm}
    (hfirst : first.At codes .termInLang term) (hsecond : second.At codes .termInLang term) :
    first = second := by
  obtain ⟨hcode, hlanguage, htext⟩ := hfirst
  obtain ⟨hcode', hlanguage', htext'⟩ := hsecond
  have htype := distinct _ _ _ hcode hcode'
  cases first
  cases second
  simp_all only

end Fact.At

namespace Ledger

variable {ledger later : Ledger}

/-- The id stands for what the fact needs at the level. -/
def Knows (ledger : Ledger) (codes : TypeCodes) (fact : Fact) (level : Level) (id : RowId) : Prop :=
  ∃ meaning, ledger.entry level id = some meaning ∧ fact.At codes level meaning

theorem Knows.mono (h : ledger ≤ later) {codes : TypeCodes} {fact : Fact} {level : Level}
    {id : RowId} (known : ledger.Knows codes fact level id) : later.Knows codes fact level id := by
  obtain ⟨meaning, hentry, hat⟩ := known
  exact ⟨meaning, h _ _ _ hentry, hat⟩

end Ledger

end Termbase
