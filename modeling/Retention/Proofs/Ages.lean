import Retention.Proofs.JobRows
import Retention.Proofs.Rows
import Retention.Proofs.Timestamps
import Retention.Store.Seed

/-!
# Rows by age

A statement compares the bytes of the texts under which the store keeps instants. Bytes in UTF-8
are ordered as the texts are, whatever these hold (`Text.bytes_lt_iff`), and the texts of instants
as the instants are; so where every row is stamped with an instant of the years 0 to 9999
(`Instant.Stamps`), each statement with a cutoff up to the year 9999 finds the rows of the age that
it is meant for and no others (`Store.picks_by_age`).
-/

namespace Retention

namespace Text

/-- The bytes of a text in UTF-8. -/
def bytes (text : String) : List UInt8 := text.toUTF8.data.toList

theorem bytes_eq (text : String) : bytes text = text.toList.flatMap String.utf8EncodeChar := by
  have encoded : text.toUTF8 = text.toList.utf8Encode := by
    rw [← String.toByteArray_ofList, String.ofList_toList]
    rfl
  rw [bytes, encoded, List.utf8Encode, List.data_toByteArray]

theorem bytes_inj {s t : String} : bytes s = bytes t ↔ s = t := by
  constructor
  · intro h
    exact String.toByteArray_inj.1 (ByteArray.ext (Array.toList_inj.1 h))
  · exact congrArg bytes

/-- The first byte decides, and equal ones leave it to the rest. -/
theorem byte_cons_lt {m n : Nat} {x y : List UInt8} (le : m ≤ n) (hn : n < 256)
    (rest : m = n → x < y) : UInt8.ofNat m :: x < UInt8.ofNat n :: y := by
  rcases Nat.lt_or_eq_of_le le with h | rfl
  · refine List.cons_lt_cons_iff.2 (.inl ?_)
    rw [UInt8.lt_iff_toNat_lt, UInt8.toNat_ofNat_of_lt' (Nat.lt_trans h hn),
      UInt8.toNat_ofNat_of_lt' hn]
    exact h
  · exact List.cons_lt_cons_iff.2 (.inr ⟨rfl, rest rfl⟩)

/-- Of two characters the lower one has the lower bytes, whatever follows them. -/
theorem utf8EncodeChar_append_lt {c d : Char} (h : c < d) (x y : List UInt8) :
    String.utf8EncodeChar c ++ x < String.utf8EncodeChar d ++ y := by
  have hlt : c.val.toNat < d.val.toNat := h
  have hd : d.val.toNat < 0x110000 := by
    rcases d.valid with below | ⟨-, within⟩
    · exact Nat.lt_trans below (by decide)
    · exact within
  unfold String.utf8EncodeChar
  simp only
  generalize c.val.toNat = m at *
  generalize d.val.toNat = n at *
  split_ifs <;> refine byte_cons_lt (by omega) (by omega) fun first => ?_
  -- first bytes are equal only where there are as many bytes
  any_goals omega
  · exact byte_cons_lt (by omega) (by omega) fun second => by omega
  · refine byte_cons_lt (by omega) (by omega) fun second => ?_
    exact byte_cons_lt (by omega) (by omega) fun third => by omega
  · refine byte_cons_lt (by omega) (by omega) fun second => ?_
    refine byte_cons_lt (by omega) (by omega) fun third => ?_
    exact byte_cons_lt (by omega) (by omega) fun fourth => by omega

theorem flatMap_utf8EncodeChar_lt : ∀ {a b : List Char}, a < b →
    a.flatMap String.utf8EncodeChar < b.flatMap String.utf8EncodeChar
  | [], [], h => absurd h (List.lt_irrefl [])
  | [], d :: b, _ => by
    obtain ⟨first, rest, hd⟩ := List.exists_cons_of_ne_nil (String.utf8EncodeChar_ne_nil (c := d))
    rw [List.flatMap_nil, List.flatMap_cons, hd]
    exact List.nil_lt_cons first _
  | c :: a, d :: b, h => by
    rw [List.flatMap_cons, List.flatMap_cons]
    rcases List.cons_lt_cons_iff.1 h with hcd | ⟨rfl, hab⟩
    · exact utf8EncodeChar_append_lt hcd _ _
    · exact List.append_left_lt (flatMap_utf8EncodeChar_lt hab)

/-- Texts are ordered as their bytes are. -/
theorem bytes_lt_iff {s t : String} : bytes s < bytes t ↔ s < t := by
  have lt {s t : String} (h : s < t) : bytes s < bytes t := by
    rw [bytes_eq, bytes_eq]
    exact flatMap_utf8EncodeChar_lt (String.lt_iff.1 h)
  refine ⟨fun h => ?_, lt⟩
  by_contra hst
  by_cases hts : t < s
  · exact List.lt_asymm (lt hts) h
  · obtain rfl := String.le_antisymm (String.not_lt.1 hts) (String.not_lt.1 hst)
    exact List.lt_irrefl _ h

end Text

namespace Time.Instant

/-- The text is that of the instant, which lies in the years 0 to 9999. -/
structure Stamps (t : Instant) (text : String) : Prop where
  start : 0 ≤ t.date.year
  finish : t.date.year ≤ 9999
  text_eq : text = t.stored

instance (t : Instant) (text : String) : Decidable (t.Stamps text) :=
  decidable_of_iff (0 ≤ t.date.year ∧ t.date.year ≤ 9999 ∧ text = t.stored)
    ⟨fun h => ⟨h.1, h.2.1, h.2.2⟩, fun h => ⟨h.1, h.2, h.3⟩⟩

namespace Stamps

variable {t c : Instant} {text : String}

theorem lt_iff (h : t.Stamps text) (reach : c.date.year ≤ 9999) :
    text < c.stored ↔ t.Before c := by
  rw [h.text_eq]
  exact stored_lt_iff h.start h.finish reach

theorem eq_iff (h : t.Stamps text) (reach : c.date.year ≤ 9999) : text = c.stored ↔ t = c := by
  constructor
  · intro same
    rcases before_or_eq_or_before t c with htc | rfl | hct
    · exact absurd ((h.lt_iff reach).2 htc) (same ▸ String.lt_irrefl _)
    · rfl
    · have := stored_lt hct h.start h.finish
      rw [← h.text_eq, same] at this
      exact absurd this (String.lt_irrefl _)
  · rintro rfl
    exact h.text_eq

theorem gt_iff (h : t.Stamps text) (reach : c.date.year ≤ 9999) :
    c.stored < text ↔ c.Before t := by
  constructor
  · intro later
    rcases before_or_eq_or_before t c with htc | rfl | hct
    · exact absurd later (String.lt_asymm ((h.lt_iff reach).2 htc))
    · exact absurd later (h.text_eq ▸ String.lt_irrefl _)
    · exact hct
  · intro hct
    rw [h.text_eq]
    exact stored_lt hct h.start h.finish

theorem le_iff (h : t.Stamps text) (reach : c.date.year ≤ 9999) :
    text ≤ c.stored ↔ ¬ c.Before t := by
  rw [← h.gt_iff reach, String.not_lt]

end Stamps

end Time.Instant

namespace Store

open Time (Instant)
open Text (bytes)

section Picks

variable {c : Instant} (reach : c.date.year ≤ 9999) {s : Store}

section Data

variable {pushed : Datum → Instant} (stamped : ∀ row ∈ s.data, (pushed row).Stamps row.pushed)
include reach stamped

theorem due_by_age (scope : Option Int) :
    s.due c scope = s.data.filter fun row => (pushed row).Before c ∧ row.InScope scope :=
  List.filter_congr fun row hrow =>
    decide_eq_decide.2 (and_congr_left' ((stamped row hrow).lt_iff reach))

theorem maxIdAfter_by_age (scope : Option Int) :
    s.maxIdAfter c scope = (need .performanceDatum s.performanceDatum).map fun t =>
      (t.rows.filter fun row => c.Before (pushed row) ∧ row.InScope scope).getLast?.map (·.id) := by
  unfold maxIdAfter
  rcases hd : s.performanceDatum with _ | t
  · rfl
  have hdata : s.data = t.rows := by simp [data, hd]
  refine congrArg (fun younger : List Datum => Except.ok (younger.getLast?.map (·.id))) ?_
  refine List.filter_congr fun row hrow => decide_eq_decide.2 (and_congr_left' ?_)
  exact (stamped row (hdata ▸ hrow)).gt_iff reach

theorem countAtOrBefore_by_age (maxId scope : Option Int) (cap : UInt32) :
    s.countAtOrBefore c maxId scope cap =
      (need .performanceDatum s.performanceDatum).map fun t =>
        ((t.rows.filter fun row => ¬ c.Before (pushed row) ∧ (∀ id ∈ maxId, row.id ≤ id) ∧
          row.InScope scope).take cap.toNat).length.toUInt64 := by
  unfold countAtOrBefore
  rcases hd : s.performanceDatum with _ | t
  · rfl
  have hdata : s.data = t.rows := by simp [data, hd]
  refine congrArg (fun older : List Datum => Except.ok (older.take cap.toNat).length.toUInt64) ?_
  refine List.filter_congr fun row hrow => decide_eq_decide.2 (and_congr_left' ?_)
  exact (stamped row (hdata ▸ hrow)).le_iff reach

theorem deleteData_by_age (scope : Option Int) (limit : UInt32) :
    deleteData c scope limit s = (need .performanceDatum s.performanceDatum).bind fun _ =>
      (s.needParents [.repository]).map fun _ =>
        let older := s.data.filter fun row => (pushed row).Before c ∧ row.InScope scope
        ((older.take limit.toNat).length.toUInt64, s.withoutData (older.take limit.toNat)) := by
  rw [← due_by_age reach stamped]
  rcases hd : s.performanceDatum with _ | t
  · rw [deleteData, hd]
    rfl
  rcases hp : s.needParents [.repository] with e | ⟨⟩
  · rw [deleteData, hd, hp]
    rfl
  obtain ⟨k, s', deleted⟩ : ∃ k s', deleteData c scope limit s = .ok (k, s') := by
    rw [deleteData, hd, hp]
    exact ⟨_, _, rfl⟩
  obtain ⟨hk, left⟩ := deleteData_ok deleted
  have told : k = ((s.due c scope).take limit.toNat).length.toUInt64 := by
    rw [List.length_take, ← hk]
    exact UInt64.ofNat_toNat.symm
  rw [deleted, left, hk, thinned_min, told]
  rfl

end Data

section Jobs

variable {submitted : Job → Instant}
  (stamped : ∀ row ∈ s.jobRows, (submitted row).Stamps row.submitted)
include reach stamped

theorem dueJobs_by_age :
    s.dueJobs c = s.jobRows.filter fun row => (submitted row).Before c :=
  List.filter_congr fun row hrow => decide_eq_decide.2 ((stamped row hrow).lt_iff reach)

theorem countJobsBefore_by_age :
    s.countJobsBefore c = (need .job s.job).map fun t =>
      (t.rows.filter fun row => (submitted row).Before c).length.toUInt64 := by
  have due := dueJobs_by_age reach stamped
  unfold countJobsBefore
  rcases hj : s.job with _ | t
  · rfl
  simp only [dueJobs, jobRows, hj, Option.elim_some] at due
  exact congrArg (fun older => Except.ok older.length.toUInt64) due

end Jobs

end Picks

/-- Bytes of stored texts are ordered as the instants are, and with rows stamped so, what is
counted, looked up or deleted around a cutoff are just the rows that are younger than it, as old, or
older. The cutoff may lie before the year 0, not past 9999. -/
theorem picks_by_age (c : Instant) (reach : c.date.year ≤ 9999) (s : Store)
    (pushed : Datum → Instant) (submitted : Job → Instant)
    (stamped : ∀ row ∈ s.data, (pushed row).Stamps row.pushed)
    (stamped_jobs : ∀ row ∈ s.jobRows, (submitted row).Stamps row.submitted) :
    (∀ t : Instant, 0 ≤ t.date.year → t.date.year ≤ 9999 →
      (bytes t.stored < bytes c.stored ↔ t.Before c) ∧
      (bytes t.stored = bytes c.stored ↔ t = c) ∧
      (bytes c.stored < bytes t.stored ↔ c.Before t)) ∧
    (∀ scope, s.maxIdAfter c scope = (need .performanceDatum s.performanceDatum).map fun t =>
      (t.rows.filter fun row => c.Before (pushed row) ∧ row.InScope scope).getLast?.map (·.id)) ∧
    (∀ maxId scope cap, s.countAtOrBefore c maxId scope cap =
      (need .performanceDatum s.performanceDatum).map fun t =>
        ((t.rows.filter fun row => ¬ c.Before (pushed row) ∧ (∀ id ∈ maxId, row.id ≤ id) ∧
          row.InScope scope).take cap.toNat).length.toUInt64) ∧
    (∀ scope limit, deleteData c scope limit s =
      (need .performanceDatum s.performanceDatum).bind fun _ =>
        (s.needParents [.repository]).map fun _ =>
          let older := s.data.filter fun row => (pushed row).Before c ∧ row.InScope scope
          ((older.take limit.toNat).length.toUInt64, s.withoutData (older.take limit.toNat))) ∧
    (s.countJobsBefore c = (need .job s.job).map fun t =>
      (t.rows.filter fun row => (submitted row).Before c).length.toUInt64) ∧
    (∀ t, s.job = some t → ∀ size, jobChunk t c size =
      ((t.rows.filter fun row => (submitted row).Before c).take size.toNat).map (·.id)) := by
  refine ⟨fun t start finish => ?_, maxIdAfter_by_age reach stamped,
    countAtOrBefore_by_age reach stamped, deleteData_by_age reach stamped,
    countJobsBefore_by_age reach stamped_jobs, fun t present size => ?_⟩
  · have stamps : t.Stamps t.stored := ⟨start, finish, rfl⟩
    rw [Text.bytes_lt_iff, Text.bytes_lt_iff, Text.bytes_inj]
    exact ⟨stamps.lt_iff reach, stamps.eq_iff reach, stamps.gt_iff reach⟩
  · have rows : s.jobRows = t.rows := by simp [jobRows, present]
    rw [jobChunk_eq present, dueJobs_by_age reach stamped_jobs, rows]

/-- Four rows around the half second after midnight, each with a fraction of another length. -/
theorem picks_by_age_within_second :
    let half : Instant := ⟨0, 500000000, by decide⟩
    let s := Seed.sowAll .empty [.repository "main" none,
      .data "1970-01-01T00:00:00+00:00" 1 1 none, .data "1970-01-01T00:00:00.500+00:00" 1 1 none,
      .data "1970-01-01T00:00:00.500001+00:00" 1 1 none,
      .ownJobs "1970-01-01T00:00:00.499999999+00:00" 1]
    let pushed : Datum → Instant := fun row =>
      if row.id = 1 then ⟨0, 0, by decide⟩
      else if row.id = 2 then half else ⟨0, 500001000, by decide⟩
    let submitted : Job → Instant := fun _ => ⟨0, 499999999, by decide⟩
    half.date.year ≤ 9999 ∧ (∀ row ∈ s.data, (pushed row).Stamps row.pushed) ∧
      (∀ row ∈ s.jobRows, (submitted row).Stamps row.submitted) ∧
      s.maxIdAfter half none = .ok (some 3) ∧ s.countAtOrBefore half (some 3) none 9 = .ok 2 ∧
      (deleteData half none 9 s).map (·.1) = .ok 1 ∧ s.countJobsBefore half = .ok 1 := by
  intro half s pushed submitted
  have reach : half.date.year ≤ 9999 := by decide +kernel
  have stamped : ∀ row ∈ s.data, (pushed row).Stamps row.pushed := by decide +kernel
  have stamped_jobs : ∀ row ∈ s.jobRows, (submitted row).Stamps row.submitted := by decide +kernel
  obtain ⟨-, max, count, delete, jobs, -⟩ := picks_by_age half reach s pushed submitted stamped
    stamped_jobs
  refine ⟨reach, stamped, stamped_jobs, (max none).trans ?_, (count _ _ _).trans ?_,
    (congrArg _ (delete _ _)).trans ?_, jobs.trans ?_⟩ <;> decide +kernel

end Store
end Retention
