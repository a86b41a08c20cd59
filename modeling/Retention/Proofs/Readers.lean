import Retention.Proofs.Acceptance

/-!
# What readers accept

A reader looks at a value and tells what it stands for, or why it stands for nothing. Here each is
read backwards: what a value must have been if it was accepted. No reader rounds, cuts off or makes
up anything, so the value is determined by what it was read as (`word32_ok`, `string_ok`,
`choice_ok` and their like), up to the other way in which a name may be written.

Of a section that is accepted every key was found among its fields, and the value under it passed
that field's check (`checkFields_ok`); the type of a database stands under its key, wherever among
the others (`kindOf_ok`).
-/

namespace Retention

def Toml.Value.isArray : Toml.Value → Bool
  | .array _ => true
  | _ => false

def Toml.Value.isTable : Toml.Value → Bool
  | .table _ => true
  | _ => false

namespace Settings

open Toml (Value Entries)

section Values

variable {v : Value}

theorem wholeNumber_ok {bound : Nat} {type : String} {n : Nat}
    (h : wholeNumber bound type v = .ok n) : v = .integer n ∧ n < bound := by
  cases v with
  | integer m =>
    simp only [wholeNumber] at h
    split_ifs at h with range
    cases h
    have whole : (m.toNat : Int) = m := Int.toNat_of_nonneg range.1
    exact ⟨by rw [whole], by omega⟩
  | _ => cases h

theorem word32_ok {n : UInt32} (h : word32 v = .ok n) : v = .integer n.toNat := by
  unfold word32 at h
  cases read : wholeNumber UInt32.size "u32" v <;> rw [read] at h <;> cases h
  obtain ⟨rfl, range⟩ := wholeNumber_ok read
  rw [UInt32.toNat_ofNat_of_lt' range]

theorem word64_ok {n : UInt64} (h : word64 v = .ok n) : v = .integer n.toNat := by
  unfold word64 at h
  cases read : wholeNumber UInt64.size "u64" v <;> rw [read] at h <;> cases h
  obtain ⟨rfl, range⟩ := wholeNumber_ok read
  rw [UInt64.toNat_ofNat_of_lt' range]

theorem boolean_ok {b : Bool} (h : boolean v = .ok b) : v = .boolean b := by
  cases v <;> cases h
  rfl

theorem string_ok {text : String} (h : string v = .ok text) : v = .string text := by
  cases v <;> cases h
  rfl

theorem strings_ok {texts : List String} (h : strings v = .ok texts) :
    v = .array (texts.map .string) := by
  have each : ∀ {items : List Value} {texts : List String}, items.mapM string = .ok texts →
      items = texts.map .string := by
    intro items
    induction items with
    | nil =>
      intro texts h
      cases h
      rfl
    | cons item items ih =>
      intro texts h
      rw [List.mapM_cons] at h
      obtain ⟨text, first, h⟩ := ok_of_bind h
      obtain ⟨more, rest, h⟩ := ok_of_bind h
      cases h
      rw [List.map_cons, string_ok first, ih rest]
  cases v with
  | array items => exact congrArg Value.array (each h)
  | _ => cases h

section Names

variable {α : Type} {names : List (String × α)} {a : α}

theorem variant_ok {name : String} (h : variant names name = .ok a) : (name, a) ∈ names := by
  unfold variant at h
  cases found : names.lookup name with
  | none => simp only [found] at h; cases h
  | some b =>
    simp only [found] at h
    cases h
    obtain ⟨before, after, rfl, -⟩ := List.lookup_eq_some_iff.1 found
    simp

theorem choice_ok (h : choice names v = .ok a) (noTable : v.isTable = false) :
    ∃ name, v = .string name ∧ (name, a) ∈ names := by
  unfold choice at h
  split at h
  · exact ⟨_, rfl, variant_ok h⟩
  · cases noTable
  · cases h

end Names

theorem encryptionMode_ok {mode : Encryption} (h : encryptionMode v = .ok mode)
    (noTable : v.isTable = false) : ∃ name, v = .string name ∧ (name, mode) ∈ encryptionNames := by
  unfold encryptionMode at h
  split at h
  · exact ⟨_, rfl, variant_ok h⟩
  · cases h
  · cases noTable
  · cases noTable
  · cases h

theorem databaseKind_ok {kind : DatabaseKind} (h : databaseKind v = .ok kind) :
    ∃ name, v = .string name ∧ (name, kind) ∈ databaseKindNames := by
  unfold databaseKind at h
  split at h
  · exact ⟨_, rfl, variant_ok h⟩
  · split_ifs at h
  · cases h

end Values

/-! ### Sections -/

variable {given : Entries} {key : String} {v : Value}

theorem mem_of_lookup (h : given.lookup key = some v) : (key, v) ∈ given := by
  obtain ⟨before, after, rfl, -⟩ := List.lookup_eq_some_iff.1 h
  simp

theorem lookup_of_mem (distinct : (given.map (·.1)).Nodup) (h : (key, v) ∈ given) :
    given.lookup key = some v := by
  obtain ⟨before, after, rfl⟩ := List.append_of_mem h
  refine List.lookup_eq_some_iff.2 ⟨before, after, rfl, fun e he => ?_⟩
  rw [List.map_append, List.map_cons, List.nodup_append] at distinct
  have apart : e.1 ≠ key :=
    distinct.2.2 e.1 (List.mem_map_of_mem he) key List.mem_cons_self
  simpa using apart.symm

theorem checkFields_ok {fields : List Field} (h : checkFields fields given = .ok ())
    (he : (key, v) ∈ given) : ∃ f ∈ fields, f.name = key ∧ f.check v = .ok () := by
  induction given with
  | nil => cases he
  | cons first rest ih =>
    obtain ⟨_, checked, others⟩ := ok_of_bind h
    rcases List.mem_cons.1 he with rfl | he
    · simp only [] at checked
      split at checked
      · next f found =>
        exact ⟨f, List.mem_of_find?_eq_some found, by simpa using List.find?_some found, checked⟩
      · cases checked
    · exact ih others he

theorem section?_ok {expected : String} {fields : List Field}
    (h : section? expected fields v = .ok given) (noArray : v.isArray = false)
    (foreign : ∀ f ∈ fields, f.name ≠ momentKey) :
    v = .table given ∧ checkFields fields given = .ok () := by
  obtain ⟨entries, taken, h⟩ := ok_of_bind h
  obtain ⟨_, checked, h⟩ := ok_of_bind h
  cases h
  refine ⟨?_, checked⟩
  cases v with
  | table => cases taken; rfl
  | array => cases noArray
  | moment =>
    cases taken
    obtain ⟨f, hf, same, -⟩ := checkFields_ok checked List.mem_cons_self
    exact absurd same (foreign f hf)
  | _ => cases taken

theorem optional_ok {α : Type} {read : Reader α} {default a : α}
    (h : optional given key read default = .ok a) :
    (∃ v, given.lookup key = some v ∧ read v = .ok a) ∨ given.lookup key = none ∧ a = default := by
  unfold optional at h
  cases found : given.lookup key with
  | none =>
    simp only [found] at h
    cases h
    exact .inr ⟨rfl, rfl⟩
  | some v =>
    simp only [found] at h
    exact .inl ⟨v, rfl, h⟩

theorem required_ok {α : Type} {read : Reader α} {missing : Misfit} {a : α}
    (h : required given key read missing = .ok a) :
    ∃ v, given.lookup key = some v ∧ read v = .ok a := by
  unfold required at h
  cases found : given.lookup key with
  | none => simp only [found] at h; cases h
  | some v =>
    simp only [found] at h
    exact ⟨v, rfl, h⟩

/-- The kind is read from the field for the type, wherever it stands; where there is none, it is the
one that was met before. -/
theorem kindOf_ok {kind : DatabaseKind} : ∀ {given : Entries} {met : Option DatabaseKind},
    (given.map (·.1)).Nodup → kindOf met given = .ok kind →
      (∃ v, given.lookup "type" = some v ∧ databaseKind v = .ok kind) ∨
        given.lookup "type" = none ∧ met = some kind
  | [], met, _, h => by
    cases met with
    | none => cases h
    | some kind =>
      cases h
      exact .inr ⟨rfl, rfl⟩
  | (key, v) :: rest, met, distinct, h => by
    obtain ⟨once, others⟩ := List.nodup_cons.1 distinct
    unfold kindOf at h
    split_ifs at h with here
    · subst here
      obtain ⟨first, read, h⟩ := ok_of_bind h
      rcases kindOf_ok others h with ⟨w, found, -⟩ | ⟨-, same⟩
      · exact absurd (List.mem_map_of_mem (mem_of_lookup found)) once
      · cases same
        exact .inl ⟨v, List.lookup_cons_self, read⟩
    · obtain ⟨_, -, h⟩ := ok_of_bind h
      have other : ("type" == key) = false := by simpa using Ne.symm here
      simpa only [List.lookup_cons, other] using kindOf_ok others h

theorem lookup_untyped (h : key ≠ "type") :
    (given.filter (·.1 != "type")).lookup key = given.lookup key := by
  induction given with
  | nil => rfl
  | cons first rest ih =>
    obtain ⟨k, v⟩ := first
    rw [List.filter_cons, List.lookup_cons]
    by_cases here : key = k
    · subst here
      simp [h]
    · have other : (key == k) = false := by simpa using here
      split_ifs
      · rw [List.lookup_cons, other, ih]
      · rw [other, ih]

end Settings

end Retention
