import Mathlib.Data.Option.Basic
import Mathlib.Data.String.Basic
import Mathlib.Tactic.SplitIfs
import Retention.Toml.Document

/-!
# Distinct keys

A document may give a key in many places: in a dotted key, in a header, among the keys of a table
that is open. Wherever it goes, a key is put into its table at its place in the order
(`Members.upsert`), or what is there already is replaced; so in every table of a document, however
deep, the keys ascend (`parse?_ascending`), and no key is in it twice.

A tree that is still being built is looked at through the value it stands for. Every step that adds
to it keeps it in order if what is added is (`Keeps`), and so does every round of the readers.
-/

namespace Retention.Toml

mutual

/-- The keys ascend in the value, and in all that it holds. -/
def Value.Ascending : Value → Prop
  | .array items => AscendingItems items
  | .table entries => entries.Pairwise (·.1 < ·.1) ∧ AscendingEntries entries
  | _ => True

def AscendingItems : List Value → Prop
  | [] => True
  | v :: rest => v.Ascending ∧ AscendingItems rest

def AscendingEntries : Entries → Prop
  | [] => True
  | (_, v) :: rest => v.Ascending ∧ AscendingEntries rest

end

theorem ascending_array : ∀ {items : List Value},
    (Value.array items).Ascending ↔ ∀ v ∈ items, v.Ascending
  | [] => by simp [Value.Ascending, AscendingItems]
  | v :: rest => by
    have ih : AscendingItems rest ↔ ∀ v ∈ rest, v.Ascending := ascending_array
    rw [Value.Ascending, AscendingItems, List.forall_mem_cons, ih]

theorem ascendingEntries_iff : ∀ {entries : Entries},
    AscendingEntries entries ↔ ∀ e ∈ entries, e.2.Ascending
  | [] => by simp [AscendingEntries]
  | (_, v) :: rest => by
    rw [AscendingEntries, List.forall_mem_cons, ascendingEntries_iff]

theorem ascending_table {entries : Entries} : (Value.table entries).Ascending ↔
    entries.Pairwise (·.1 < ·.1) ∧ ∀ e ∈ entries, e.2.Ascending := by
  rw [Value.Ascending, ascendingEntries_iff]

theorem Value.Ascending.nodup {entries : Entries} (h : (Value.table entries).Ascending) :
    (entries.map (·.1)).Nodup :=
  List.pairwise_map.2 ((ascending_table.1 h).1.imp fun lt => lt.ne)

/-! ### Trees -/

theorem toEntries_eq_map : ∀ members : Members,
    toEntries members = members.map fun e => (e.1, e.2.toValue)
  | [] => rfl
  | (_, _) :: rest => by rw [toEntries, toEntries_eq_map rest, List.map_cons]

theorem toItems_eq : ∀ (earlier : List Members) (after : List Value),
    toItems earlier after = (earlier.map fun ms => .table (toEntries ms)).reverse ++ after
  | [], _ => rfl
  | ms :: earlier, after => by simp [toItems, toItems_eq earlier]

/-- The tree stands for a value in which the keys ascend. -/
def Node.Ascending (n : Node) : Prop := n.toValue.Ascending

def Members.Ascending (members : Members) : Prop := (Value.table (toEntries members)).Ascending

theorem Members.ascending_iff {members : Members} :
    members.Ascending ↔ members.Pairwise (·.1 < ·.1) ∧ ∀ e ∈ members, e.2.Ascending := by
  rw [Members.Ascending, ascending_table, toEntries_eq_map, List.pairwise_map, List.forall_mem_map]
  rfl

theorem Members.ascending_nil : Members.Ascending [] := Members.ascending_iff.2 (by simp)

theorem Node.ascending_table {origin : Origin} {members : Members} :
    (Node.table origin members).Ascending ↔ members.Ascending := by
  rw [Node.Ascending, Node.toValue]
  rfl

theorem Node.ascending_tables {last : Members} {earlier : List Members} :
    (Node.tables last earlier).Ascending ↔ last.Ascending ∧ ∀ ms ∈ earlier, ms.Ascending := by
  rw [Node.Ascending, Node.toValue, ascending_array, toItems_eq]
  simp [Members.Ascending, or_imp, forall_and, and_comm]

namespace Members

theorem key_of_mem_upsert {key : String} {f : Option Node → Option Node} {e : String × Node} :
    ∀ {members members' : Members}, members.upsert key f = some members' → e ∈ members' →
      e.1 = key ∨ ∃ e' ∈ members, e'.1 = e.1
  | [], members', done, he => by
    obtain ⟨n, -, rfl⟩ := Option.map_eq_some_iff.1 done
    exact .inl (by simp_all)
  | (k, n) :: rest, members', done, he => by
    unfold upsert at done
    split_ifs at done with before here <;> obtain ⟨m, put, rfl⟩ := Option.map_eq_some_iff.1 done
    · rcases List.mem_cons.1 he with rfl | he
      · exact .inl rfl
      · exact .inr ⟨e, he, rfl⟩
    · rcases List.mem_cons.1 he with rfl | he
      · exact .inl rfl
      · exact .inr ⟨e, List.mem_cons_of_mem _ he, rfl⟩
    · rcases List.mem_cons.1 he with rfl | he
      · exact .inr ⟨_, List.mem_cons_self, rfl⟩
      · refine (key_of_mem_upsert put he).imp_right fun ⟨e', he', same⟩ => ?_
        exact ⟨e', List.mem_cons_of_mem _ he', same⟩

/-- What `f` puts in the place of a node in order, or of none, is in order. -/
def Keeps (f : Option Node → Option Node) : Prop :=
  ∀ n? n', (∀ n ∈ n?, n.Ascending) → f n? = some n' → n'.Ascending

/-- A member is put before the first one with a larger key, or in the place of the one with its own,
so the keys stay in order. -/
theorem upsert_ascending {key : String} {f : Option Node → Option Node} (keeps : Keeps f) :
    ∀ {members members' : Members}, members.Ascending → members.upsert key f = some members' →
      members'.Ascending
  | [], members', _, done => by
    obtain ⟨n, made, rfl⟩ := Option.map_eq_some_iff.1 done
    exact ascending_iff.2 ⟨by simp, by simpa using keeps none n (by simp) made⟩
  | (k, n) :: rest, members', h, done => by
    obtain ⟨⟨first, order⟩, ⟨hn, nodes⟩⟩ := by
      simpa only [ascending_iff, List.pairwise_cons, List.forall_mem_cons] using h
    unfold upsert at done
    split_ifs at done with before here <;> obtain ⟨m, put, rfl⟩ := Option.map_eq_some_iff.1 done
    · have hm := keeps none m (by simp) put
      refine ascending_iff.2 ⟨List.pairwise_cons.2 ⟨?_, (ascending_iff.1 h).1⟩,
        List.forall_mem_cons.2 ⟨hm, (ascending_iff.1 h).2⟩⟩
      exact List.forall_mem_cons.2 ⟨before, fun e he => before.trans (first e he)⟩
    · subst here
      have hm := keeps (some n) m (by simpa using hn) put
      exact ascending_iff.2 ⟨List.pairwise_cons.2 ⟨first, order⟩,
        List.forall_mem_cons.2 ⟨hm, nodes⟩⟩
    -- The rest may have the key at its front now, which lies behind `k` as the old ones do.
    · have after : k < key := lt_of_le_of_ne (not_lt.1 before) (Ne.symm here)
      have ih := upsert_ascending keeps (ascending_iff.2 ⟨order, nodes⟩) put
      refine ascending_iff.2 ⟨List.pairwise_cons.2 ⟨fun e he => ?_, (ascending_iff.1 ih).1⟩,
        List.forall_mem_cons.2 ⟨hn, (ascending_iff.1 ih).2⟩⟩
      rcases key_of_mem_upsert put he with same | ⟨e', he', same⟩
      · exact same ▸ after
      · exact same ▸ first e' he'

/-- An assignment changes one member on each level of its path and the tables in it stay in order,
those that it makes on the way too. -/
theorem assign_ascending {v : Value} (hv : v.Ascending) :
    ∀ {path : List String} {members members' : Members}, members.Ascending →
      assign v path members = some members' → members'.Ascending
  | [], _, _, _, done => by cases done
  | [key], members, members', h, done => by
    refine upsert_ascending (fun n? n' _ made => ?_) h done
    cases n? with
    | none => cases made; exact hv
    | some => cases made
  | key :: next :: path, members, members', h, done => by
    refine upsert_ascending (fun n? n' good made => ?_) h done
    have step {members inner : Members} (h : members.Ascending)
        (made : assign v (next :: path) members = some inner) : inner.Ascending :=
      assign_ascending hv h made
    split at made
    · obtain ⟨inner, put, rfl⟩ := Option.map_eq_some_iff.1 made
      exact Node.ascending_table.2 (step ascending_nil put)
    · cases made
    · cases made
    · obtain ⟨inner, put, rfl⟩ := Option.map_eq_some_iff.1 made
      exact Node.ascending_table.2 (step (Node.ascending_table.1 (good _ rfl)) put)
    · split_ifs at made
      obtain ⟨inner, put, rfl⟩ := Option.map_eq_some_iff.1 made
      exact Node.ascending_table.2 (step (Node.ascending_table.1 (good _ rfl)) put)
    · split_ifs at made
      obtain ⟨inner, put, rfl⟩ := Option.map_eq_some_iff.1 made
      obtain ⟨hlast, hearlier⟩ := Node.ascending_tables.1 (good _ rfl)
      exact Node.ascending_tables.2 ⟨step hlast put, hearlier⟩

theorem within_ascending {f : Members → Option Members}
    (keeps : ∀ {members members' : Members}, members.Ascending → f members = some members' →
      members'.Ascending) :
    ∀ {path : List String} {members members' : Members}, members.Ascending →
      within f path members = some members' → members'.Ascending
  | [], _, _, h, done => keeps h done
  | key :: path, members, members', h, done => by
    refine upsert_ascending (fun n? n' good made => ?_) h done
    split at made
    · obtain ⟨inner, put, rfl⟩ := Option.map_eq_some_iff.1 made
      exact Node.ascending_table.2 (within_ascending keeps ascending_nil put)
    · cases made
    · obtain ⟨inner, put, rfl⟩ := Option.map_eq_some_iff.1 made
      exact Node.ascending_table.2
        (within_ascending keeps (Node.ascending_table.1 (good _ rfl)) put)
    · obtain ⟨inner, put, rfl⟩ := Option.map_eq_some_iff.1 made
      obtain ⟨hlast, hearlier⟩ := Node.ascending_tables.1 (good _ rfl)
      exact Node.ascending_tables.2 ⟨within_ascending keeps hlast put, hearlier⟩

theorem openTable_ascending {key : String} {members members' : Members} (h : members.Ascending)
    (done : openTable key members = some members') : members'.Ascending := by
  refine upsert_ascending (fun n? n' good made => ?_) h done
  split at made
  · cases made
    exact Node.ascending_table.2 ascending_nil
  · cases made
    exact Node.ascending_table.2 (Node.ascending_table.1 (good _ rfl))
  · cases made

theorem openNext_ascending {key : String} {members members' : Members} (h : members.Ascending)
    (done : openNext key members = some members') : members'.Ascending := by
  refine upsert_ascending (fun n? n' good made => ?_) h done
  split at made
  · cases made
    exact Node.ascending_tables.2 ⟨ascending_nil, by simp⟩
  · cases made
    obtain ⟨hlast, hearlier⟩ := Node.ascending_tables.1 (good _ rfl)
    exact Node.ascending_tables.2 ⟨ascending_nil, List.forall_mem_cons.2 ⟨hlast, hearlier⟩⟩
  · cases made

end Members

/-! ### Readers -/

theorem decimalValue_ascending (negative : Bool) (x : Float) :
    (decimalValue negative x).Ascending := by
  unfold decimalValue
  split_ifs <;> trivial

theorem prefixed?_ascending {base : Nat} {digits : List Char} {v : Value}
    (read : prefixed? base digits = some v) : v.Ascending := by
  unfold prefixed? at read
  split_ifs at read
  · cases read
    trivial
  · obtain ⟨n, -, rfl⟩ := Option.map_eq_some_iff.1 read
    trivial

theorem integer?_ascending {cs : List Char} {v : Value} (read : integer? cs = some v) :
    v.Ascending := by
  unfold integer? at read
  split at read
  · exact prefixed?_ascending read
  · exact prefixed?_ascending read
  · exact prefixed?_ascending read
  · simp only [] at read
    split at read
    · cases read
      trivial
    · split_ifs at read
      cases read
      trivial

theorem float?_ascending {cs : List Char} {v : Value} (read : float? cs = some v) :
    v.Ascending := by
  unfold float? at read
  simp only [Option.bind_eq_bind, Option.pure_def] at read
  split at read
  · cases read
    trivial
  · split at read
    · cases read
      trivial
    · split at read
      all_goals
        obtain ⟨e, -, read⟩ := Option.bind_eq_some_iff.1 read
        obtain ⟨-, -, read⟩ := Option.bind_eq_some_iff.1 read
        split at read
        · split_ifs at read
          obtain ⟨n, -, read⟩ := Option.bind_eq_some_iff.1 read
          cases read
          apply decimalValue_ascending
        · obtain ⟨-, -, read⟩ := Option.bind_eq_some_iff.1 read
          obtain ⟨n, -, read⟩ := Option.bind_eq_some_iff.1 read
          cases read
          apply decimalValue_ascending

theorem scalarOf?_ascending {cs : List Char} {v : Value} (read : scalarOf? cs = some v) :
    v.Ascending := by
  unfold scalarOf? at read
  split at read
  · cases read
    trivial
  · split at read
    · cases read
      trivial
    · rcases (Option.orElse_eq_some _ _ _).1 read with read | ⟨-, read⟩
      · exact integer?_ascending read
      · rcases (Option.orElse_eq_some _ _ _).1 read with read | ⟨-, read⟩
        · exact float?_ascending read
        · split_ifs at read
          cases read
          trivial

/-- In what the reader gives the keys ascend. -/
def Yields (item : List Char → Option (Value × List Char)) : Prop :=
  ∀ cs v rest, item cs = some (v, rest) → v.Ascending

theorem yields_scalar : Yields scalar? := fun cs v rest read => by
  obtain ⟨v', found, same⟩ := Option.bind_eq_some_iff.1 read
  cases same
  exact scalarOf?_ascending found

theorem items?_ascending {item : List Char → Option (Value × List Char)} (yields : Yields item) :
    ∀ {rounds : Nat} {cs : List Char} {vs : List Value} {rest : List Char},
      items? item rounds cs = some (vs, rest) → ∀ v ∈ vs, v.Ascending
  | 0, _, _, _, read => by cases read
  | rounds + 1, cs, vs, rest, read => by
    simp only [items?, Option.bind_eq_bind, Option.bind_eq_some_iff] at read
    obtain ⟨cs', -, read⟩ := read
    split at read
    · cases read
      simp
    · simp only [Option.bind_eq_some_iff] at read
      obtain ⟨⟨v, rest'⟩, first, cs'', -, read⟩ := read
      split at read
      · cases read
        simpa using yields _ _ _ first
      · obtain ⟨⟨vs', rest''⟩, more, read⟩ := Option.bind_eq_some_iff.1 read
        cases read
        exact List.forall_mem_cons.2 ⟨yields _ _ _ first, items?_ascending yields more⟩
      · cases read

theorem assignment?_ascending {skip : List Char → Option (List Char)}
    {item : List Char → Option (Value × List Char)} (yields : Yields item) {cs : List Char}
    {path : List String} {v : Value} {rest : List Char}
    (read : assignment? skip item cs = some ((path, v), rest)) : v.Ascending := by
  simp only [assignment?, Option.bind_eq_bind, Option.bind_eq_some_iff] at read
  obtain ⟨⟨path', rest'⟩, -, cs', -, read⟩ := read
  split at read
  · simp only [Option.bind_eq_some_iff] at read
    obtain ⟨cs'', -, ⟨v', rest''⟩, value, read⟩ := read
    cases read
    exact yields _ _ _ value
  · cases read

theorem members?_ascending {item : List Char → Option (Value × List Char)} (yields : Yields item) :
    ∀ {rounds : Nat} {members members' : Members} {cs rest : List Char}, members.Ascending →
      members? item rounds members cs = some (members', rest) → members'.Ascending
  | 0, _, _, _, _, _, read => by cases read
  | rounds + 1, members, members', cs, rest, h, read => by
    simp only [members?, Option.bind_eq_bind, Option.bind_eq_some_iff] at read
    obtain ⟨cs', -, read⟩ := read
    split at read
    · cases read
      exact h
    · simp only [Option.bind_eq_some_iff] at read
      obtain ⟨⟨⟨path, v⟩, rest'⟩, entry, more, assigned, cs'', -, read⟩ := read
      have hmore := Members.assign_ascending (assignment?_ascending yields entry) h assigned
      split at read
      · cases read
        exact hmore
      · exact members?_ascending yields hmore read
      · cases read

theorem yields_string {cs : List Char} {v : Value} {rest : List Char}
    (read : (match string? cs with
      | some (text, rest) => some (.string text, rest)
      | none => scalar? cs) = some (v, rest)) : v.Ascending := by
  split at read
  · cases read
    trivial
  · exact yields_scalar _ _ _ read

theorem yields_value : ∀ depth : Nat, Yields (value? depth)
  | 0 => fun _ _ _ read => yields_string read
  | depth + 1 => by
    intro cs v rest read
    unfold value? at read
    split at read
    · obtain ⟨⟨items, rest'⟩, items_read, read⟩ := Option.bind_eq_some_iff.1 read
      cases read
      exact ascending_array.2 (items?_ascending (yields_value depth) items_read)
    · obtain ⟨⟨members, rest'⟩, members_read, read⟩ := Option.bind_eq_some_iff.1 read
      cases read
      exact members?_ascending (yields_value depth) Members.ascending_nil members_read
    · exact yields_string read

theorem openHeader_ascending {add : String → Members → Option Members}
    (keeps : ∀ {key : String} {members members' : Members}, members.Ascending →
      add key members = some members' → members'.Ascending)
    {path : List String} {document document' : Members} (h : document.Ascending)
    (opened : openHeader add path document = some document') : document'.Ascending := by
  obtain ⟨key, -, opened⟩ := Option.bind_eq_some_iff.1 opened
  exact Members.within_ascending keeps h opened

theorem lines?_ascending : ∀ {rounds : Nat} {path : List String} {document document' : Members}
    {cs : List Char}, document.Ascending → lines? rounds path document cs = some document' →
      document'.Ascending
  | 0, _, _, _, _, _, read => by cases read
  | rounds + 1, path, document, document', cs, h, read => by
    simp only [lines?, Option.bind_eq_bind, Option.bind_eq_some_iff] at read
    obtain ⟨cs', -, read⟩ := read
    split at read
    · cases read
      exact h
    · simp only [Option.bind_eq_some_iff] at read
      obtain ⟨_, -, opened, hopened, _, -, read⟩ := read
      exact lines?_ascending (openHeader_ascending Members.openNext_ascending h hopened) read
    · simp only [Option.bind_eq_some_iff] at read
      obtain ⟨_, -, opened, hopened, _, -, read⟩ := read
      exact lines?_ascending (openHeader_ascending Members.openTable_ascending h hopened) read
    · simp only [Option.bind_eq_some_iff] at read
      obtain ⟨⟨⟨key, v⟩, rest⟩, entry, more, assigned, _, -, read⟩ := read
      have hv := assignment?_ascending (yields_value maxDepth) entry
      have hmore := Members.within_ascending (Members.assign_ascending hv) h assigned
      exact lines?_ascending hmore read

/-- In no table of a document, however deep, a key stands twice. -/
theorem parse?_ascending {text : String} {entries : Entries} (read : parse? text = some entries) :
    (Value.table entries).Ascending := by
  obtain ⟨members, lines, same⟩ := Option.bind_eq_some_iff.1 read
  cases same
  exact lines?_ascending Members.ascending_nil lines

end Retention.Toml
