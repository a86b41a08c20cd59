import Retention.Proofs.ChunkSizes

/-!
# Faults in pruning

Each kind of lookup rows has calls of its own: one that lists the orphans, and one for each chunk of
them. Which of them are made to fail is planned for each kind by itself (`Faults`), and what comes
of a kind is told by its own plan: it gets as far as the first fault (`reachKind`), loses the chunks
before that and counts them. What was planned for other kinds makes no difference
(`prune_isolates_kinds`).

Pruning does the same wherever the scene shows the same (`View`), so a run is followed from one view
to the next (`Leads`).
-/

namespace Retention.Store

section Orphans

variable {s : Store} {kind : LookupKind}

theorem orphans_ascending : (s.orphans kind).Pairwise (· < ·) := by
  unfold orphans lookupRows
  cases s.lookups kind with
  | none => exact .nil
  | some t => exact (List.pairwise_map.2 t.ascending).filter _

theorem orphans_nodup : (s.orphans kind).Nodup := orphans_ascending.imp Int.ne_of_lt

theorem orphans_length_le : (s.orphans kind).length ≤ capacity := by
  refine Nat.le_trans (List.length_filter_le _ _) ?_
  rw [List.length_map]
  exact s.lookupRows_length_le kind

theorem mem_orphans_withoutLookups {gone : List Int} {id : Int} (h : id ∈ s.orphans kind)
    (stays : id ∉ gone) : id ∈ (s.withoutLookups kind gone).orphans kind := by
  obtain ⟨hid, unused⟩ := List.mem_filter.1 h
  obtain ⟨row, hrow, rfl⟩ := List.mem_map.1 hid
  unfold orphans
  rw [lookupRows_withoutLookups, references_withoutLookups]
  refine List.mem_filter.2 ⟨List.mem_map_of_mem (List.mem_filter.2 ⟨hrow, ?_⟩), unused⟩
  exact decide_eq_true stays

/-- As many rows have these keys as there are keys. -/
theorem length_lookupRows_without {ids : List Int} (distinct : ids.Nodup)
    (listed : ids ⊆ s.orphans kind) :
    ids.length + ((s.withoutLookups kind ids).lookupRows kind).length =
      (s.lookupRows kind).length := by
  have nodup : ((s.lookupRows kind).map (·.id)).Nodup := by
    unfold lookupRows
    cases s.lookups kind with
    | none => exact List.nodup_nil
    | some t => exact t.ids_nodup
  have same : (((s.lookupRows kind).filter (·.id ∈ ids)).map (·.id)).Perm ids := by
    refine (List.perm_ext_iff_of_nodup (nodup.sublist (List.filter_sublist.map _)) distinct).2
      fun id => ⟨fun hid => ?_, fun hid => ?_⟩
    · obtain ⟨row, hrow, rfl⟩ := List.mem_map.1 hid
      exact of_decide_eq_true (List.mem_filter.1 hrow).2
    · obtain ⟨row, hrow, rfl⟩ := List.mem_map.1 (List.mem_filter.1 (listed hid)).1
      exact List.mem_map_of_mem (List.mem_filter.2 ⟨hrow, decide_eq_true hid⟩)
  have count := same.length_eq
  have split := (s.lookupRows kind).length_eq_length_filter_add fun row => decide (row.id ∈ ids)
  rw [List.length_map] at count
  rw [lookupRows_withoutLookups]
  simp only [decide_not]
  omega

/-- A statement takes all the rows it names, if they are orphans and few enough to name. -/
theorem Complete.deleteUnreferenced_eq (all : s.Complete) {ids : List Int}
    (few : ids.length ≤ maxVariables) (distinct : ids.Nodup) (listed : ids ⊆ s.orphans kind) :
    deleteUnreferenced kind ids s = .ok (ids.length.toUInt64, s.withoutLookups kind ids) := by
  obtain ⟨k, s', h⟩ := deleteUnreferenced_answered all kind few
  obtain ⟨hs, count⟩ := deleteUnreferenced_ok h
  have unused : ids.filter (· ∉ s.references kind) = ids :=
    List.filter_eq_self.2 fun id hid => (List.mem_filter.1 (listed hid)).2
  rw [unused] at hs
  have rows := length_lookupRows_without distinct listed
  rw [hs] at count
  have hk : k.toNat = ids.length := by omega
  rw [h, hs, ← hk]
  simp

end Orphans

end Retention.Store

namespace Retention.Cycle

open Log (Record)
open Store (DatabaseError LookupKind maxVariables)

section Chunks

variable {α : Type} {size : Nat} (pos : 0 < size)

/-- The number of chunks of `n` members, the last of them perhaps shorter. -/
def chunkCount (size n : Nat) : Nat := (n + size - 1) / size

include pos

theorem chunkCount_zero : chunkCount size 0 = 0 := Nat.div_eq_of_lt (by omega)

theorem chunkCount_eq {n : Nat} (some_member : 0 < n) :
    chunkCount size n = chunkCount size (n - size) + 1 := by
  unfold chunkCount
  by_cases h : size ≤ n
  · rw [← Nat.add_div_right _ pos]
    congr 1
    omega
  · rw [Nat.div_eq_of_lt (show n - size + size - 1 < size by omega),
      Nat.div_eq_of_lt_le (m := n + size - 1) (k := 1)] <;> omega

theorem length_chunks : ∀ (rounds : Nat) {xs : List α}, xs.length ≤ rounds →
    (chunks size rounds xs).length = chunkCount size xs.length
  | 0, [], _ => (chunkCount_zero pos).symm
  | rounds + 1, [], _ => (chunkCount_zero pos).symm
  | rounds + 1, x :: xs, h => by
    have shorter : ((x :: xs).drop size).length ≤ rounds := by
      rw [List.length_drop]
      omega
    rw [chunks, List.length_cons, length_chunks rounds shorter, List.length_drop]
    · exact (chunkCount_eq pos (Nat.zero_lt_succ xs.length)).symm
    · exact List.cons_ne_nil x xs

theorem flatten_take_chunks : ∀ (rounds n : Nat) {xs : List α}, xs.length ≤ rounds →
    ((chunks size rounds xs).take n).flatten = xs.take (n * size)
  | 0, n, [], _ => by simp [chunks]
  | rounds + 1, n, [], _ => by simp [chunks]
  | rounds + 1, 0, x :: xs, _ => by simp
  | rounds + 1, n + 1, x :: xs, h => by
    have shorter : ((x :: xs).drop size).length ≤ rounds := by
      rw [List.length_drop]
      omega
    rw [chunks, List.take_succ_cons, List.flatten_cons, flatten_take_chunks rounds n shorter,
      Nat.succ_mul, Nat.add_comm, List.take_add]
    exact List.cons_ne_nil x xs

theorem length_chunksOf (xs : List α) : (chunksOf size xs).length = chunkCount size xs.length := by
  rw [chunksOf, Nat.max_eq_left pos, length_chunks pos _ (Nat.le_refl _)]

theorem flatten_take_chunksOf (n : Nat) (xs : List α) :
    ((chunksOf size xs).take n).flatten = xs.take (n * size) := by
  rw [chunksOf, Nat.max_eq_left pos, flatten_take_chunks pos _ _ (Nat.le_refl _)]

omit pos in
theorem lt_of_lt_chunkCount {n k : Nat} (h : k < chunkCount size n) : k * size < n := by
  have := Nat.mul_le_of_le_div size _ _ (show k + 1 ≤ (n + size - 1) / size from h)
  rw [Nat.succ_mul] at this
  rcases Nat.eq_zero_or_pos size with rfl | pos
  · simp [chunkCount] at h
  · omega

theorem le_chunkCount_mul (n : Nat) : n ≤ chunkCount size n * size := by
  have := Nat.lt_mul_div_succ (n + size - 1) pos
  rw [Nat.mul_add, Nat.mul_one, Nat.mul_comm] at this
  unfold chunkCount
  omega

end Chunks

/-- What the calls for each kind are made to end with, by their number. -/
abbrev Faults := LookupKind → Nat → Option DatabaseError

section Reach

variable (faults : Nat → Option DatabaseError)

/-- Of `c` calls from the `i`-th on, the number of those before the first that fails, and its
error. -/
def reach : (i c : Nat) → Nat × Option DatabaseError
  | _, 0 => (0, none)
  | i, c + 1 =>
    match faults i with
    | some e => (0, some e)
    | none => ((reach (i + 1) c).1 + 1, (reach (i + 1) c).2)

/-- How many of `c` chunks go, and the error that ends their kind; its first call lists them. -/
def reachKind (c : Nat) : Nat × Option DatabaseError :=
  match faults 0 with
  | some e => (0, some e)
  | none => reach faults 1 c

variable {faults}

theorem reach_clear : ∀ {c i : Nat}, (∀ j < c, faults (i + j) = none) →
    reach faults i c = (c, none)
  | 0, _, _ => rfl
  | c + 1, i, clear => by
    have first : faults i = none := clear 0 (Nat.zero_lt_succ c)
    have later : reach faults (i + 1) c = (c, none) := reach_clear fun j hj => by
      rw [Nat.add_assoc, Nat.add_comm 1]
      exact clear (j + 1) (Nat.succ_lt_succ hj)
    rw [reach, first, later]

theorem reach_fault : ∀ {c i j : Nat} {e : DatabaseError}, j < c →
    (∀ m < j, faults (i + m) = none) → faults (i + j) = some e → reach faults i c = (j, some e)
  | c + 1, i, 0, e, _, _, fault => by
    rw [reach, show faults i = some e from fault]
  | c + 1, i, j + 1, e, lt, clear, fault => by
    have first : faults i = none := clear 0 (Nat.zero_lt_succ j)
    have later : reach faults (i + 1) c = (j, some e) := by
      refine reach_fault (Nat.lt_of_succ_lt_succ lt) (fun m hm => ?_) ?_
      · rw [Nat.add_assoc, Nat.add_comm 1]
        exact clear (m + 1) (Nat.succ_lt_succ hm)
      · rwa [Nat.add_assoc, Nat.add_comm 1]
    rw [reach, first, later]

theorem reach_le : ∀ (i c : Nat), (reach faults i c).1 ≤ c
  | _, 0 => Nat.le_refl 0
  | i, c + 1 => by
    rw [reach]
    split
    · exact Nat.zero_le _
    · exact Nat.succ_le_succ (reach_le (i + 1) c)

theorem reachKind_clear {c : Nat} (clear : ∀ j ≤ c, faults j = none) :
    reachKind faults c = (c, none) := by
  rw [reachKind, clear 0 (Nat.zero_le c)]
  exact reach_clear fun j hj => clear (1 + j) (by omega)

theorem reachKind_unlisted {e : DatabaseError} (fault : faults 0 = some e) (c : Nat) :
    reachKind faults c = (0, some e) := by
  rw [reachKind, fault]

theorem reachKind_fault {c j : Nat} {e : DatabaseError} (pos : 0 < j) (le : j ≤ c)
    (clear : ∀ i < j, faults i = none) (fault : faults j = some e) :
    reachKind faults c = (j - 1, some e) := by
  obtain ⟨j, rfl⟩ := Nat.exists_eq_add_of_lt pos
  rw [Nat.zero_add] at le clear fault ⊢
  rw [reachKind, clear 0 (Nat.zero_lt_succ j)]
  refine reach_fault (by omega) (fun m hm => clear (1 + m) (by omega)) ?_
  rwa [Nat.add_comm]

end Reach

/-! ### Runs under a plan of faults -/

/-- What is around a store, with the calls that were made for each kind and what was logged. -/
structure Trial (ω : Type) where
  around : ω
  made : LookupKind → Nat := fun _ => 0
  log : List Record := []

def Request.kind? : Request → Option LookupKind
  | unreferencedIds kind => some kind
  | deleteUnreferenced kind _ => some kind
  | _ => none

variable {ω : Type}

/-- The surroundings in which calls fail as planned. -/
def Surroundings.failing (around : Surroundings ω) (faults : Faults) : Surroundings (Trial ω) where
  clock t := ((around.clock t.around).1, { t with around := (around.clock t.around).2 })
  now := around.now
  pause d t := ((), { t with around := (around.pause d t.around).2 })
  write record t :=
    ((), { t with around := (around.write record t.around).2, log := t.log ++ [record] })
  fault q t :=
    match q.kind? with
    | some kind =>
      (faults kind (t.made kind),
        { t with made := fun kind' => if kind' = kind then t.made kind + 1 else t.made kind' })
    | none => (none, t)

/-- What a scene shows of a run. -/
structure View where
  store : Store
  made : LookupKind → Nat
  log : List Record

namespace View

def wrote (v : View) (record : Record) : View := { v with log := v.log ++ [record] }

/-- After a call for this kind that leaves the store so. -/
def asked (v : View) (kind : LookupKind) (store : Store) : View :=
  { v with
    store
    made := fun kind' => if kind' = kind then v.made kind + 1 else v.made kind' }

end View

def Scene.view (scene : Scene (Place (Trial ω))) : View :=
  ⟨scene.state.store, scene.state.around.made, scene.state.around.log⟩

section Leads

variable {α β : Type}

/-- From any scene that shows `v` the computation leads to what `P` tells. -/
def Leads (x : StateM (Scene (Place (Trial ω))) α) (v : View) (P : α → View → Prop) : Prop :=
  ∀ scene, scene.view = v → P (x scene).1 (x scene).2.view

namespace Leads

variable {v : View}

theorem mono {x : StateM (Scene (Place (Trial ω))) α} {P Q : α → View → Prop} (h : Leads x v P)
    (imp : ∀ a v', P a v' → Q a v') : Leads x v Q :=
  fun scene shows => imp _ _ (h scene shows)

theorem pure {a : α} {P : α → View → Prop} (h : P a v) :
    Leads (Pure.pure a : StateM (Scene (Place (Trial ω))) α) v P := by
  rintro scene rfl
  exact h

theorem bind {x : StateM (Scene (Place (Trial ω))) α}
    {f : α → StateM (Scene (Place (Trial ω))) β} {P : α → View → Prop} {Q : β → View → Prop}
    (hx : Leads x v P) (hf : ∀ a v', P a v' → Leads (f a) v' Q) : Leads (x >>= f) v Q :=
  fun scene shows => hf _ _ (hx scene shows) _ rfl

section Steps

variable {around : Surroundings ω} {faults : Faults} {span : Option DataDomain}
  {Q : β → View → Prop}

theorem check_bind {guard : Guard} (unlimited : guard.maxRuntime = none)
    {f : Budget → StateM (Scene (Place (Trial ω))) β} (h : Leads (f .within) v Q) :
    Leads (((World.alone (around.failing faults)).host span).check guard >>= f) v Q := by
  intro scene shows
  have within := guard.check_of_unlimited unlimited
    ((World.alone (around.failing faults)).clock scene.state).1
  have := h (((World.alone (around.failing faults)).host span).clock scene).2 shows
  rw [← within] at this
  exact this

theorem log_bind {event : Log.Event} {f : Unit → StateM (Scene (Place (Trial ω))) β}
    (h : Leads (f ()) (v.wrote ⟨event, span⟩) Q) :
    Leads (((World.alone (around.failing faults)).host span).log event >>= f) v Q := by
  rintro scene rfl
  exact h _ rfl

variable {q : Request} {kind : LookupKind} (own : q.kind? = some kind)
include own

variable (around faults) in
theorem ask_failing (scene : Scene (Place (Trial ω))) :
    let out := (World.alone (around.failing faults)).ask q scene
    match faults kind (scene.view.made kind) with
    | some e => out.1 = .error e ∧ out.2.view = scene.view.asked kind scene.view.store
    | none => out.1 = (q.perform scene.view.store).1 ∧
      out.2.view = scene.view.asked kind (q.perform scene.view.store).2 := by
  simp only [World.ask, World.alone, World.sharing, Surroundings.failing, own]
  rcases fault : faults kind (scene.state.around.made kind) with _ | e <;>
    rw [show faults kind (scene.view.made kind) = _ from fault] <;>
    exact ⟨rfl, rfl⟩

variable {f : Except DatabaseError q.Answer → StateM (Scene (Place (Trial ω))) β}

theorem failed_bind {e : DatabaseError} (fault : faults kind (v.made kind) = some e)
    (h : Leads (f (.error e)) (v.asked kind v.store) Q) :
    Leads (((World.alone (around.failing faults)).ask q).run >>= f) v Q := by
  rintro scene rfl
  have told := ask_failing around faults own scene
  simp only [fault] at told
  have := h _ told.2
  rw [← told.1] at this
  exact this

theorem carried_bind {answer : Except DatabaseError q.Answer} {store : Store}
    (clear : faults kind (v.made kind) = none) (performed : q.perform v.store = (answer, store))
    (h : Leads (f answer) (v.asked kind store) Q) :
    Leads (((World.alone (around.failing faults)).ask q).run >>= f) v Q := by
  rintro scene rfl
  have told := ask_failing around faults own scene
  simp only [clear, performed] at told
  have := h _ told.2
  rw [← told.1] at this
  exact this

end Steps

end Leads

end Leads

/-- A chunk that is logged has no more members than were still to go. -/
def View.Fair (v : View) : Prop :=
  ∀ record ∈ v.log, ∀ kind size remaining,
    record.event = .pruningChunk kind size remaining → size ≤ remaining

theorem View.Fair.wrote {v : View} {record : Record} (h : v.Fair)
    (fair : ∀ kind size remaining,
      record.event = .pruningChunk kind size remaining → size ≤ remaining) :
    (v.wrote record).Fair := by
  intro record' hrecord
  rcases List.mem_append.1 hrecord with before | last
  · exact h record' before
  · rwa [List.mem_singleton.1 last]

/-- The step after statements that took so many rows each, and perhaps an error. -/
def StepReport.told (step : StepReport) (counts : List Nat) (error : Option DatabaseError) :
    StepReport :=
  let counted := (counts.map Nat.toUInt64).foldl record step
  error.elim counted counted.fail

theorem StepReport.told_eq (step : StepReport) {chunks : List (List Int)}
    (few : ∀ ids ∈ chunks, ids.length ≤ Store.capacity) (error : Option DatabaseError) :
    step.told (chunks.map List.length) error = { step with
      deleted := step.deleted + chunks.flatten.length.toUInt64
      statements := step.statements + chunks.length.toUInt32
      error := error.elim step.error (some ·.message) } := by
  have counts : ((chunks.map List.length).map Nat.toUInt64).map UInt64.toNat =
      chunks.map List.length := by
    rw [List.map_map, List.map_map]
    exact List.map_congr_left fun ids hids => Store.toNat_toUInt64 (few ids hids)
  rw [told, foldl_record, counts, List.length_flatten, List.length_map, List.length_map]
  cases error <;> rfl

namespace Faults

variable (faults : Faults) (size : UInt32) (s : Store) (kind : LookupKind)

/-- How many chunks of the kind go, and the error that ends it. -/
def reached : Nat × Option DatabaseError :=
  reachKind (faults kind) (chunkCount size.toNat (s.orphans kind).length)

/-- The orphans that go. -/
def gone : List Int := (s.orphans kind).take ((faults.reached size s kind).1 * size.toNat)

def step : StepReport where
  name := "prune:" ++ kind.text
  deleted := (faults.gone size s kind).length.toUInt64
  statements := (faults.reached size s kind).1.toUInt32
  error := (faults.reached size s kind).2.map (·.message)

theorem unlisted {e : DatabaseError} (fault : faults kind 0 = some e) :
    faults.gone size s kind = [] ∧ faults.step size s kind = (pruneStep kind).fail e := by
  have reached : faults.reached size s kind = (0, some e) := reachKind_unlisted fault _
  have gone : faults.gone size s kind = [] := by
    rw [Faults.gone, reached, Nat.zero_mul, List.take_zero]
  refine ⟨gone, ?_⟩
  rw [step, gone, reached]
  rfl

/-- The chunks that are reached make up what goes, and are what the step tells of. -/
theorem listed (pos : 0 < size) (clear : faults kind 0 = none) :
    let chunks := chunksOf size.toNat (s.orphans kind)
    let r := reach (faults kind) 1 chunks.length
    (chunks.take r.1).flatten = faults.gone size s kind ∧
      (pruneStep kind).told ((chunks.take r.1).map List.length) r.2 = faults.step size s kind := by
  intro chunks r
  have pos : 0 < size.toNat := pos
  have reached : faults.reached size s kind = r := by
    rw [Faults.reached, reachKind, clear, ← length_chunksOf pos]
  have gone : (chunks.take r.1).flatten = faults.gone size s kind := by
    rw [Faults.gone, reached, flatten_take_chunksOf pos]
  have short : ∀ ids ∈ chunks.take r.1, ids.length ≤ Store.capacity := by
    intro ids hids
    have := length_le_of_mem_chunksOf (List.mem_of_mem_take hids)
    have : (s.orphans kind).length ≤ Store.capacity := Store.orphans_length_le
    omega
  refine ⟨gone, ?_⟩
  rw [StepReport.told_eq _ short, gone, List.length_take, Nat.min_eq_left (reach_le _ _), step,
    reached]
  rcases r.2 with _ | e <;> simp [pruneStep, r]

end Faults

section Pruning

variable (around : Surroundings ω) (faults : Faults) (span : Option DataDomain) {guard : Guard}
  (unlimited : guard.maxRuntime = none)
include unlimited

/-- The chunks of a kind are deleted one after the other until a call meets an error. Each delete
takes just the rows that it names: their keys are orphans, and they are still orphans when the
chunks before them have gone. For the rest, the induction carries this and the number of calls made
for the kind, by which `reach` finds the error. -/
theorem pruneChunks_leads (kind : LookupKind) :
    ∀ (chunks : List (List Int)) (step : StepReport) (v : View), v.store.Complete →
      (∀ ids ∈ chunks, ids.length ≤ maxVariables) → chunks.flatten.Nodup →
      chunks.flatten ⊆ v.store.orphans kind → v.Fair →
      let world := World.alone (around.failing faults)
      Leads (pruneChunks (world.host span) world.access.lookups guard kind chunks.flatten.length
          chunks step) v fun out v' =>
        let reached := reach (faults kind) (v.made kind) chunks.length
        let gone := chunks.take reached.1
        out = (.within, step.told (gone.map List.length) reached.2) ∧
          v'.store = v.store.withoutLookups kind gone.flatten ∧
          (∀ kind' ≠ kind, v'.made kind' = v.made kind') ∧ v'.Fair
  | [], step, v, _, _, _, _, fair => by
    intro world
    rw [pruneChunks]
    exact .pure ⟨rfl, (Store.withoutLookups_nil ..).symm, fun _ _ => rfl, fair⟩
  | ids :: rest, step, v, all, few, distinct, listed, fair => by
    intro world
    rw [List.flatten_cons] at distinct listed
    obtain ⟨first, later, apart⟩ := List.nodup_append.1 distinct
    obtain ⟨few_first, few_later⟩ := List.forall_mem_cons.1 few
    have listed_first : ids ⊆ v.store.orphans kind :=
      fun id hid => listed (List.mem_append_left _ hid)
    have still_listed : rest.flatten ⊆ (v.store.withoutLookups kind ids).orphans kind :=
      fun id hid => Store.mem_orphans_withoutLookups (listed (List.mem_append_right _ hid))
        fun hfirst => apart id hfirst id hid rfl
    let logged := v.wrote ⟨.pruningChunk kind ids.length (ids :: rest).flatten.length, span⟩
    let taken := logged.asked kind (v.store.withoutLookups kind ids)
    have fair : logged.Fair := fair.wrote fun _ _ _ h => by
      cases h
      rw [List.flatten_cons, List.length_append]
      exact Nat.le_add_right ..
    have left : (ids :: rest).flatten.length - ids.length = rest.flatten.length := by
      rw [List.flatten_cons, List.length_append, Nat.add_sub_cancel_left]
    rw [pruneChunks, left]
    refine .check_bind unlimited (.log_bind ?_)
    rcases fault : faults kind (v.made kind) with _ | e
    · have performed : (Request.deleteUnreferenced kind ids).perform v.store =
          (.ok ids.length.toUInt64, v.store.withoutLookups kind ids) := by
        change ofStatement _ _ = _
        rw [ofStatement, all.deleteUnreferenced_eq few_first first listed_first]
      have next : taken.made kind = v.made kind + 1 := if_pos rfl
      have later := pruneChunks_leads kind rest (step.record ids.length.toUInt64) taken
        ((v.store.shrinks_withoutLookups kind ids).complete all) few_later later still_listed fair
      rw [next] at later
      refine .carried_bind (q := .deleteUnreferenced kind ids) rfl fault performed
        (later.mono fun out v' told => ?_)
      obtain ⟨out_eq, store_eq, others, fair⟩ := told
      rw [List.length_cons, reach, fault]
      refine ⟨out_eq, ?_, fun kind' ne => (others kind' ne).trans (if_neg ne), fair⟩
      rw [store_eq]
      exact Store.withoutLookups_withoutLookups ..
    · refine .failed_bind (q := .deleteUnreferenced kind ids) rfl fault (.log_bind (.pure ?_))
      rw [List.length_cons, reach, fault]
      refine ⟨rfl, (Store.withoutLookups_nil ..).symm, fun _ ne => if_neg ne, fair.wrote ?_⟩
      rintro _ _ _ ⟨⟩

variable {size : UInt32} (pos : 0 < size) (nameable : size.toNat ≤ maxVariables)
include pos nameable

/-- A kind that was not asked about yet is pruned as its faults have it. Its list is the first call:
if that meets an error, nothing goes; if not, the chunks of the list are next. -/
theorem pruneKind_leads (kind : LookupKind) (v : View) (all : v.store.Complete) (fair : v.Fair)
    (unasked : v.made kind = 0) :
    let world := World.alone (around.failing faults)
    Leads (pruneKind (world.host span) world.access.lookups guard size kind) v fun out v' =>
      out = (.within, faults.step size v.store kind) ∧
        v'.store = v.store.withoutLookups kind (faults.gone size v.store kind) ∧
        (∀ kind' ≠ kind, v'.made kind' = v.made kind') ∧ v'.Fair := by
  intro world
  unfold pruneKind
  rcases fault : faults kind 0 with _ | e
  · let ids := v.store.orphans kind
    let listed := (v.asked kind v.store).wrote ⟨.unreferencedFound kind ids.length, span⟩
    have performed : (Request.unreferencedIds kind).perform v.store = (.ok ids, v.store) := by
      obtain ⟨ids', s', answered⟩ := Request.answered all (.unreferencedIds kind) trivial
      obtain ⟨found, same⟩ := ofQuery_ok (f := fun s => s.unreferencedIds kind) answered
      rw [answered, same, Store.unreferencedIds_ok found]
    have next : listed.made kind = 1 := (if_pos rfl).trans (congrArg (· + 1) unasked)
    have whole : (chunksOf size.toNat ids).flatten = ids := flatten_chunksOf _ _
    have short : ∀ chunk ∈ chunksOf size.toNat ids, chunk.length ≤ maxVariables := by
      intro chunk hchunk
      have := length_le_of_mem_chunksOf hchunk
      have pos : 0 < size.toNat := pos
      omega
    have chunks := pruneChunks_leads around faults span unlimited kind (chunksOf size.toNat ids)
      (pruneStep kind) listed all short (by rw [whole]; exact Store.orphans_nodup)
      (by rw [whole]; exact List.Subset.refl _) (fair.wrote nofun)
    rw [whole, next] at chunks
    obtain ⟨gone, told⟩ := faults.listed size v.store kind pos fault
    refine .carried_bind (q := .unreferencedIds kind) rfl (unasked ▸ fault) performed
      (.log_bind (chunks.mono fun out v' ⟨out_eq, store_eq, others, fair⟩ => ?_))
    refine ⟨?_, ?_, fun kind' ne => (others kind' ne).trans (if_neg ne), fair⟩
    · rw [out_eq, ← told]
    · rw [store_eq, ← gone]
      rfl
  · obtain ⟨gone, told⟩ := faults.unlisted size v.store kind fault
    refine .failed_bind (q := .unreferencedIds kind) rfl (unasked ▸ fault) (.log_bind (.pure ?_))
    refine ⟨?_, ?_, fun kind' ne => if_neg ne, fair.wrote nofun⟩
    · rw [told]
      rfl
    · rw [gone, Store.withoutLookups_nil]
      rfl

/-- What becomes of each kind is told by the store `s` before all of them. While one is pruned, no
call is made for the others and they keep their orphans, which the induction carries for the kinds
that are left. -/
theorem pruneKinds_leads (s : Store) :
    ∀ (kinds : List LookupKind) (report : Report) (v : View), kinds.Nodup → v.store.Complete →
      v.Fair → (∀ kind ∈ kinds, v.made kind = 0 ∧ v.store.orphans kind = s.orphans kind) →
      let world := World.alone (around.failing faults)
      Leads (pruneKinds (world.host span) world.access.lookups guard size kinds report) v
        fun out v' =>
          out.1 = .within ∧ out.2.steps = report.steps ++ kinds.map (faults.step size s) ∧
          v'.store = kinds.foldl (fun s' kind => s'.withoutLookups kind (faults.gone size s kind))
            v.store ∧
          v'.Fair
  | [], report, v, _, _, fair, _ => .pure ⟨rfl, (List.append_nil _).symm, rfl, fair⟩
  | kind :: rest, report, v, distinct, all, fair, fresh => by
    intro world
    obtain ⟨hkind, distinct⟩ := List.nodup_cons.1 distinct
    obtain ⟨⟨unasked, same⟩, fresh⟩ := List.forall_mem_cons.1 fresh
    have step : faults.step size v.store kind = faults.step size s kind := by
      simp only [Faults.step, Faults.gone, Faults.reached, same]
    have gone : faults.gone size v.store kind = faults.gone size s kind := by
      simp only [Faults.gone, Faults.reached, same]
    rw [pruneKinds]
    refine .check_bind unlimited (.bind (pruneKind_leads around faults span unlimited pos nameable
      kind v all fair unasked) fun out m told => ?_)
    obtain ⟨out_eq, store_eq, others, fair⟩ := told
    rw [step] at out_eq
    rw [gone] at store_eq
    subst out_eq
    have complete : m.store.Complete := by
      rw [store_eq]
      exact (v.store.shrinks_withoutLookups kind _).complete all
    have fresh : ∀ kind' ∈ rest, m.made kind' = 0 ∧ m.store.orphans kind' = s.orphans kind' := by
      intro kind' hk
      have ne : kind' ≠ kind := fun h => hkind (h ▸ hk)
      obtain ⟨unasked, same⟩ := fresh kind' hk
      rw [others kind' ne, store_eq, Store.orphans_withoutLookups_of_ne _ _ _ ne]
      exact ⟨unasked, same⟩
    refine (pruneKinds_leads s rest _ m distinct complete fair fresh).mono fun out v' told => ?_
    obtain ⟨within, steps, store, fair⟩ := told
    refine ⟨within, ?_, ?_, fair⟩
    · rw [steps, Report.push, List.append_assoc]
      rfl
    · rw [store, store_eq]
      rfl

theorem prune_leads (report : Report) (state : ω) (s : Store) (all : s.Complete) :
    let world := World.alone (around.failing faults)
    let out := prune (world.host span) world.access.lookups guard size report
      ⟨⟨{ around := state }, s⟩, []⟩
    out.1.1 = .within ∧ out.1.2.steps = report.steps ++ LookupKind.all.map (faults.step size s) ∧
      out.2.state.store = LookupKind.all.foldl
        (fun s' kind => s'.withoutLookups kind (faults.gone size s kind)) s ∧
      out.2.view.Fair := by
  intro world out
  let start : View := ⟨s, fun _ => 0, []⟩
  have unwritten : start.Fair := fun _ hrecord => absurd hrecord List.not_mem_nil
  have begun : (start.wrote ⟨.pruningStarted, span⟩).Fair := unwritten.wrote nofun
  have pruned := pruneKinds_leads around faults span unlimited pos nameable s LookupKind.all report
    (start.wrote ⟨.pruningStarted, span⟩) (by decide) all begun fun _ _ => ⟨rfl, rfl⟩
  have led : Leads (prune (world.host span) world.access.lookups guard size report) start _ :=
    Leads.log_bind pruned
  exact led ⟨⟨{ around := state }, s⟩, []⟩ rfl

end Pruning

/-- A step for pruning that tells of so many rows and statements and of this error. -/
structure StepReport.Tells (step : StepReport) (kind : LookupKind) (rows statements : Nat)
    (error : Option DatabaseError) : Prop where
  name : step.name = "prune:" ++ kind.text
  deleted : step.deleted.toNat = rows
  statements : step.statements = statements.toUInt32
  error : step.error = error.map (·.message)

section Plans

variable {faults : Faults} {size : UInt32} {s : Store} {kind : LookupKind}

theorem Faults.tells {n : Nat} {error : Option DatabaseError}
    (reached : faults.reached size s kind = (n, error)) :
    (faults.step size s kind).Tells kind (min (n * size.toNat) (s.orphans kind).length) n error :=
  by
  have gone : faults.gone size s kind = (s.orphans kind).take (n * size.toNat) := by
    rw [Faults.gone, reached]
  refine ⟨rfl, ?_, by rw [Faults.step, reached], by rw [Faults.step, reached]⟩
  rw [Faults.step, gone, List.length_take, Store.toNat_toUInt64]
  exact Nat.le_trans (Nat.min_le_right _ _) Store.orphans_length_le

theorem Faults.whole (pos : 0 < size.toNat)
    (clear : ∀ j ≤ chunkCount size.toNat (s.orphans kind).length, faults kind j = none) :
    faults.gone size s kind = s.orphans kind ∧
      (faults.step size s kind).Tells kind (s.orphans kind).length
        (chunkCount size.toNat (s.orphans kind).length) none := by
  have reached : faults.reached size s kind = (_, none) := reachKind_clear clear
  have enough := le_chunkCount_mul pos (s.orphans kind).length
  have tells := Faults.tells reached
  rw [Nat.min_eq_right enough] at tells
  refine ⟨?_, tells⟩
  rw [Faults.gone, reached]
  exact List.take_of_length_le enough

theorem Faults.cut {j : Nat} {e : DatabaseError} (some_delete : 0 < j)
    (le : j ≤ chunkCount size.toNat (s.orphans kind).length)
    (clear : ∀ i < j, faults kind i = none) (fault : faults kind j = some e) :
    faults.gone size s kind = (s.orphans kind).take ((j - 1) * size.toNat) ∧
      (faults.step size s kind).Tells kind ((j - 1) * size.toNat) (j - 1) (some e) := by
  have reached : faults.reached size s kind = (j - 1, some e) :=
    reachKind_fault some_delete le clear fault
  have some_left : (j - 1) * size.toNat < (s.orphans kind).length := lt_of_lt_chunkCount (by omega)
  have tells := Faults.tells reached
  rw [Nat.min_eq_left (Nat.le_of_lt some_left)] at tells
  refine ⟨?_, tells⟩
  rw [Faults.gone, reached]

end Plans

/-- With all tables there, chunks that a statement can name, time without end and faults planned for
each kind: a kind without a fault loses all its orphans, one that cannot be listed loses none, and
one whose `j`-th delete is the first call that fails loses the chunks before that; its step tells
so. What is planned for the other kinds makes no difference to it. No chunk has more members than
remain, and no other table changes. -/
theorem prune_isolates_kinds (around : Surroundings ω) (span : Option DataDomain) (guard : Guard)
    (size : UInt32) (report : Report) (state : ω) (s : Store) (faults : Faults)
    (unlimited : guard.maxRuntime = none) (pos : 0 < size) (nameable : size.toNat ≤ maxVariables)
    (all : s.Complete) :
    let run (faults : Faults) :=
      let world := World.alone (around.failing faults)
      prune (world.host span) world.access.lookups guard size report
        ⟨⟨{ around := state }, s⟩, []⟩
    let out := run faults
    let left := out.2.state.store
    out.1.1 = .within ∧
    left = { s with jobType := left.jobType, jobGroup := left.jobGroup, machine := left.machine } ∧
    (∀ record ∈ out.2.state.around.log, ∀ kind chunk remaining,
      record.event = .pruningChunk kind chunk remaining → chunk ≤ remaining) ∧
    ∃ told : LookupKind → StepReport,
      out.1.2.steps = report.steps ++ LookupKind.all.map told ∧
      ∀ kind,
        let orphans := s.orphans kind
        let count := chunkCount size.toNat orphans.length
        let LeftWithout (gone : List Int) :=
          left.lookups kind = (s.lookups kind).map (·.filter (·.id ∉ gone))
        orphans.Pairwise (· < ·) ∧
        ((∀ j ≤ count, faults kind j = none) →
          LeftWithout orphans ∧ (told kind).Tells kind orphans.length count none) ∧
        (∀ e, faults kind 0 = some e →
          left.lookups kind = s.lookups kind ∧ (told kind).Tells kind 0 0 (some e)) ∧
        (∀ j e, 0 < j → j ≤ count → (∀ i < j, faults kind i = none) → faults kind j = some e →
          LeftWithout (orphans.take ((j - 1) * size.toNat)) ∧
          (told kind).Tells kind ((j - 1) * size.toNat) (j - 1) (some e)) ∧
        ∀ others : Faults, others kind = faults kind →
          ∃ told' : LookupKind → StepReport,
            (run others).1.2.steps = report.steps ++ LookupKind.all.map told' ∧
            told' kind = told kind ∧
            (run others).2.state.store.lookups kind = left.lookups kind := by
  intro run out left
  have told (faults : Faults) : (run faults).1.1 = .within ∧
      (run faults).1.2.steps = report.steps ++ LookupKind.all.map (faults.step size s) ∧
      (run faults).2.state.store = LookupKind.all.foldl
        (fun s' kind => s'.withoutLookups kind (faults.gone size s kind)) s ∧
      (run faults).2.view.Fair :=
    prune_leads around faults span unlimited pos nameable report state s all
  have lookups (faults : Faults) (kind : LookupKind) :
      (run faults).2.state.store.lookups kind =
        (s.lookups kind).map (·.filter (·.id ∉ faults.gone size s kind)) := by
    rw [(told faults).2.2.1]
    cases kind <;> rfl
  obtain ⟨within, steps, store, fair⟩ := told faults
  refine ⟨within, ?_, fair, faults.step size s, steps, fun kind => ?_⟩
  · rw [show left = _ from store]
    rfl
  intro orphans count LeftWithout
  have pos : 0 < size.toNat := pos
  have left_without {gone : List Int} (same : faults.gone size s kind = gone) :
      LeftWithout gone := by
    rw [← same]
    exact lookups faults kind
  refine ⟨Store.orphans_ascending, fun clear => ?_, fun e fault => ?_,
    fun j e some_delete le clear fault => ?_, fun others same => ?_⟩
  · obtain ⟨gone, tells⟩ := Faults.whole pos clear
    exact ⟨left_without gone, tells⟩
  · have nothing : faults.reached size s kind = (0, some e) := reachKind_unlisted fault _
    have tells := Faults.tells nothing
    rw [Nat.zero_mul, Nat.zero_min] at tells
    refine ⟨(lookups faults kind).trans ?_, tells⟩
    rw [(faults.unlisted size s kind fault).1,
      funext (Store.Table.filter_not_mem_nil Store.Lookup.id), Option.map_id_fun', id]
  · obtain ⟨gone, tells⟩ := Faults.cut some_delete le clear fault
    exact ⟨left_without gone, tells⟩
  · have reached : others.reached size s kind = faults.reached size s kind := by
      rw [Faults.reached, Faults.reached, same]
    have gone : others.gone size s kind = faults.gone size s kind := by
      rw [Faults.gone, Faults.gone, reached]
    refine ⟨others.step size s, (told others).2.1, ?_, ?_⟩
    · rw [Faults.step, Faults.step, gone, reached]
    · rw [lookups others, gone]
      exact (lookups faults kind).symm

/-- Chunks of two from five job types, two job groups and one machine without a job: the second
delete of job types fails, and so does the listing of job groups. -/
theorem prune_isolates_kinds_second_chunk :
    let seeds : List Store.Seed := [.lookups .jobType 6 none, .lookups .jobGroup 3 none,
      .lookups .machine 2 none, .jobs "1971" 1 1 1 1 1 none]
    let s := Store.Seed.sowAll .empty seeds
    let guard : Guard := ⟨0, none⟩
    let faults : Faults
      | .jobType, 2 => some (.internal "injected")
      | .jobGroup, 0 => some (.internal "injected")
      | _, _ => none
    let world := World.alone ((Surroundings.still ⟨0, 0, by decide⟩).failing faults)
    let out := prune (world.host none) world.access.lookups guard 2 ⟨.jobs, [], 0⟩
      ⟨⟨{ around := () }, s⟩, []⟩
    let left := out.2.state.store
    s.Complete ∧ out.1.2.steps.map (·.deleted.toNat) = [2, 0, 1] ∧
      (left.lookups .jobType).map (·.ids) = some [1, 4, 5, 6] ∧
      (left.lookups .jobGroup).map (·.ids) = some [1, 2, 3] ∧
      (left.lookups .machine).map (·.ids) = some [1] := by
  intro seeds s guard faults world out left
  have all : s.Complete := by
    intro name
    cases name <;> decide +kernel
  have types : s.orphans .jobType = [2, 3, 4, 5, 6] := by decide +kernel
  have machines : s.orphans .machine = [2] := by decide +kernel
  obtain ⟨-, -, -, told, steps, kinds⟩ := prune_isolates_kinds (.still ⟨0, 0, by decide⟩) none
    guard 2 ⟨.jobs, [], 0⟩ () s faults rfl (by decide) (by decide) all
  obtain ⟨-, -, -, second, -⟩ := kinds .jobType
  obtain ⟨-, -, unlisted, -⟩ := kinds .jobGroup
  obtain ⟨-, whole, -⟩ := kinds .machine
  rw [types] at second
  rw [machines] at whole
  obtain ⟨types_left, types_told⟩ := second 2 (.internal "injected") (by decide) (by decide)
    (by decide) rfl
  obtain ⟨groups_left, groups_told⟩ := unlisted (.internal "injected") rfl
  obtain ⟨machines_left, machines_told⟩ := whole (by decide)
  with_reducible refine ⟨all, ?_, ?_, ?_, ?_⟩
  · rw [steps]
    simp only [LookupKind.all, List.map_cons, List.map_nil, List.nil_append, types_told.deleted,
      groups_told.deleted, machines_told.deleted]
    rfl
  · rw [types_left]
    decide +kernel
  · rw [groups_left]
    decide +kernel
  · rw [machines_left]
    decide +kernel

end Retention.Cycle
