import Retention.Proofs.Answers
import Retention.Proofs.Completion
import Retention.Proofs.Growth

/-!
# Pruning among others

The rows of a kind are listed once and deleted later, so a statement acts on what may be out of
date: others may have given a listed row a job, or taken it away. Each statement still takes exactly
those of the rows it names that no job points at when it is carried out, and names only rows of the
last listing; and where nothing stops pruning, each listed row is named (`prune_spares_referenced`).
-/

namespace Retention.Cycle

open Store (DatabaseError LookupKind)

theorem length_le_of_mem_chunks {α : Type} {size : Nat} :
    ∀ (rounds : Nat) {xs chunk : List α}, chunk ∈ chunks size rounds xs → chunk.length ≤ size
  | 0, _, _, h => by simp [chunks] at h
  | _ + 1, [], _, h => by simp [chunks] at h
  | rounds + 1, x :: xs, chunk, h => by
    rw [chunks, List.mem_cons] at h
    · rcases h with rfl | h
      · rw [List.length_take]
        omega
      · exact length_le_of_mem_chunks rounds h
    · exact List.cons_ne_nil x xs

section Courses

variable {σ : Type} {guard : Guard} {kind : LookupKind} {chunkSize : UInt32} {acts : List (Act σ)}

/-- A call of pruning: it lists a kind, or names as many rows as fit into a chunk. -/
def PruneRequest (chunkSize : UInt32) : Request → Prop
  | .unreferencedIds _ => True
  | .deleteUnreferenced _ ids => ids.length ≤ max chunkSize.toNat 1
  | _ => False

/-- The last listing before was of this kind and gave these keys. -/
def ListedLast (kind : LookupKind) (listed : List Int) (acts : List (Act σ)) : Prop :=
  ∃ first before after later,
    acts = first ++ .asked (.unreferencedIds kind) before (.ok listed) after :: later ∧
      ∀ act ∈ later, act.Asks fun q => ∀ kind', q ≠ .unreferencedIds kind'

/-- A prune statement names a chunk of the last listing. -/
def NamesListed (chunkSize : UInt32) (earlier : List (Act σ)) : Act σ → Prop
  | .asked (.deleteUnreferenced kind ids) .. =>
    ∃ listed, ListedLast kind listed earlier ∧ ids ∈ chunksOf chunkSize.toNat listed
  | _ => True

theorem NamesListed.more (first earlier : List (Act σ)) (act : Act σ)
    (h : NamesListed chunkSize earlier act) : NamesListed chunkSize (first ++ earlier) act := by
  unfold NamesListed at h ⊢
  split at h
  · obtain ⟨listed, ⟨start, before, after, later, rfl, unlisted⟩, hchunk⟩ := h
    exact ⟨listed, ⟨first ++ start, before, after, later, by simp, unlisted⟩, hchunk⟩
  · trivial

theorem ChunksPruned.asks {chunks : List (List Int)} {step : StepReport}
    {out : Budget × StepReport} (h : ChunksPruned guard kind chunks step out acts) :
    ∀ act ∈ acts, act.Asks fun q => ∃ ids ∈ chunks, q = .deleteUnreferenced kind ids := by
  induction h with
  | done => simp
  | tripped => simp [Act.Asks]
  | failed => simp [Act.Asks]
  | next _ _ ih =>
    refine List.forall_mem_cons.2 ⟨trivial, List.forall_mem_cons.2
      ⟨⟨_, List.mem_cons_self, rfl⟩, fun act hact => (ih act hact).mono fun q h => ?_⟩⟩
    obtain ⟨ids, hids, rfl⟩ := h
    exact ⟨ids, List.mem_cons_of_mem _ hids, rfl⟩

theorem ChunksPruned.runs_all {chunks : List (List Int)} {step : StepReport}
    {out : Budget × StepReport} (h : ChunksPruned guard kind chunks step out acts) :
    Smooth guard acts → ∀ ids ∈ chunks, ∃ before k after,
      .asked (.deleteUnreferenced kind ids) before (.ok k) after ∈ acts := by
  induction h with
  | done => simp
  | tripped check => exact fun smooth => nomatch (Orderly.trip check).unstopped smooth.kept
  | failed => exact fun smooth => absurd List.mem_cons_self smooth.tail.no_error
  | @next ids rest step reading k b a out later _ _ ih =>
    intro smooth ids' hids
    rcases List.mem_cons.1 hids with rfl | hids
    · exact ⟨b, k, a, by simp⟩
    · obtain ⟨before, k, after, hact⟩ := ih smooth.tail.tail ids' hids
      exact ⟨before, k, after, by simp [hact]⟩

/-- The list of a kind is its first call and is asked for once; each delete behind it names a chunk
of it. -/
theorem KindPruned.names {out : Budget × StepReport}
    (h : KindPruned guard chunkSize kind out acts) : Preceded (NamesListed chunkSize) acts := by
  cases h with
  | unlisted =>
    exact .of_forall fun act hact _ => by
      cases List.mem_singleton.1 hact
      trivial
  | @listed listed b a _ later chunks =>
    have asks := chunks.asks
    intro earlier act after heq
    rcases earlier with _ | ⟨first, earlier⟩
    · rw [List.nil_append, List.cons.injEq] at heq
      obtain ⟨rfl, -⟩ := heq
      trivial
    · rw [List.cons_append, List.cons.injEq] at heq
      obtain ⟨rfl, rfl⟩ := heq
      have named := asks act (List.mem_append_right _ List.mem_cons_self)
      cases act with
      | asked q =>
        obtain ⟨ids, hids, rfl⟩ := named
        refine ⟨listed, ⟨[], b, a, earlier, rfl, fun act hact => ?_⟩, hids⟩
        refine (asks act (List.mem_append_left _ hact)).mono fun q hq kind' => ?_
        obtain ⟨_, -, rfl⟩ := hq
        exact nofun
      | _ => trivial

theorem KindsPruned.names {kinds : List LookupKind} {report : Report} {out : Budget × Report}
    (h : KindsPruned guard chunkSize kinds report out acts) :
    Preceded (NamesListed chunkSize) acts := by
  have look (reading : Time.Duration) :
      Preceded (NamesListed chunkSize) ([.looked reading] : List (Act σ)) :=
    .of_forall fun act hact _ => by
      cases List.mem_singleton.1 hact
      trivial
  induction h with
  | done => exact .nil
  | tripped => exact look _
  | exceeded _ pruned => exact (look _).append NamesListed.more pruned.names
  | next _ pruned _ ih =>
    exact (look _).append NamesListed.more (pruned.names.append NamesListed.more ih)

theorem KindPruned.asks {out : Budget × StepReport}
    (h : KindPruned guard chunkSize kind out acts) :
    ∀ act ∈ acts, act.Asks (PruneRequest chunkSize) := by
  cases h with
  | unlisted => simp [Act.Asks, PruneRequest]
  | listed chunks =>
    refine List.forall_mem_cons.2 ⟨trivial, fun act hact => ?_⟩
    refine (chunks.asks act hact).mono fun q hq => ?_
    obtain ⟨ids, hids, rfl⟩ := hq
    exact length_le_of_mem_chunks _ hids

theorem KindsPruned.asks {kinds : List LookupKind} {report : Report} {out : Budget × Report}
    (h : KindsPruned guard chunkSize kinds report out acts) :
    ∀ act ∈ acts, act.Asks (PruneRequest chunkSize) := by
  induction h with
  | done => simp
  | tripped => simp [Act.Asks]
  | exceeded _ pruned => exact List.forall_mem_cons.2 ⟨trivial, pruned.asks⟩
  | next _ pruned _ ih =>
    exact List.forall_mem_cons.2 ⟨trivial, List.forall_mem_append.2 ⟨pruned.asks, ih⟩⟩

/-- Where all goes smoothly, a kind is listed and all it listed is named. -/
theorem KindPruned.runs_all {out : Budget × StepReport}
    (h : KindPruned guard chunkSize kind out acts) (smooth : Smooth guard acts) :
    ∃ before listed after later,
      acts = .asked (.unreferencedIds kind) before (.ok listed) after :: later ∧
        ∀ id ∈ listed, ∃ ids before k after, id ∈ ids ∧
          .asked (.deleteUnreferenced kind ids) before (.ok k) after ∈ later := by
  cases h with
  | unlisted => exact absurd List.mem_cons_self smooth.no_error
  | @listed listed b a _ later chunks =>
    refine ⟨b, listed, a, later, rfl, fun id hid => ?_⟩
    rw [← flatten_chunksOf chunkSize.toNat listed] at hid
    obtain ⟨ids, hids, hmem⟩ := List.mem_flatten.1 hid
    obtain ⟨before, k, after, hact⟩ := chunks.runs_all smooth.tail ids hids
    exact ⟨ids, before, k, after, hmem, hact⟩

theorem KindsPruned.runs_all {kinds : List LookupKind} {report : Report} {out : Budget × Report}
    (h : KindsPruned guard chunkSize kinds report out acts) :
    Smooth guard acts → ∀ kind ∈ kinds, ∃ earlier before listed after later,
      acts = earlier ++ .asked (.unreferencedIds kind) before (.ok listed) after :: later ∧
        ∀ id ∈ listed, ∃ ids before k after, id ∈ ids ∧
          .asked (.deleteUnreferenced kind ids) before (.ok k) after ∈ later := by
  induction h with
  | done => simp
  | tripped check => exact fun smooth => nomatch (Orderly.trip check).unstopped smooth.kept
  | exceeded _ pruned => exact fun smooth => nomatch pruned.orderly.unstopped smooth.tail.kept
  | @next kind rest report reading step acts out later _ pruned _ ih =>
    intro smooth kind' hkind
    rcases List.mem_cons.1 hkind with rfl | hkind
    · obtain ⟨before, listed, after, rest, rfl, all⟩ := pruned.runs_all smooth.tail.left
      refine ⟨[.looked reading], before, listed, after, rest ++ later, rfl, fun id hid => ?_⟩
      obtain ⟨ids, b, k, a, hmem, hact⟩ := all id hid
      exact ⟨ids, b, k, a, hmem, List.mem_append_left _ hact⟩
    · obtain ⟨earlier, before, listed, after, rest, rfl, all⟩ := ih smooth.tail.right kind' hkind
      exact ⟨.looked reading :: (acts ++ earlier), before, listed, after, rest, by simp, all⟩

end Courses

variable {ω : Type}

theorem PruneRequest.fits {chunkSize : UInt32} (few : chunkSize.toNat ≤ Store.maxVariables)
    {q : Request} (h : PruneRequest chunkSize q) (s : Store) : q.Fits s := by
  have one : 1 ≤ Store.maxVariables := by decide
  cases q with
  | deleteUnreferenced kind ids =>
    have : ids.length ≤ max chunkSize.toNat 1 := h
    change ids.length ≤ Store.maxVariables
    omega
  | deleteChunkBefore => exact h.elim
  | _ => trivial

theorem prune_takes_unused {kind : LookupKind} {ids : List Int} {k : UInt64}
    {before after : Place ω} {id : Int}
    (h : (Act.asked (.deleteUnreferenced kind ids) before (.ok k) after).Sound)
    (named : id ∈ ids) (unused : id ∉ before.store.references kind) :
    id ∉ (after.store.lookupRows kind).map (·.id) := by
  rw [(prune_takes h).1, Store.lookupRows_withoutLookups]
  intro there
  obtain ⟨row, hrow, rfl⟩ := List.mem_map.1 there
  have spared := of_decide_eq_true (List.mem_filter.1 hrow).2
  exact spared (List.mem_filter.2 ⟨named, decide_eq_true unused⟩)

/-- Others may do to the store what they like between two calls, as long as they drop no table. A
prune statement names only rows that the listing at the start of its kind gave, and takes exactly
those of them that no job points at when it is carried out; it does not fail unless it is made to.
If no call is made to fail and the budget is kept, every kind is listed and every listed row is
named by a statement, so it goes unless a job points at it then. -/
theorem prune_spares_referenced (around : Surroundings ω) (others : Request → ω → Store → Store)
    (present : ∀ q state s, s.Complete → (others q state s).Complete) (span : Option DataDomain)
    (guard : Guard) (chunkSize : UInt32) (few : chunkSize.toNat ≤ Store.maxVariables)
    (report : Report) (state : ω) (s : Store) (complete : s.Complete) :
    let world := World.sharing around others
    let acts := (prune (world.host span) world.access.lookups guard chunkSize report
      ⟨⟨state, s⟩, []⟩).2.acts
    (∀ earlier kind ids before answer after later,
      acts = earlier ++ .asked (.deleteUnreferenced kind ids) before answer after :: later →
        (∃ listed, ListedLast kind listed earlier ∧ ids ⊆ listed) ∧
        (∀ k, answer = .ok k → after.store =
          before.store.withoutLookups kind (ids.filter (· ∉ before.store.references kind))) ∧
        ∀ e, answer = .error e →
          around.forced (.deleteUnreferenced kind ids) before = some e ∧
            after.store = before.store) ∧
      ((∀ act ∈ acts, act.Unforced around) → Kept guard acts → ∀ kind,
        ∃ earlier before listed after later,
          acts = earlier ++ .asked (.unreferencedIds kind) before (.ok listed) after :: later ∧
            ∀ id ∈ listed, ∃ ids before k after, id ∈ ids ∧
              .asked (.deleteUnreferenced kind ids) before (.ok k) after ∈ later ∧
              (id ∉ before.store.references kind →
                id ∉ (after.store.lookupRows kind).map (·.id))) := by
  intro world acts
  have does : world.Does (prune (world.host span) world.access.lookups guard chunkSize report)
      (KindsPruned guard chunkSize LookupKind.all report) := prune_course chunkSize report
  obtain ⟨acts', ran, course⟩ := does ⟨⟨state, s⟩, []⟩
  have hacts : acts = acts' := ran.acts_eq
  rw [hacts]
  have fits : ∀ act ∈ acts', act.Fits :=
    ran.fits present (fun act hact => (course.asks act hact).mono fun q call s all =>
      ⟨all, call.fits few s, (q.effect s).shrinks.complete all⟩) complete
  constructor
  · intro earlier kind ids before answer after later heq
    have hact : .asked (.deleteUnreferenced kind ids) before answer after ∈ acts' := by
      rw [heq]
      exact List.mem_append_right _ List.mem_cons_self
    obtain ⟨listed, last, hchunk⟩ := course.names _ _ _ heq
    refine ⟨⟨listed, last, fun id hid => ?_⟩, ?_, ?_⟩
    · rw [← flatten_chunksOf chunkSize.toNat listed]
      exact List.mem_flatten.2 ⟨ids, hchunk, hid⟩
    · rintro k rfl
      exact (prune_takes (ran.sound _ hact)).1
    · rintro e rfl
      exact (ran.carried _ hact).forced (fits _ hact)
  · intro unforced kept kind
    have answered : ∀ act ∈ acts', act.Answered := fun act hact =>
      (ran.carried act hact).answered (unforced act hact) (fits act hact)
    obtain ⟨earlier, before, listed, after, later, heq, all⟩ :=
      course.runs_all ⟨answered, kept⟩ kind (by cases kind <;> decide)
    refine ⟨earlier, before, listed, after, later, heq, fun id hid => ?_⟩
    obtain ⟨ids, b, k, a, hmem, hact⟩ := all id hid
    have within : .asked (.deleteUnreferenced kind ids) b (.ok k) a ∈ acts' := by
      rw [heq]
      exact List.mem_append_right _ (List.mem_cons_of_mem _ hact)
    exact ⟨ids, b, k, a, hmem, hact, prune_takes_unused (ran.sound _ within) hmem⟩

/-- A job type that is given a job after it was listed stays; those listed with it go. -/
theorem prune_spares_referenced_since :
    let types : Store.Table Store.Lookup := ⟨[⟨1⟩, ⟨2⟩, ⟨3⟩], by decide, by decide⟩
    let one : Store.Table Store.Lookup := ⟨[⟨1⟩], by decide, by decide⟩
    let s : Store := { jobType := types, jobGroup := one, machine := one }
    let others : Request → Unit → Store → Store := fun q _ s =>
      match q with
      | .deleteUnreferenced .jobType _ => (s.insertJobs "1971" 2 1 1 (some 1) 1).store
      | _ => s
    let around := Surroundings.still ⟨0, 0, by decide⟩
    let world := World.sharing around others
    let out := prune (world.host none) world.access.lookups ⟨0, none⟩ 2 ⟨.jobs, [], 0⟩ ⟨⟨(), s⟩, []⟩
    (∀ q state s, s.Complete → (others q state s).Complete) ∧ s.Complete ∧
      (∀ act ∈ out.2.acts, act.Unforced around) ∧ Kept ⟨0, none⟩ out.2.acts ∧
      (∃ earlier before listed after later, out.2.acts =
          earlier ++ .asked (.unreferencedIds .jobType) before (.ok listed) after :: later ∧
        ∀ id ∈ listed, ∃ ids before k after, id ∈ ids ∧
          .asked (.deleteUnreferenced .jobType ids) before (.ok k) after ∈ later ∧
          (id ∉ before.store.references .jobType →
            id ∉ (after.store.lookupRows .jobType).map (·.id))) ∧
      out.2.state.store.ids .jobType = some [2] := by
  intro types one s others around world out
  have present : ∀ q state s, s.Complete → (others q state s).Complete := by
    intro q state s all
    simp only [others]
    split
    · exact (Store.insertJobs_grows ..).complete all
    · exact all
  have complete : s.Complete := fun name => by cases name <;> rfl
  have unforced : ∀ act ∈ out.2.acts, act.Unforced around := by
    intro act _
    cases act <;> first | rfl | trivial
  have kept : Kept ⟨0, none⟩ out.2.acts := fun _ _ => rfl
  have h := (prune_spares_referenced around others present none ⟨0, none⟩ 2 (by decide)
    ⟨.jobs, [], 0⟩ () s complete).2
  -- both sides name the same run; comparing them must not carry it out
  with_reducible have listed := h unforced kept .jobType
  with_reducible refine ⟨present, complete, unforced, kept, listed, ?_⟩
  decide +kernel

end Retention.Cycle
