import Retention.Cycle.Request

/-!
# Runs in a world

What a run wants of the data it asks for, one request after the other (`Request`). A world answers
as it likes, its clock shows what it likes, and before any call it may change. A scene is the state
of such a world with all that the run did in it so far (`Act`); `World.Ran` tells how a run got
from one scene to another.

Of the worlds around a store (`World.sharing`) it is known that a call either is carried out on the
store as it is at that moment, or fails and changes nothing (`Ran.sound`). In `World.alone` nobody
but the run works on the store, so each call finds it as the one before left it (`Ran.linked`).
-/

namespace Retention.Cycle

open Log (Record)
open Store (DatabaseError LookupKind)
open Time (Duration Instant)

/-- A call on the data with its arguments. -/
inductive Request
  | repositoryId? (name : String)
  | maxIdAfter (cutoff : Instant) (scope : Option Int)
  | countAtOrBefore (cutoff : Instant) (maxId scope : Option Int) (cap : UInt32)
  | deleteBefore (cutoff : Instant) (scope : Option Int) (limit : UInt32)
  | countBefore (cutoff : Instant)
  | deleteChunkBefore (cutoff : Instant) (size : UInt32)
  | unreferencedIds (kind : LookupKind)
  | deleteUnreferenced (kind : LookupKind) (ids : List Int)
deriving DecidableEq, Repr

namespace Request

@[reducible] def Answer : Request → Type
  | repositoryId? _ => Option Int
  | maxIdAfter .. => Option Int
  | countAtOrBefore .. => UInt64
  | deleteBefore .. => UInt64
  | countBefore _ => UInt64
  | deleteChunkBefore .. => UInt64
  | unreferencedIds _ => List Int
  | deleteUnreferenced .. => UInt64

/-- What the request does to a store. -/
def perform : (q : Request) → Call Store q.Answer
  | repositoryId? name => Direct.performance.repositoryId? name
  | maxIdAfter cutoff scope => Direct.performance.maxIdAfter cutoff scope
  | countAtOrBefore cutoff maxId scope cap =>
    Direct.performance.countAtOrBefore cutoff maxId scope cap
  | deleteBefore cutoff scope limit => Direct.performance.deleteBefore cutoff scope limit
  | countBefore cutoff => Direct.jobs.countBefore cutoff
  | deleteChunkBefore cutoff size => Direct.jobs.deleteChunkBefore cutoff size
  | unreferencedIds kind => Direct.lookups.unreferencedIds kind
  | deleteUnreferenced kind ids => Direct.lookups.deleteUnreferenced kind ids

/-- Whether rows may go by the request; otherwise it only reads. -/
def deletes : Request → Bool
  | deleteBefore .. => true
  | deleteChunkBefore .. => true
  | deleteUnreferenced .. => true
  | _ => false

end Request

/-- Access to the data through whatever answers requests. -/
def DataAccess.of {σ : Type} (answer : (q : Request) → Call σ q.Answer) : DataAccess σ where
  jobs := {
    countBefore cutoff := answer (.countBefore cutoff)
    deleteChunkBefore cutoff size := answer (.deleteChunkBefore cutoff size) }
  lookups := {
    unreferencedIds kind := answer (.unreferencedIds kind)
    deleteUnreferenced kind ids := answer (.deleteUnreferenced kind ids) }
  performance := {
    repositoryId? name := answer (.repositoryId? name)
    maxIdAfter cutoff scope := answer (.maxIdAfter cutoff scope)
    countAtOrBefore cutoff maxId scope cap := answer (.countAtOrBefore cutoff maxId scope cap)
    deleteBefore cutoff scope limit := answer (.deleteBefore cutoff scope limit) }

/-- No access is lost by going through requests. -/
theorem direct_data_eq : Direct.data = .of Request.perform := rfl

/-- What a run did, and what came of it. -/
inductive Act (σ : Type)
  | looked (reading : Duration)
  | paused (d : Duration)
  /-- It made a call; the states are those right before the answer was found and right after. -/
  | asked (request : Request) (before : σ) (answer : Except DatabaseError request.Answer)
      (after : σ)

namespace Act

/-- Whether the act is a delete, carried out or not. -/
def deletes {σ : Type} : Act σ → Bool
  | asked q .. => q.deletes
  | _ => false

/-- The number of rows that a delete took, if it was carried out. -/
def deleted? {σ : Type} : Act σ → Option UInt64
  | asked (.deleteBefore ..) _ (.ok deleted) _ => some deleted
  | asked (.deleteChunkBefore ..) _ (.ok deleted) _ => some deleted
  | asked (.deleteUnreferenced ..) _ (.ok deleted) _ => some deleted
  | _ => none

end Act

structure Scene (σ : Type) where
  state : σ
  acts : List (Act σ) := []

structure World (σ : Type) where
  clock : StateM σ Duration
  now : Instant
  pause : Duration → StateM σ Unit
  write : Record → StateM σ Unit
  /-- What goes on between the call before and this one. -/
  meanwhile : Request → σ → σ
  answer : (q : Request) → Call σ q.Answer

theorem call_bind_apply {σ α β : Type} (x : Call σ α) (f : α → Call σ β) (s : σ) :
    (x >>= f) s = match x s with
      | (.ok a, s') => f a s'
      | (.error e, s') => (.error e, s') := by
  change ExceptT.bindCont f (x s).1 (x s).2 = _
  rcases x s with ⟨e | a, s'⟩ <;> rfl

namespace World

variable {σ : Type} (world : World σ)

def host (span : Option DataDomain) : Host (Scene σ) where
  clock s :=
    ((world.clock s.state).1,
      ⟨(world.clock s.state).2, s.acts ++ [.looked (world.clock s.state).1]⟩)
  now s := (world.now, s)
  pause d s := ((), ⟨(world.pause d s.state).2, s.acts ++ [.paused d]⟩)
  write record s := ((), { s with state := (world.write record s.state).2 })
  span := span

def ask (q : Request) : Call (Scene σ) q.Answer := fun s =>
  let before := world.meanwhile q s.state
  let (answer, after) := world.answer q before
  (answer, ⟨after, s.acts ++ [.asked q before answer after]⟩)

def access : DataAccess (Scene σ) := .of world.ask

/-- A run got from one scene to the other by these acts. -/
inductive Ran : Scene σ → List (Act σ) → Scene σ → Prop
  | refl (s) : Ran s [] s
  | clock (span s) : Ran s [.looked (world.clock s.state).1] ((world.host span).clock s).2
  | pause (span d s) : Ran s [.paused d] ((world.host span).pause d s).2
  | write (span record s) : Ran s [] ((world.host span).write record s).2
  | ask {q s answer s'} (h : world.ask q s = (answer, s')) :
    Ran s [.asked q (world.meanwhile q s.state) answer s'.state] s'
  | trans {s s' s'' acts acts'} (first : Ran s acts s') (second : Ran s' acts' s'') :
    Ran s (acts ++ acts') s''

variable {world}

theorem Ran.acts_eq {s s' : Scene σ} {acts : List (Act σ)} (h : world.Ran s acts s') :
    s'.acts = s.acts ++ acts := by
  induction h with
  | refl => simp
  | clock => rfl
  | pause => rfl
  | write => simp [host]
  | ask h =>
    cases h
    rfl
  | trans _ _ ih ih' => rw [ih', ih, List.append_assoc]

variable (world) in
/-- Wherever it starts, the computation does acts and comes to a result as `P` tells. -/
def Does {α : Type} (x : StateM (Scene σ) α) (P : α → List (Act σ) → Prop) : Prop :=
  ∀ s, ∃ acts, world.Ran s acts (x s).2 ∧ P (x s).1 acts

namespace Does

variable {α β : Type} {span : Option DataDomain}

theorem mono {x : StateM (Scene σ) α} {P Q : α → List (Act σ) → Prop} (h : world.Does x P)
    (imp : ∀ a acts, P a acts → Q a acts) : world.Does x Q := by
  intro s
  obtain ⟨acts, ran, hP⟩ := h s
  exact ⟨acts, ran, imp _ _ hP⟩

theorem pure {a : α} {P : α → List (Act σ) → Prop} (h : P a []) :
    world.Does (Pure.pure a : StateM (Scene σ) α) P :=
  fun s => ⟨[], .refl s, h⟩

theorem call_pure {a : α} {P : Except DatabaseError α → List (Act σ) → Prop} (h : P (.ok a) []) :
    world.Does (Pure.pure a : Call (Scene σ) α) P :=
  fun s => ⟨[], .refl s, h⟩

theorem bind {x : StateM (Scene σ) α} {f : α → StateM (Scene σ) β}
    {P : α → List (Act σ) → Prop} {Q : β → List (Act σ) → Prop} (hx : world.Does x P)
    (hf : ∀ a acts, P a acts → world.Does (f a) fun b acts' => Q b (acts ++ acts')) :
    world.Does (x >>= f) Q := by
  intro s
  obtain ⟨acts, ran, hP⟩ := hx s
  obtain ⟨acts', ran', hQ⟩ := hf _ acts hP (x s).2
  exact ⟨acts ++ acts', ran.trans ran', hQ⟩

theorem call_bind {x : Call (Scene σ) α} {f : α → Call (Scene σ) β}
    {P : Except DatabaseError α → List (Act σ) → Prop}
    {Q : Except DatabaseError β → List (Act σ) → Prop} (hx : world.Does x P)
    (he : ∀ e acts, P (.error e) acts → Q (.error e) acts)
    (hf : ∀ a acts, P (.ok a) acts → world.Does (f a) fun b acts' => Q b (acts ++ acts')) :
    world.Does (x >>= f : Call (Scene σ) β) Q := by
  intro s
  obtain ⟨acts, ran, hP⟩ := hx s
  rw [call_bind_apply]
  rcases h : x s with ⟨e | a, s'⟩ <;> rw [h] at ran hP
  · exact ⟨acts, ran, he e acts hP⟩
  · obtain ⟨acts', ran', hQ⟩ := hf a acts hP s'
    exact ⟨acts ++ acts', ran.trans ran', hQ⟩

section Steps

variable {Q : β → List (Act σ) → Prop} {R : Except DatabaseError β → List (Act σ) → Prop}

theorem clock_bind {f : Duration → StateM (Scene σ) β}
    (h : ∀ reading, world.Does (f reading) fun b acts => Q b (.looked reading :: acts)) :
    world.Does ((world.host span).clock >>= f) Q := by
  intro s
  obtain ⟨acts, ran, hQ⟩ := h _ ((world.host span).clock s).2
  exact ⟨_, .trans (.clock span s) ran, hQ⟩

theorem check_bind {guard : Guard} {f : Budget → StateM (Scene σ) β}
    (h : ∀ reading, world.Does (f (guard.check reading))
      fun b acts => Q b (.looked reading :: acts)) :
    world.Does ((world.host span).check guard >>= f) Q := by
  intro s
  obtain ⟨acts, ran, hQ⟩ := h _ ((world.host span).clock s).2
  exact ⟨_, .trans (.clock span s) ran, hQ⟩

theorem now_bind {f : Instant → StateM (Scene σ) β} (h : world.Does (f world.now) Q) :
    world.Does ((world.host span).now >>= f) Q :=
  h

/-- What is logged is no act. -/
theorem log_bind {event : Log.Event} {f : Unit → StateM (Scene σ) β} (h : world.Does (f ()) Q) :
    world.Does ((world.host span).log event >>= f) Q := by
  intro s
  obtain ⟨acts, ran, hQ⟩ := h ((world.host span).log event s).2
  exact ⟨_, .trans (.write span _ s) ran, hQ⟩

theorem pause_bind {d : Duration} {f : Unit → StateM (Scene σ) β}
    (h : world.Does (f ()) fun b acts => Q b (.paused d :: acts)) :
    world.Does ((world.host span).pause d >>= f) Q := by
  intro s
  obtain ⟨acts, ran, hQ⟩ := h ((world.host span).pause d s).2
  exact ⟨_, .trans (.pause span d s) ran, hQ⟩

theorem ask_bind {q : Request} {f : Except DatabaseError q.Answer → StateM (Scene σ) β}
    (h : ∀ answer b a, world.Does (f answer) fun out acts => Q out (.asked q b answer a :: acts)) :
    world.Does ((world.ask q).run >>= f) Q := by
  intro s
  obtain ⟨acts, ran, hQ⟩ := h _ _ _ (world.ask q s).2
  exact ⟨_, .trans (.ask rfl) ran, hQ⟩

theorem call_ask_bind {q : Request} {f : q.Answer → Call (Scene σ) β}
    (he : ∀ e b a, R (.error e) [.asked q b (.error e) a])
    (hf : ∀ k b a, world.Does (f k) fun out acts => R out (.asked q b (.ok k) a :: acts)) :
    world.Does (world.ask q >>= f : Call (Scene σ) β) R := by
  refine call_bind (P := fun answer acts => ∃ b a, acts = [.asked q b answer a])
    (fun s => ⟨_, .ask rfl, _, _, rfl⟩) ?_ fun k _ hk => ?_
  · rintro e _ ⟨b, a, rfl⟩
    exact he e b a
  · obtain ⟨b, a, rfl⟩ := hk
    exact hf k b a

theorem call_log_bind {event : Log.Event} {f : Unit → Call (Scene σ) β}
    (h : world.Does (f ()) R) :
    world.Does (liftM ((world.host span).log event) >>= f : Call (Scene σ) β) R := by
  intro s
  obtain ⟨acts, ran, hR⟩ := h ((world.host span).log event s).2
  exact ⟨_, .trans (.write span _ s) ran, hR⟩

end Steps

end Does

end World

/-- A store and all that is around it. -/
structure Place (ω : Type) where
  around : ω
  store : Store

/-- What a run meets besides the store. -/
structure Surroundings (ω : Type) where
  clock : StateM ω Duration
  now : Instant
  pause : Duration → StateM ω Unit
  write : Record → StateM ω Unit
  /-- The error that a call ends with instead of being carried out. -/
  fault : Request → StateM ω (Option DatabaseError)

/-- No time passes and no call fails. -/
def Surroundings.still (now : Instant) : Surroundings Unit where
  clock := pure 0
  now := now
  pause _ := pure ()
  write _ := pure ()
  fault _ := pure none

namespace World

variable {ω : Type}

/-- A world around a store, with others in it who change the store before calls. -/
def sharing (around : Surroundings ω) (others : Request → ω → Store → Store) :
    World (Place ω) where
  clock p := ((around.clock p.around).1, { p with around := (around.clock p.around).2 })
  now := around.now
  pause d p := ((), { p with around := (around.pause d p.around).2 })
  write record p := ((), { p with around := (around.write record p.around).2 })
  meanwhile q p := { p with store := others q p.around p.store }
  answer q p :=
    match around.fault q p.around with
    | (some e, state) => (.error e, ⟨state, p.store⟩)
    | (none, state) => ((q.perform p.store).1, ⟨state, (q.perform p.store).2⟩)

/-- A world around a store that nobody else works on. -/
def alone (around : Surroundings ω) : World (Place ω) :=
  sharing around fun _ _ store => store

end World

section Operations

variable {α : Type} {s s' : Store} {a : α}

theorem ofStatement_ok {f : Store.Statement α} (h : ofStatement f s = (.ok a, s')) :
    f s = .ok (a, s') := by
  unfold ofStatement at h
  split at h <;> cases h
  assumption

theorem ofQuery_ok {f : Store → Except DatabaseError α} (h : ofQuery f s = (.ok a, s')) :
    f s = .ok a ∧ s' = s := by
  obtain ⟨hf, hs⟩ := Prod.mk.inj h
  exact ⟨hf, hs.symm⟩

end Operations

section Stores

variable {ω : Type}

/-- The call was carried out on the store as it was, or it failed and changed nothing. -/
def Act.Sound : Act (Place ω) → Prop
  | .asked q before (.ok a) after => q.perform before.store = (.ok a, after.store)
  | .asked _ before (.error _) after => after.store = before.store
  | _ => True

/-- Acts that lead from one store to the other with nobody else at work: each call finds the store
as the call before left it. -/
def Linked : Store → List (Act (Place ω)) → Store → Prop
  | s, [], s' => s' = s
  | s, .looked _ :: acts, s' => Linked s acts s'
  | s, .paused _ :: acts, s' => Linked s acts s'
  | s, .asked q before answer after :: acts, s' =>
    before.store = s ∧ (Act.asked q before answer after).Sound ∧ Linked after.store acts s'

theorem linked_append :
    ∀ (acts acts' : List (Act (Place ω))) {s s' : Store},
      Linked s (acts ++ acts') s' ↔ ∃ m, Linked s acts m ∧ Linked m acts' s'
  | [], _, s, s' => by simp [Linked]
  | .looked _ :: acts, acts', s, s' => by
    simp only [List.cons_append, Linked]
    exact linked_append acts acts'
  | .paused _ :: acts, acts', s, s' => by
    simp only [List.cons_append, Linked]
    exact linked_append acts acts'
  | .asked .. :: acts, acts', s, s' => by
    simp only [List.cons_append, Linked, linked_append acts]
    constructor
    · rintro ⟨h, hs, m, h', h''⟩
      exact ⟨m, ⟨h, hs, h'⟩, h''⟩
    · rintro ⟨m, ⟨h, hs, h'⟩, h''⟩
      exact ⟨h, hs, m, h', h''⟩

theorem Request.perform_snd {q : Request} (hq : q.deletes = false) (s : Store) :
    (q.perform s).2 = s := by
  cases q <;> first | rfl | cases hq

theorem Act.Sound.unchanged {q : Request} {before after : Place ω}
    {answer : Except DatabaseError q.Answer} (h : (Act.asked q before answer after).Sound)
    (hq : q.deletes = false) : after.store = before.store := by
  rcases answer with e | a
  · exact h
  · rw [← Request.perform_snd hq before.store, show q.perform before.store = _ from h]

theorem linked_unchanged :
    ∀ {acts : List (Act (Place ω))} {s s' : Store}, Linked s acts s' →
      (∀ act ∈ acts, act.deletes = false) → s' = s
  | [], _, _, h, _ => h
  | .looked _ :: _, _, _, h, reads => by
    rw [Linked] at h
    exact linked_unchanged h (List.forall_mem_cons.1 reads).2
  | .paused _ :: _, _, _, h, reads => by
    rw [Linked] at h
    exact linked_unchanged h (List.forall_mem_cons.1 reads).2
  | .asked q .. :: acts, _, _, ⟨h, sound, next⟩, reads => by
    obtain ⟨hq, later⟩ := List.forall_mem_cons.1 reads
    rw [linked_unchanged next later, sound.unchanged hq, h]

theorem Request.perform_error (q : Request) {s s' : Store} {e : DatabaseError}
    (h : q.perform s = (.error e, s')) : s' = s := by
  have statement {α : Type} {f : Store.Statement α} (h : ofStatement f s = (.error e, s')) :
      s' = s := by
    unfold ofStatement at h
    split at h <;> cases h
    rfl
  cases q with
  | deleteBefore => exact statement h
  | deleteChunkBefore => exact statement h
  | deleteUnreferenced => exact statement h
  | _ => exact (Prod.mk.inj h).2.symm

namespace World

variable {around : Surroundings ω} {others : Request → ω → Store → Store}

variable (others) in
theorem sound_answer (q : Request) (p : Place ω) :
    (Act.asked q p ((sharing around others).answer q p).1
      ((sharing around others).answer q p).2).Sound := by
  simp only [sharing]
  rcases around.fault q p.around with ⟨_ | e, state⟩
  · rcases hq : q.perform p.store with ⟨e | a, store⟩
    · exact q.perform_error hq
    · exact hq
  · rfl

theorem sound_ask {q : Request} {s s' : Scene (Place ω)} {answer : Except DatabaseError q.Answer}
    (h : (sharing around others).ask q s = (answer, s')) :
    (Act.asked q ((sharing around others).meanwhile q s.state) answer s'.state).Sound := by
  cases h
  exact sound_answer others q _

/-- Whatever the others do, every call is carried out as a whole or not at all. -/
theorem Ran.sound {s s' : Scene (Place ω)} {acts : List (Act (Place ω))}
    (h : (sharing around others).Ran s acts s') : ∀ act ∈ acts, act.Sound := by
  induction h with
  | refl => simp
  | clock => simp [Act.Sound]
  | pause => simp [Act.Sound]
  | write => simp
  | ask h => simpa using sound_ask h
  | trans _ _ ih ih' =>
    intro act hact
    rcases List.mem_append.1 hact with hact | hact
    · exact ih act hact
    · exact ih' act hact

theorem Ran.linked {s s' : Scene (Place ω)} {acts : List (Act (Place ω))}
    (h : (alone around).Ran s acts s') : Linked s.state.store acts s'.state.store := by
  induction h with
  | refl => rfl
  | clock => rfl
  | pause => rfl
  | write => rfl
  | ask h => exact ⟨rfl, sound_ask h, rfl⟩
  | trans _ _ ih ih' => exact (linked_append _ _).2 ⟨_, ih, ih'⟩

end World

end Stores

end Retention.Cycle
