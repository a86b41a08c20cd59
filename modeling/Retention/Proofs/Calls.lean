import Retention.Proofs.World

/-!
# What calls find

Around a store a call is either made to fail or carried out on the store as the others left it
(`World.Ran.carried`), so what neither they nor the calls undo is found by every call
(`World.Ran.keeps`).

What comes before an act is told by `Preceded`; for two stretches of acts it is enough that it holds
in each of them (`Preceded.append`).
-/

namespace Retention.Cycle

open Store (DatabaseError)

section Acts

variable {σ : Type} {P Q : Request → Prop}

namespace Act

/-- The act is no call, or one with a request of this sort. -/
def Asks (P : Request → Prop) : Act σ → Prop
  | asked q .. => P q
  | _ => True

/-- The act is no call, or one that did not fail. -/
def Answered : Act σ → Prop
  | asked _ _ (.error _) _ => False
  | _ => True

theorem not_answered {q : Request} {before after : σ} {e : DatabaseError} :
    ¬ (asked q before (.error e) after).Answered := id

theorem Asks.mono {act : Act σ} (h : act.Asks P) (imp : ∀ q, P q → Q q) : act.Asks Q := by
  cases act with
  | asked q => exact imp q h
  | _ => trivial

end Act

theorem split_append {α : Type} {xs ys earlier later : List α} {x : α}
    (h : xs ++ ys = earlier ++ x :: later) :
    (∃ rest, xs = earlier ++ x :: rest ∧ later = rest ++ ys) ∨
      ∃ rest, earlier = xs ++ rest ∧ ys = rest ++ x :: later := by
  rcases List.append_eq_append_iff.1 h with ⟨rest, rfl, hrest⟩ | ⟨rest, rfl, hrest⟩
  · exact .inr ⟨rest, rfl, hrest⟩
  · rcases rest with _ | ⟨_, rest⟩
    · exact .inr ⟨[], by rw [List.append_nil, List.append_nil], hrest.symm⟩
    · rw [List.cons_append, List.cons.injEq] at hrest
      obtain ⟨rfl, rfl⟩ := hrest
      exact .inl ⟨rest, rfl, rfl⟩

theorem mem_or_last {α : Type} {earlier later first : List α} {x last : α}
    (h : first ++ [last] = earlier ++ x :: later) :
    x ∈ first ∨ earlier = first ∧ later = [] ∧ x = last := by
  rcases split_append h with ⟨rest, rfl, -⟩ | ⟨rest, rfl, hlast⟩
  · exact .inl (List.mem_append_right _ List.mem_cons_self)
  · obtain ⟨rfl, hx⟩ | ⟨_, -, ⟨⟩⟩ := List.singleton_eq_append_iff.1 hlast
    rw [List.cons.injEq] at hx
    exact .inr ⟨List.append_nil _, hx.2, hx.1⟩

/-- Each of the acts comes after others as `P` tells. -/
def Preceded (P : List (Act σ) → Act σ → Prop) (acts : List (Act σ)) : Prop :=
  ∀ earlier act later, acts = earlier ++ act :: later → P earlier act

namespace Preceded

variable {P : List (Act σ) → Act σ → Prop} {acts acts' : List (Act σ)}

theorem nil : Preceded P [] := by
  intro earlier act later h
  simp at h

/-- Where more acts before do no harm, stretches may be put together. -/
theorem append (more : ∀ first earlier act, P earlier act → P (first ++ earlier) act)
    (h : Preceded P acts) (h' : Preceded P acts') : Preceded P (acts ++ acts') := by
  intro earlier act later heq
  rcases split_append heq with ⟨rest, hacts, -⟩ | ⟨rest, rfl, hrest⟩
  · exact h earlier act rest hacts
  · exact more _ _ _ (h' rest act later hrest)

theorem of_forall (h : ∀ act ∈ acts, ∀ earlier, P earlier act) : Preceded P acts := by
  rintro earlier act later rfl
  exact h act (List.mem_append_right _ List.mem_cons_self) earlier

end Preceded

end Acts

variable {ω : Type} {around : Surroundings ω} {others : Request → ω → Store → Store}

/-- The error that a call is made to end with at this place, if it is. -/
def Surroundings.forced (around : Surroundings ω) (q : Request) (p : Place ω) :
    Option DatabaseError :=
  (around.fault q p.around).1

/-- A call was made to fail, or it was carried out. -/
def Act.Carried (around : Surroundings ω) : Act (Place ω) → Prop
  | .asked q before answer after =>
    match around.forced q before with
    | some e => answer = .error e ∧ after.store = before.store
    | none => q.perform before.store = (answer, after.store)
  | _ => True

/-- A call was not made to fail. -/
def Act.Unforced (around : Surroundings ω) : Act (Place ω) → Prop
  | .asked q before .. => around.forced q before = none
  | _ => True

/-- A call found a store of which `P` holds. -/
def Act.Finds (P : Store → Prop) : Act (Place ω) → Prop
  | .asked _ before .. => P before.store
  | _ => True

namespace World

theorem carried_ask {q : Request} {s s' : Scene (Place ω)}
    {answer : Except DatabaseError q.Answer}
    (h : (sharing around others).ask q s = (answer, s')) :
    (Act.asked q ((sharing around others).meanwhile q s.state) answer s'.state).Carried
      around := by
  cases h
  simp only [Act.Carried, Surroundings.forced, sharing]
  rcases around.fault q s.state.around with ⟨_ | e, state⟩
  · rfl
  · exact ⟨rfl, rfl⟩

theorem Ran.carried {s s' : Scene (Place ω)} {acts : List (Act (Place ω))}
    (h : (sharing around others).Ran s acts s') : ∀ act ∈ acts, act.Carried around := by
  induction h with
  | refl => simp
  | clock => simp [Act.Carried]
  | pause => simp [Act.Carried]
  | write => simp
  | ask h => exact List.forall_mem_singleton.2 (carried_ask h)
  | trans _ _ ih ih' => exact List.forall_mem_append.2 ⟨ih, ih'⟩

/-- What others and calls keep is found by each call, and is there in the end. -/
theorem Ran.keeps {P : Store → Prop} (kept : ∀ q state s, P s → P (others q state s))
    {s s' : Scene (Place ω)} {acts : List (Act (Place ω))}
    (h : (sharing around others).Ran s acts s') :
    (∀ act ∈ acts, act.Asks fun q => ∀ s, P s → P (q.perform s).2) → P s.state.store →
      (∀ act ∈ acts, act.Finds P) ∧ P s'.state.store := by
  induction h with
  | refl =>
    intro _ start
    exact ⟨by simp, start⟩
  | clock =>
    intro _ start
    exact ⟨by simp [Act.Finds], start⟩
  | pause =>
    intro _ start
    exact ⟨by simp [Act.Finds], start⟩
  | write =>
    intro _ start
    exact ⟨by simp, start⟩
  | @ask q s answer s' h =>
    intro calls start
    have found : P ((sharing around others).meanwhile q s.state).store := kept _ _ _ start
    refine ⟨List.forall_mem_singleton.2 found, ?_⟩
    have carried := carried_ask h
    rcases hf : around.forced q ((sharing around others).meanwhile q s.state) with _ | e <;>
      simp only [Act.Carried, hf] at carried
    · have := List.forall_mem_singleton.1 calls _ found
      rwa [carried] at this
    · rw [carried.2]
      exact found
  | trans _ _ ih ih' =>
    intro calls start
    obtain ⟨first, later⟩ := List.forall_mem_append.1 calls
    obtain ⟨found, between⟩ := ih first start
    obtain ⟨found', finish⟩ := ih' later between
    exact ⟨List.forall_mem_append.2 ⟨found, found'⟩, finish⟩

end World

end Retention.Cycle
