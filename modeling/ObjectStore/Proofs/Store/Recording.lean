import ObjectStore.Store.Engine

/-!
# Recorded calls

What a procedure asks of a store is seen by giving it a store that answers as the given one does and writes down every call with its answer. The procedure cannot tell the two apart: it comes to the same result in the same state, and its calls have been written down in their order.
-/

namespace ObjectStore

inductive StoreCall where
  | query (deadline : Deadline) (sql : String)
  | execute (deadline : Deadline) (sql : String)
  | batch (deadline : Deadline) (sql : String)
  | hasTable (deadline : Deadline) (table : String)
  | openTransaction (deadline : Deadline)
  | commit (deadline : Deadline)
  | rollback

/-- What a store answers a call with, if it does not fail. -/
abbrev StoreCall.Answer : StoreCall → Type
  | query _ _ => List Row
  | execute _ _ => Nat
  | batch _ _ => Unit
  | hasTable _ _ => Bool
  | openTransaction _ => Unit
  | commit _ => Unit
  | rollback => Unit

/-- The statement that a call sends. -/
def StoreCall.statement : StoreCall → String
  | query _ sql => sql
  | execute _ sql => sql
  | batch _ sql => sql
  | hasTable _ _ => tableQuestion
  | openTransaction _ => "BEGIN"
  | commit _ => "COMMIT"
  | rollback => "ROLLBACK"

/-- The deadline that a call is bound to. -/
def StoreCall.deadline? : StoreCall → Option Deadline
  | query deadline _ => some deadline
  | execute deadline _ => some deadline
  | batch deadline _ => some deadline
  | hasTable deadline _ => some deadline
  | openTransaction deadline => some deadline
  | commit deadline => some deadline
  | rollback => none

/-- A call with the answer that it was given. -/
structure Exchange where
  call : StoreCall
  answer : Except StoreError call.Answer

/-- The state of a store, and the exchanges with it so far. -/
structure Recorded (σ : Type) where
  state : σ
  exchanges : List Exchange

variable {σ α : Type}

/-- The world in which exchanges have been written down. -/
def World.recorded (world : World σ) (exchanges : List Exchange) : World (Recorded σ) :=
  ⟨world.clock, world.state, exchanges⟩

namespace Store

def call (store : Store σ) : (c : StoreCall) → Call σ c.Answer
  | .query deadline sql => store.query deadline sql
  | .execute deadline sql => store.execute deadline sql
  | .batch deadline sql => store.batch deadline sql
  | .hasTable deadline table => store.hasTable deadline table
  | .openTransaction deadline => store.openTransaction deadline
  | .commit deadline => store.commit deadline
  | .rollback => store.rollback

/-- Makes a call and writes it down with its answer. -/
def record (store : Store σ) (c : StoreCall) : Call (Recorded σ) c.Answer := fun world =>
  let (answer, after) := store.call c ⟨world.clock, world.state.state⟩
  (answer, after.recorded (world.state.exchanges ++ [⟨c, answer⟩]))

/-- The store that writes down its calls. -/
def recording (store : Store σ) : Store (Recorded σ) where
  query deadline sql := store.record (.query deadline sql)
  execute deadline sql := store.record (.execute deadline sql)
  batch deadline sql := store.record (.batch deadline sql)
  hasTable deadline table := store.record (.hasTable deadline table)
  openTransaction deadline := store.record (.openTransaction deadline)
  commit deadline := store.record (.commit deadline)
  rollback := store.record .rollback

/-- The exchanges lead from one world to another. -/
inductive Leads (store : Store σ) : World σ → List Exchange → World σ → Prop where
  | nil (world : World σ) : store.Leads world [] world
  | cons {world next after : World σ} {c : StoreCall} {answer : Except StoreError c.Answer} {exchanges : List Exchange}
      (h : store.call c world = (answer, next)) (hrest : store.Leads next exchanges after) :
      store.Leads world (⟨c, answer⟩ :: exchanges) after

variable {store : Store σ}

theorem leads_singleton {world after : World σ} {c : StoreCall} {answer : Except StoreError c.Answer} :
    store.Leads world [⟨c, answer⟩] after ↔ store.call c world = (answer, after) := by
  constructor
  · intro h
    cases h with
    | cons h hrest =>
      cases hrest
      exact h
  · exact fun h => .cons h (.nil after)

theorem Leads.unique {world first second : World σ} {exchanges : List Exchange} (h : store.Leads world exchanges first)
    (h' : store.Leads world exchanges second) : first = second := by
  induction h with
  | nil world =>
    cases h'
    rfl
  | cons h hrest ih =>
    cases h' with
    | cons h' hrest' =>
      rw [h, Prod.mk.injEq] at h'
      rw [← h'.2] at hrest'
      exact ih hrest'

theorem leads_cons {world after : World σ} {c : StoreCall} {answer : Except StoreError c.Answer}
    {exchanges : List Exchange} : store.Leads world (⟨c, answer⟩ :: exchanges) after ↔
      ∃ next, store.call c world = (answer, next) ∧ store.Leads next exchanges after := by
  constructor
  · intro h
    cases h with
    | cons h hrest => exact ⟨_, h, hrest⟩
  · rintro ⟨next, h, hrest⟩
    exact .cons h hrest

theorem leads_append {world after : World σ} {first second : List Exchange} :
    store.Leads world (first ++ second) after ↔ ∃ next, store.Leads world first next ∧ store.Leads next second after := by
  induction first generalizing world with
  | nil =>
    refine ⟨fun h => ⟨world, .nil world, h⟩, ?_⟩
    rintro ⟨next, hfirst, hsecond⟩
    cases hfirst
    exact hsecond
  | cons exchange first ih =>
    constructor
    · intro h
      cases h with
      | cons h hrest =>
        obtain ⟨next, hfirst, hsecond⟩ := ih.1 hrest
        exact ⟨next, .cons h hfirst, hsecond⟩
    · rintro ⟨next, hfirst, hsecond⟩
      cases hfirst with
      | cons h hfirst => exact .cons h (ih.2 ⟨next, hfirst, hsecond⟩)

theorem Leads.after {world middle after : World σ} {first second : List Exchange}
    (h : store.Leads world (first ++ second) after) (hfirst : store.Leads world first middle) :
    store.Leads middle second after := by
  obtain ⟨next, hnext, hsecond⟩ := leads_append.1 h
  rwa [hfirst.unique hnext]

end Store

/-- What can be done with a store, whichever it is. -/
abbrev Procedure (α : Type) := (σ : Type) → Store σ → World σ → α × World σ

/-- The calls of a procedure, with their answers, are those of the list: they lead from the world to the one after the procedure, and with the store that writes down its calls the procedure does the same and these calls are written down. -/
structure Procedure.Makes (p : Procedure α) (store : Store σ) (world : World σ) (exchanges : List Exchange) : Prop where
  leads : store.Leads world exchanges (p σ store world).2
  recorded : ∀ before, p (Recorded σ) store.recording (world.recorded before) =
    ((p σ store world).1, (p σ store world).2.recorded (before ++ exchanges))

namespace Procedure.Makes

variable {store : Store σ} {world : World σ}

theorem congr {p q : Procedure α} {exchanges : List Exchange} (h : q.Makes store world exchanges)
    (hp : ∀ (τ : Type) (store : Store τ) world, p τ store world = q τ store world) : p.Makes store world exchanges := by
  have heq : p = q := by
    funext τ store world
    exact hp τ store world
  rw [heq]
  exact h

theorem pure (a : α) : Makes (fun _ _ world => (a, world)) store world [] where
  leads := .nil world
  recorded before := by rw [List.append_nil]

/-- There is only one list of calls that a procedure makes. -/
theorem unique {p : Procedure α} {first second : List Exchange} (h : p.Makes store world first)
    (h' : p.Makes store world second) : first = second := by
  have hsame := (h.recorded []).symm.trans (h'.recorded [])
  exact congrArg (fun run => run.2.state.exchanges) hsame

theorem call (c : StoreCall) : Makes (fun _ store => store.call c) store world [⟨c, (store.call c world).1⟩] where
  leads := Store.leads_singleton.2 rfl
  recorded before := by cases c <;> rfl

/-- What is made of the result of a procedure makes no calls. -/
theorem map {β : Type} {p : Procedure α} {exchanges : List Exchange} (h : p.Makes store world exchanges) (f : α → β) :
    Makes (fun τ store world => Prod.map f id (p τ store world)) store world exchanges where
  leads := h.leads
  recorded before := by
    rw [h.recorded before]
    rfl

end Procedure.Makes

namespace Procedure

/-- The calls of a procedure are related to its result. -/
def Performs (p : Procedure α) (store : Store σ) (world : World σ) (spec : List Exchange → α → Prop) : Prop :=
  ∃ exchanges, p.Makes store world exchanges ∧ spec exchanges (p σ store world).1

namespace Performs

variable {β : Type} {store : Store σ} {world : World σ} {p : Procedure α} {spec : List Exchange → α → Prop}

theorem mono {spec' : List Exchange → α → Prop} (h : p.Performs store world spec)
    (himp : ∀ exchanges a, spec exchanges a → spec' exchanges a) : p.Performs store world spec' := by
  obtain ⟨exchanges, hmakes, hspec⟩ := h
  exact ⟨exchanges, hmakes, himp _ _ hspec⟩

theorem makes (h : p.Performs store world spec) :
    p.Performs store world fun exchanges a => p.Makes store world exchanges ∧ spec exchanges a := by
  obtain ⟨exchanges, hmakes, hspec⟩ := h
  exact ⟨exchanges, hmakes, hmakes, hspec⟩

theorem pure {a : α} (hp : ∀ (τ : Type) (store : Store τ) world, p τ store world = (a, world)) (h : spec [] a) :
    p.Performs store world spec := by
  refine ⟨[], (Makes.pure a).congr hp, ?_⟩
  rw [hp]
  exact h

/-- A procedure that starts with another one and, whatever the store is, goes on as a third one after the same answer. -/
theorem bind {first : Procedure β} {answered : List Exchange → β → Prop} (hfirst : first.Performs store world answered)
    (hrest : ∀ calls next b, answered calls b → first σ store world = (b, next) → ∃ q : Procedure α,
      (∀ (τ : Type) (store : Store τ) world next, first τ store world = (b, next) → p τ store world = q τ store next) ∧
        q.Performs store next fun rest a => spec (calls ++ rest) a) : p.Performs store world spec := by
  obtain ⟨calls, hmakes, hanswered⟩ := hfirst
  obtain ⟨b, next, hb⟩ : ∃ b next, first σ store world = (b, next) := ⟨_, _, rfl⟩
  rw [hb] at hanswered
  obtain ⟨q, hp, rest, hq, hspec⟩ := hrest calls next b hanswered hb
  have hleads := hmakes.leads
  rw [hb] at hleads
  refine ⟨calls ++ rest, ⟨?_, fun before => ?_⟩, ?_⟩
  · rw [hp σ store world next hb]
    exact Store.leads_append.2 ⟨next, hleads, hq.leads⟩
  · have hrecorded := hmakes.recorded before
    rw [hb] at hrecorded
    rw [hp _ _ _ _ hrecorded, hp σ store world next hb, hq.recorded, List.append_assoc]
  · rw [hp σ store world next hb]
    exact hspec

theorem map {first : Procedure β} {answered : List Exchange → β → Prop} (hfirst : first.Performs store world answered)
    (f : β → α) (hp : ∀ (τ : Type) (store : Store τ) world, p τ store world = Prod.map f id (first τ store world))
    (h : ∀ calls b, answered calls b → spec calls (f b)) : p.Performs store world spec := by
  refine hfirst.bind fun calls next b hanswered _ => ⟨fun _ _ world => (f b, world), fun τ store world next hb => ?_, ?_⟩
  · rw [hp, hb]
    rfl
  · refine .pure (fun _ _ _ => rfl) ?_
    rw [List.append_nil]
    exact h calls b hanswered

theorem single (c : StoreCall) :
    Performs (fun _ store => store.call c) store world fun calls answer => calls = [⟨c, answer⟩] :=
  ⟨_, Makes.call c, rfl⟩

theorem call (c : StoreCall) (hrest : ∀ answer next, store.call c world = (answer, next) → ∃ q : Procedure α,
    (∀ (τ : Type) (store : Store τ) world next, store.call c world = (answer, next) → p τ store world = q τ store next) ∧
      q.Performs store next fun rest a => spec (⟨c, answer⟩ :: rest) a) : p.Performs store world spec := by
  refine (single c).bind fun calls next answer hcalls h => ?_
  rw [hcalls]
  exact hrest answer next h

end Performs

end Procedure

end ObjectStore
