import Mathlib.Logic.Function.Iterate
import ObjectStore.Proofs.Store.Recording

/-!
# Stores that look at deadlines

Such a store looks at the deadline of a call before it starts what the call asks for. It makes an exception for rollbacks, which have no deadline, and may roll a transaction back whose commit it has just refused. What has been started is what the store behind it has written down.

Nobody but the store sees the clock. So a deadline that ends between two calls has ended when the first of them returns, and the moments of a run are those at which no call is under way. From the moment on at which a deadline is over, nothing but rollbacks is started by the calls that are bound to it.
-/

namespace ObjectStore

/-- Calls are given up, because of a cancellation or of the time. -/
def Deadline.IsOver (deadline : Deadline) (clock : Clock) : Prop :=
  ∃ reason, deadline.interruption? clock = some reason

theorem Deadline.isOver_iff {deadline : Deadline} {clock : Clock} :
    deadline.IsOver clock ↔
      deadline.token ∈ clock.cancelled ∨ ∃ moment, deadline.limit = some moment ∧ moment ≤ clock.now := by
  unfold IsOver interruption? isCancelled isExpired
  by_cases hcancelled : deadline.token ∈ clock.cancelled
  · simp [hcancelled]
  · cases deadline.limit with
    | none => simp [hcancelled]
    | some moment => by_cases hmoment : moment ≤ clock.now <;> simp [hcancelled, hmoment]

theorem Deadline.IsOver.cancel {deadline : Deadline} {clock : Clock} (h : deadline.IsOver clock) (other : Deadline) :
    deadline.IsOver (clock.cancel other) := by
  rw [isOver_iff] at h ⊢
  exact h.imp_left (List.mem_cons_of_mem other.token)

/-- What a store has been asked for so far. -/
def World.started {σ : Type} (world : World (Recorded σ)) : List StoreCall :=
  world.state.exchanges.map (·.call)

namespace Store

section Definitions

variable {σ : Type} (store : Store σ) (rollsBack : Bool)

/-- What a store does about a call that it has refused. -/
def afterRefusal (c : StoreCall) (world : World σ) : World σ :=
  match c with
  | .commit _ => if rollsBack then (store.rollback world).2 else world
  | _ => world

/-- Starts what a call asks for unless its deadline is over. -/
def attempt (c : StoreCall) : Call σ c.Answer := fun world =>
  match Engine.check c.deadline? world.clock c.statement with
  | .error t => (.error (.timeout t), store.afterRefusal rollsBack c world)
  | .ok () => store.call c world

/-- The store that looks at the deadline of each call first. -/
def checked : Store σ where
  query deadline sql := store.attempt rollsBack (.query deadline sql)
  execute deadline sql := store.attempt rollsBack (.execute deadline sql)
  batch deadline sql := store.attempt rollsBack (.batch deadline sql)
  hasTable deadline table := store.attempt rollsBack (.hasTable deadline table)
  openTransaction deadline := store.attempt rollsBack (.openTransaction deadline)
  commit deadline := store.attempt rollsBack (.commit deadline)
  rollback := store.attempt rollsBack .rollback

/-- The world after a number of rollbacks. -/
def rollbacks (count : Nat) : World σ → World σ :=
  (fun world => (store.rollback world).2)^[count]

/-- No call makes up for a deadline that is over. -/
def StaysOver (deadline : Deadline) : Prop :=
  ∀ c world, deadline.IsOver world.clock → deadline.IsOver (store.call c world).2.clock

end Definitions

variable {σ : Type} {store : Store σ} {rollsBack : Bool} {deadline : Deadline} {world : World σ} {c : StoreCall}

@[simp]
theorem call_checked : (store.checked rollsBack).call c = store.attempt rollsBack c := by
  cases c <;> rfl

@[simp]
theorem call_recording : store.recording.call c = store.record c := by
  cases c <;> rfl

variable (store rollsBack) in
theorem call_checked_of_over {reason : Interruption} (hreason : deadline.interruption? world.clock = some reason)
    (hc : c.deadline? = some deadline) :
    (store.checked rollsBack).call c world =
      (.error (.timeout ⟨c.statement, reason⟩), store.afterRefusal rollsBack c world) := by
  simp [attempt, Engine.check, hc, Deadline.check, hreason]

theorem rollbacks_succ (count : Nat) : store.rollbacks (count + 1) world = store.rollbacks count (store.rollback world).2 :=
  rfl

theorem rollbacks_add (m n : Nat) : store.rollbacks (m + n) world = store.rollbacks m (store.rollbacks n world) :=
  Function.iterate_add_apply _ m n world

theorem StaysOver.recording (h : store.StaysOver deadline) : store.recording.StaysOver deadline := by
  intro c world hover
  rw [call_recording]
  exact h c _ hover

theorem StaysOver.afterRefusal (h : store.StaysOver deadline) (hover : deadline.IsOver world.clock) :
    deadline.IsOver (store.afterRefusal rollsBack c world).clock := by
  unfold Store.afterRefusal
  split
  · split
    · exact h .rollback world hover
    · exact hover
  · exact hover

theorem StaysOver.checked (h : store.StaysOver deadline) : (store.checked rollsBack).StaysOver deadline := by
  intro c world hover
  rw [call_checked]
  unfold attempt
  split
  · exact h.afterRefusal hover
  · exact h c world hover

theorem StaysOver.next (h : store.StaysOver deadline) {answer : Except StoreError c.Answer} {next : World σ}
    (hcall : store.call c world = (answer, next)) (hover : deadline.IsOver world.clock) :
    deadline.IsOver next.clock := by
  have hcalled := h c world hover
  rwa [hcall] at hcalled

end Store

/-! ### Runs under a deadline -/

/-- The calls are bound to a deadline, but for rollbacks. -/
def BoundTo (deadline : Deadline) (exchanges : List Exchange) : Prop :=
  ∀ exchange ∈ exchanges, exchange.call.deadline? = some deadline ∨ exchange.call = .rollback

@[simp]
theorem boundTo_nil (deadline : Deadline) : BoundTo deadline [] := by
  simp [BoundTo]

@[simp]
theorem boundTo_cons {deadline : Deadline} {exchange : Exchange} {exchanges : List Exchange} :
    BoundTo deadline (exchange :: exchanges) ↔
      (exchange.call.deadline? = some deadline ∨ exchange.call = .rollback) ∧ BoundTo deadline exchanges := by
  simp [BoundTo]

@[simp]
theorem boundTo_append {deadline : Deadline} {first second : List Exchange} :
    BoundTo deadline (first ++ second) ↔ BoundTo deadline first ∧ BoundTo deadline second := by
  simp [BoundTo, or_imp, forall_and]

section Runs

variable {σ : Type} {store : Store σ} {rollsBack : Bool} {deadline : Deadline} {world after : World σ}
  {exchanges : List Exchange}

variable (store rollsBack) in
/-- A call that is bound to a deadline does nothing but roll back when the deadline is over. -/
theorem rolledBack_of_over (hover : deadline.IsOver world.clock) {c : StoreCall}
    (hc : c.deadline? = some deadline ∨ c = .rollback) :
    ∃ count, ((store.checked rollsBack).call c world).2 = store.rollbacks count world := by
  obtain ⟨reason, hreason⟩ := hover
  rcases hc with hc | rfl
  · rw [Store.call_checked_of_over _ _ hreason hc]
    unfold Store.afterRefusal
    split
    · split
      · exact ⟨1, rfl⟩
      · exact ⟨0, rfl⟩
    · exact ⟨0, rfl⟩
  · exact ⟨1, rfl⟩

/-- From a moment on at which a deadline is over, the calls that are bound to it do nothing but roll back. -/
theorem rolledBack_of_leads (hstays : store.StaysOver deadline) (hbound : BoundTo deadline exchanges)
    (hover : deadline.IsOver world.clock) (hleads : (store.checked rollsBack).Leads world exchanges after) :
    ∃ count, after = store.rollbacks count world := by
  induction hleads with
  | nil => exact ⟨0, rfl⟩
  | @cons world next after c answer exchanges hcall hrest ih =>
    obtain ⟨hc, hbound⟩ := boundTo_cons.1 hbound
    obtain ⟨first, hfirst⟩ := rolledBack_of_over store rollsBack hover hc
    obtain ⟨rest, hrest⟩ := ih hbound (hstays.checked.next hcall hover)
    have hnext : next = store.rollbacks first world := by
      rwa [hcall] at hfirst
    exact ⟨rest + first, by rw [hrest, hnext, Store.rollbacks_add]⟩

theorem started_record (c : StoreCall) (world : World (Recorded σ)) :
    (store.record c world).2.started = world.started ++ [c] := by
  simp [Store.record, World.started, World.recorded]

theorem started_rollbacks (count : Nat) (world : World (Recorded σ)) :
    (store.recording.rollbacks count world).started = world.started ++ List.replicate count .rollback := by
  induction count generalizing world with
  | zero => exact (List.append_nil _).symm
  | succ count ih =>
    have hfirst : (store.recording.rollback world).2.started = world.started ++ [.rollback] :=
      started_record .rollback world
    rw [Store.rollbacks_succ, ih, hfirst, List.replicate_succ, List.append_assoc, List.singleton_append]

/-- A call that is bound to a deadline which was over before is answered with a timeout of its statement. -/
theorem refused_of_leads (hstays : store.StaysOver deadline) (hover : deadline.IsOver world.clock)
    (hleads : (store.checked rollsBack).Leads world exchanges after) :
    ∀ exchange ∈ exchanges, exchange.call.deadline? = some deadline →
      ∃ reason, exchange.answer = .error (.timeout ⟨exchange.call.statement, reason⟩) := by
  induction hleads with
  | nil => simp
  | @cons world next after c answer exchanges hcall hrest ih =>
    refine List.forall_mem_cons.2 ⟨fun hc => ?_, ih (hstays.checked.next hcall hover)⟩
    obtain ⟨reason, hreason⟩ := hover
    rw [Store.call_checked_of_over _ _ hreason hc] at hcall
    exact ⟨reason, (congrArg Prod.fst hcall).symm⟩

end Runs

/-! ### The store on an engine -/

namespace Engine

variable {δ α : Type}

/-- Work on a statement that has been started. -/
def unguarded (deadline : Option Deadline) (statement : String) (work : Work δ α) : Call δ α := fun world =>
  match work world with
  | (.ok answer, world) => (.ok answer, world)
  | (.error failure, world) => (.error (failure.toStoreError deadline world.clock statement), world)

/-- The store on an engine as far as it does not look at deadlines before statements. -/
def unguardedStore (engine : Engine δ) : Store δ where
  query deadline sql := unguarded (some deadline) sql (engine.query sql)
  execute deadline sql := unguarded (some deadline) sql (engine.execute sql)
  batch deadline sql := unguarded (some deadline) sql (engine.batch sql)
  hasTable deadline table := unguarded (some deadline) tableQuestion (engine.hasTable table)
  openTransaction deadline := unguarded (some deadline) "BEGIN" (engine.batch "BEGIN")
  commit deadline := fun world =>
    match unguarded (some deadline) "COMMIT" (engine.batch "COMMIT") world with
    | (.ok (), world) => (.ok (), world)
    | (.error e, world) => (.error e, (engine.rollBack world).2)
  rollback := engine.rollBack

/-- No statement makes up for a deadline that is over. -/
structure StaysOver (engine : Engine δ) (deadline : Deadline) : Prop where
  query : ∀ sql world, deadline.IsOver world.clock → deadline.IsOver (engine.query sql world).2.clock
  execute : ∀ sql world, deadline.IsOver world.clock → deadline.IsOver (engine.execute sql world).2.clock
  batch : ∀ sql world, deadline.IsOver world.clock → deadline.IsOver (engine.batch sql world).2.clock
  hasTable : ∀ table world, deadline.IsOver world.clock → deadline.IsOver (engine.hasTable table world).2.clock

variable {engine : Engine δ} {deadline : Deadline} {world : World δ}

theorem isOver_unguarded {limit : Option Deadline} {statement : String} {work : Work δ α}
    (h : deadline.IsOver (work world).2.clock) : deadline.IsOver (unguarded limit statement work world).2.clock := by
  unfold unguarded
  generalize work world = done at h ⊢
  obtain ⟨failure | answer, after⟩ := done
  · exact h
  · exact h

theorem StaysOver.rollBack (h : engine.StaysOver deadline) (hover : deadline.IsOver world.clock) :
    deadline.IsOver (engine.rollBack world).2.clock := by
  change deadline.IsOver (unguarded none "ROLLBACK" (engine.batch "ROLLBACK") world).2.clock
  exact isOver_unguarded (h.batch "ROLLBACK" world hover)

theorem StaysOver.unguardedStore (h : engine.StaysOver deadline) : engine.unguardedStore.StaysOver deadline := by
  intro c world hover
  cases c with
  | query other sql => exact isOver_unguarded (h.query sql world hover)
  | execute other sql => exact isOver_unguarded (h.execute sql world hover)
  | batch other sql => exact isOver_unguarded (h.batch sql world hover)
  | hasTable other table => exact isOver_unguarded (h.hasTable table world hover)
  | openTransaction other => exact isOver_unguarded (h.batch "BEGIN" world hover)
  | commit other =>
    have hcommit : deadline.IsOver (unguarded (some other) "COMMIT" (engine.batch "COMMIT") world).2.clock :=
      isOver_unguarded (h.batch "COMMIT" world hover)
    dsimp only [Store.call, Engine.unguardedStore]
    split
    · next hdone =>
      rwa [hdone] at hcommit
    · next hfailed =>
      rw [hfailed] at hcommit
      exact h.rollBack hcommit
  | rollback => exact h.rollBack hover

/-- The store on an engine looks at deadlines, and rolls a transaction back whose commit it has refused. -/
theorem store_eq_checked (engine : Engine δ) : engine.store = engine.unguardedStore.checked true := by
  have hcommit : engine.commitOrRollBack = fun deadline => engine.unguardedStore.attempt true (.commit deadline) := by
    funext deadline world
    unfold commitOrRollBack guarded Store.attempt
    dsimp only [StoreCall.deadline?, StoreCall.statement]
    cases check (some deadline) world.clock "COMMIT" <;> rfl
  rw [store, hcommit]
  rfl

end Engine

end ObjectStore
