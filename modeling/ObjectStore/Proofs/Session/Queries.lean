import ObjectStore.Proofs.Query.Rows
import ObjectStore.Proofs.Store.Recording
import ObjectStore.Session.Basic

/-!
# What a session asks for a query

A query that does not compile never reaches the store. Any other is one question, and what comes back is decided by the answer alone: the failure of the store, the records of the rows, or the fault of the first row that does not fit.
-/

namespace ObjectStore

namespace Session

/-- The calls for a query with their answers, and the result that belongs to them. -/
def Queried (registry : Registry) (query : Query) (bindings : Bindings) (deadline : Deadline) (exchanges : List Exchange)
    (result : Except Error (List Record)) : Prop :=
  match query.compile registry bindings with
  | .error e => exchanges = [] ∧ result = .error (.compile e)
  | .ok compiled => ∃ answer, exchanges = [⟨.query deadline compiled.sql, answer⟩] ∧
    match answer with
    | .error e => result = .error (e.toError compiled.sql none)
    | .ok rows => registry.Materialized compiled.target compiled.projection rows result

/-- What is made of the answer of a store. -/
def recordsOf (registry : Registry) (compiled : CompiledQuery) :
    Except StoreError (List Row) → Except Error (List Record)
  | .error e => .error (e.toError compiled.sql none)
  | .ok rows => registry.materialize compiled.target compiled.projection rows

variable {σ : Type} {session : Session σ} {query : Query} {bindings : Bindings} {deadline : Deadline} {world : World σ}

theorem query_of_uncompiled {e : CompileError} (h : query.compile session.registry bindings = .error e) :
    session.query query bindings deadline world = (.error (.compile e), world) := by
  rw [Session.query, compile, h]
  rfl

theorem query_of_compiled {compiled : CompiledQuery} (h : query.compile session.registry bindings = .ok compiled) :
    session.query query bindings deadline world =
      Prod.map (recordsOf session.registry compiled) id (session.store.query deadline compiled.sql world) := by
  have hcompile : session.compile query bindings = .ok compiled := by
    rw [compile, h]
    rfl
  rw [Session.query, hcompile]
  rcases hanswer : session.store.query deadline compiled.sql world with ⟨_ | rows, next⟩
  · simp only [hanswer]
    rfl
  · simp only [hanswer]
    rfl

/-- A session asks at most one question for a query, and makes records of the rows if all of them fit. -/
theorem query_asks_once (session : Session σ) (query : Query) (bindings : Bindings) (deadline : Deadline) (world : World σ) :
    Procedure.Performs (fun _ store => Session.query ⟨session.registry, store, session.config⟩ query bindings deadline)
      session.store world (Queried session.registry query bindings deadline) := by
  cases hcompile : query.compile session.registry bindings with
  | error e =>
    refine .pure (fun _ _ _ => query_of_uncompiled hcompile) ?_
    rw [Queried, hcompile]
    exact ⟨rfl, rfl⟩
  | ok compiled =>
    obtain ⟨plan, himplements⟩ := Query.compile_spec hcompile
    refine (Procedure.Performs.single (.query deadline compiled.sql)).map (recordsOf session.registry compiled)
      (fun _ _ _ => query_of_compiled hcompile) ?_
    rintro calls answer rfl
    rw [Queried, hcompile]
    refine ⟨answer, rfl, ?_⟩
    cases answer with
    | error e => rfl
    | ok rows => exact Registry.materialized himplements.reaches rows

end Session

end ObjectStore
