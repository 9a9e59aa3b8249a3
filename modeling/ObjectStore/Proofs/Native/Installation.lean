import ObjectStore.Native.Database
import ObjectStore.Proofs.Class.Registries
import ObjectStore.Proofs.Store.Recording

/-!
# Installing the class that works on the store

The class is registered last, after the store has answered and all tables have been found. `installOn` is the installation on registrations that it changes in place, with the class made method by method: it can stop at the first question, at any of the tables or at the registration, and only a run to the end leaves the registrations changed. `Installs` lists these ends with the calls that lead to each of them.
-/

namespace ObjectStore

variable {σ : Type}

/-- With the store that writes down its calls the procedure does the same, and the calls with their answers are written down. Between its calls it may take deadlines from the clock. -/
def Procedure.Asks {α : Type} (p : Procedure α) (store : Store σ) (world : World σ) (exchanges : List Exchange) : Prop :=
  ∀ earlier, p (Recorded σ) store.recording (world.recorded earlier) =
    ((p σ store world).1, (p σ store world).2.recorded (earlier ++ exchanges))

namespace Procedure.Asks

variable {α : Type} {store : Store σ} {world : World σ}

theorem pure (a : α) : Asks (fun _ _ world => (a, world)) store world [] := by
  intro earlier
  rw [List.append_nil]

theorem map {β : Type} {p : Procedure α} {exchanges : List Exchange} (h : p.Asks store world exchanges) (f : α → β) :
    Asks (fun τ store world => Prod.map f id (p τ store world)) store world exchanges :=
  fun earlier => congrArg (Prod.map f id) (h earlier)

theorem call {p : Procedure α} {duration : Option Nat} {deadline : Deadline} {c : StoreCall}
    {rest : Except StoreError c.Answer → Procedure α} {answer : Except StoreError c.Answer} {issued next : World σ}
    {calls : List Exchange} (hissue : world.issue duration = (deadline, issued)) (hanswer : store.call c issued = (answer, next))
    (hp : ∀ (τ : Type) (store : Store τ) (world issued next : World τ), world.issue duration = (deadline, issued) →
      store.call c issued = (answer, next) → p τ store world = rest answer τ store next)
    (hrest : (rest answer).Asks store next calls) : p.Asks store world (⟨c, answer⟩ :: calls) := by
  intro earlier
  have hissued : (world.recorded earlier).issue duration = (deadline, issued.recorded earlier) := by
    change ((world.issue duration).1, (world.issue duration).2.recorded earlier) = _
    rw [hissue]
  have hrecorded : store.recording.call c (issued.recorded earlier) = (answer, next.recorded (earlier ++ [⟨c, answer⟩])) := by
    have hrecord : store.recording.call c = store.record c := by
      cases c <;> rfl
    rw [hrecord]
    change ((store.call c issued).1, (store.call c issued).2.recorded (earlier ++ [⟨c, (store.call c issued).1⟩])) = _
    rw [hanswer]
  rw [hp _ _ _ _ _ hissued hrecorded, hp _ _ _ _ _ hissue hanswer, hrest, List.append_assoc, List.singleton_append]

end Procedure.Asks

namespace Native

open Dml (Settings)

variable {settings : Settings} {tables : List String} {builder : Registry}

/-! ### The class -/

/-- The methods that work on the store, in the order in which the class gets them. -/
def databaseMethods (settings : Settings) : List Method := [
  changeMethod settings .insert false,
  changeMethod settings .update false,
  changeMethod settings .delete false,
  changeMethod settings .upsert false,
  changeMethod settings .upsert true,
  .ofNative "countRecords" ["String"] (some "Integer") (.database settings .countRecords)
]

/-- The class for the store, made method by method. -/
def buildDatabase (settings : Settings) : Except CompileError ClassType :=
  (databaseMethods settings).foldlM ClassType.withStaticMethod (.bare databaseName)

/-- No method is declared twice, so the class can always be made. -/
theorem buildDatabase_eq (settings : Settings) : buildDatabase settings = .ok (database settings) := by
  simp [buildDatabase, databaseMethods, database, changeMethod, Dml.Operation.name, Method.ofNative, ClassType.bare,
    ClassType.withStaticMethod, MethodTable.add, MethodTable.opened, MethodTable.get, MethodTable.empty, Fields.set,
    List.lookup_cons, Except.map, bind, Except.bind, pure, Except.pure]

/-! ### The tables -/

/-- A deadline of a call that is bound by the settings. -/
def Grants (settings : Settings) (deadline : Deadline) : Prop :=
  ∃ clock : Clock, deadline = (clock.issue settings.duration).1

/-- Every table has been asked for, in order, and found. -/
def Confirmed (settings : Settings) : List Exchange → List String → Prop :=
  List.Forall₂ fun exchange table => ∃ deadline, Grants settings deadline ∧ exchange = ⟨.hasTable deadline table, .ok true⟩

/-- How the search for the tables ends, and the calls for it: all are found, or the first one that is not found ends it. -/
inductive Requires (settings : Settings) (tables : List String) : List Exchange → Except Error Unit → Prop where
  | confirmed {calls : List Exchange} (h : Confirmed settings calls tables) : Requires settings tables calls (.ok ())
  | unanswered {calls : List Exchange} {found rest : List String} {table : String} {deadline : Deadline}
      (htables : tables = found ++ table :: rest) (h : Confirmed settings calls found) (hdeadline : Grants settings deadline)
      (e : StoreError) :
      Requires settings tables (calls ++ [⟨.hasTable deadline table, .error e⟩]) (.error (e.toError "table lookup" none))
  | missing {calls : List Exchange} {found rest : List String} {table : String} {deadline : Deadline}
      (htables : tables = found ++ table :: rest) (h : Confirmed settings calls found)
      (hdeadline : Grants settings deadline) :
      Requires settings tables (calls ++ [⟨.hasTable deadline table, .ok false⟩])
        (.error (.config ("required table '" ++ table ++ "' does not exist")))

theorem Confirmed.nil : Confirmed settings [] [] := List.Forall₂.nil

theorem Confirmed.cons {calls : List Exchange} {table : String} {deadline : Deadline} (h : Confirmed settings calls tables)
    (hdeadline : Grants settings deadline) :
    Confirmed settings (⟨.hasTable deadline table, .ok true⟩ :: calls) (table :: tables) :=
  List.Forall₂.cons ⟨deadline, hdeadline, rfl⟩ h

theorem Requires.cons {table : String} {deadline : Deadline} {calls : List Exchange} {result : Except Error Unit}
    (h : Requires settings tables calls result) (hdeadline : Grants settings deadline) :
    Requires settings (table :: tables) (⟨.hasTable deadline table, .ok true⟩ :: calls) result := by
  cases h with
  | confirmed h => exact .confirmed (h.cons hdeadline)
  | unanswered htables h hother e =>
    rw [htables, ← List.cons_append, ← List.cons_append]
    exact .unanswered rfl (h.cons hdeadline) hother e
  | missing htables h hother =>
    rw [htables, ← List.cons_append, ← List.cons_append]
    exact .missing rfl (h.cons hdeadline) hother

/-- What the search does with the answer about a table. -/
def afterTable (settings : Settings) (table : String) (tables : List String) :
    Except StoreError Bool → Procedure (Except Error Unit)
  | .error e, _, _, world => (.error (e.toError "table lookup" none), world)
  | .ok false, _, _, world => (.error (.config ("required table '" ++ table ++ "' does not exist")), world)
  | .ok true, _, store, world => requireTables store settings tables world

theorem requireTables_cons {store : Store σ} {table : String} {deadline : Deadline} {answer : Except StoreError Bool}
    {world issued next : World σ} (hissue : world.issue settings.duration = (deadline, issued))
    (hanswer : store.hasTable deadline table issued = (answer, next)) :
    requireTables store settings (table :: tables) world = afterTable settings table tables answer σ store next := by
  simp only [requireTables, hissue, hanswer]
  cases answer with
  | error e => rfl
  | ok found => cases found <;> rfl

theorem requireTables_spec (store : Store σ) (settings : Settings) (tables : List String) (world : World σ) :
    ∃ calls, Requires settings tables calls (requireTables store settings tables world).1 ∧
      Procedure.Asks (fun _ store => requireTables store settings tables) store world calls := by
  -- on the tables, from the world that the questions about the earlier ones leave
  induction tables generalizing world with
  | nil => exact ⟨[], .confirmed .nil, .pure _⟩
  | cons table tables ih =>
    obtain ⟨deadline, issued, hissue⟩ : ∃ deadline issued, world.issue settings.duration = (deadline, issued) := ⟨_, _, rfl⟩
    have hdeadline : Grants settings deadline := ⟨world.clock, (congrArg Prod.fst hissue).symm⟩
    obtain ⟨answer, next, hanswer⟩ : ∃ answer next, store.hasTable deadline table issued = (answer, next) := ⟨_, _, rfl⟩
    have hasks : ∀ {calls}, (afterTable settings table tables answer).Asks store next calls →
        Procedure.Asks (fun _ store => requireTables store settings (table :: tables)) store world
          (⟨.hasTable deadline table, answer⟩ :: calls) := by
      intro calls hrest
      exact .call hissue hanswer (fun _ _ _ _ _ => requireTables_cons) hrest
    rw [requireTables_cons hissue hanswer]
    cases answer with
    | error e => exact ⟨_, .unanswered (List.nil_append _).symm .nil hdeadline e, hasks (.pure _)⟩
    | ok found =>
      cases found with
      | false => exact ⟨_, .missing (List.nil_append _).symm .nil hdeadline, hasks (.pure _)⟩
      | true =>
        obtain ⟨calls, hrequires, hrest⟩ := ih next
        exact ⟨_, hrequires.cons hdeadline, hasks hrest⟩

/-! ### The installation -/

/-- The last step, which needs no store: the class is made and registered. -/
def registerDatabase (settings : Settings) (builder : Registry) : Except Error Unit × Registry :=
  match buildDatabase settings with
  | .error e => (.error (.compile e), builder)
  | .ok c =>
    match builder.register c with
    | .error e => (.error (.compile e), builder)
    | .ok grown => (.ok (), grown)

/-- What is done when the search for the tables has ended. -/
def afterTables (settings : Settings) (builder : Registry) : Except Error Unit → Except Error Unit × Registry
  | .error e => (.error e, builder)
  | .ok () => registerDatabase settings builder

/-- What the installation does with the answer to its first question. -/
def afterAnswer (settings : Settings) (tables : List String) (builder : Registry) :
    Except StoreError (List Row) → Procedure (Except Error Unit × Registry)
  | .error e, _, _, world => ((.error (.config ("store is not reachable: " ++ e.message)), builder), world)
  | .ok _, _, store, world => Prod.map (afterTables settings builder) id (requireTables store settings tables world)

/-- The installation on registrations that are changed in place: its answer, and the registrations after it. -/
def installOn (store : Store σ) (settings : Settings) (tables : List String) (builder : Registry) (world : World σ) :
    (Except Error Unit × Registry) × World σ :=
  let (deadline, world) := world.issue settings.duration
  let (answer, world) := store.query deadline "SELECT 1" world
  afterAnswer settings tables builder answer σ store world

theorem installOn_eq {store : Store σ} {deadline : Deadline} {answer : Except StoreError (List Row)}
    {world issued next : World σ} (hissue : world.issue settings.duration = (deadline, issued))
    (hanswer : store.query deadline "SELECT 1" issued = (answer, next)) :
    installOn store settings tables builder world = afterAnswer settings tables builder answer σ store next := by
  simp only [installOn, hissue, hanswer]

/-- How an installation ends, and the calls for it. -/
inductive Installs (settings : Settings) (tables : List String) (builder : Registry) :
    List Exchange → Except Error Unit × Registry → Prop where
  | unreachable {deadline : Deadline} (hdeadline : Grants settings deadline) (e : StoreError) :
      Installs settings tables builder [⟨.query deadline "SELECT 1", .error e⟩]
        (.error (.config ("store is not reachable: " ++ e.message)), builder)
  | refused {deadline : Deadline} {rows : List Row} {calls : List Exchange} {e : Error} (hdeadline : Grants settings deadline)
      (h : Requires settings tables calls (.error e)) :
      Installs settings tables builder (⟨.query deadline "SELECT 1", .ok rows⟩ :: calls) (.error e, builder)
  | taken {deadline : Deadline} {rows : List Row} {calls : List Exchange} (hdeadline : Grants settings deadline)
      (h : Confirmed settings calls tables) (hname : databaseName ∈ builder.names) :
      Installs settings tables builder (⟨.query deadline "SELECT 1", .ok rows⟩ :: calls)
        (.error (.compile (.duplicateClass databaseName)), builder)
  | installed {deadline : Deadline} {rows : List Row} {calls : List Exchange} (hdeadline : Grants settings deadline)
      (h : Confirmed settings calls tables) (hname : databaseName ∉ builder.names) :
      Installs settings tables builder (⟨.query deadline "SELECT 1", .ok rows⟩ :: calls)
        (.ok (), ⟨builder.classes ++ [database settings]⟩)

theorem registerDatabase_eq (settings : Settings) (builder : Registry) :
    registerDatabase settings builder =
      if databaseName ∈ builder.names then (.error (.compile (.duplicateClass databaseName)), builder)
      else (.ok (), ⟨builder.classes ++ [database settings]⟩) := by
  have hregister : builder.register (database settings) =
      if databaseName ∈ builder.names then .error (.duplicateClass databaseName)
      else .ok ⟨builder.classes ++ [database settings]⟩ := by
    rw [Registry.register]
    simp only [Registry.contains_iff]
    rfl
  rw [registerDatabase, buildDatabase_eq]
  by_cases hname : databaseName ∈ builder.names
  · rw [if_pos hname] at hregister ⊢
    simp only [hregister]
  · rw [if_neg hname] at hregister ⊢
    simp only [hregister]

/-- When the search for the tables has ended well, it is only the name that counts. -/
theorem Installs.registered {deadline : Deadline} {rows : List Row} {calls : List Exchange}
    (hdeadline : Grants settings deadline) (h : Confirmed settings calls tables) :
    Installs settings tables builder (⟨.query deadline "SELECT 1", .ok rows⟩ :: calls) (registerDatabase settings builder) := by
  rw [registerDatabase_eq]
  by_cases hname : databaseName ∈ builder.names
  · rw [if_pos hname]
    exact .taken hdeadline h hname
  · rw [if_neg hname]
    exact .installed hdeadline h hname

theorem Installs.afterTables {deadline : Deadline} {rows : List Row} {calls : List Exchange} {result : Except Error Unit}
    (hdeadline : Grants settings deadline) (h : Requires settings tables calls result) :
    Installs settings tables builder (⟨.query deadline "SELECT 1", .ok rows⟩ :: calls)
      (afterTables settings builder result) := by
  cases result with
  | error e => exact .refused hdeadline h
  | ok done =>
    cases h with
    | confirmed h => exact .registered hdeadline h

theorem register_database (settings : Settings) (builder : Registry) :
    (builder.register (database settings)).mapError .compile =
      (registerDatabase settings builder).1.map fun _ => (registerDatabase settings builder).2 := by
  rw [registerDatabase, buildDatabase_eq]
  simp only
  cases builder.register (database settings) <;> rfl

theorem installDatabase_eq (store : Store σ) (settings : Settings) (tables : List String) (builder : Registry) (world : World σ) :
    let run := installOn store settings tables builder world
    installDatabase store settings tables builder world = (run.1.1.map fun _ => run.1.2, run.2) := by
  intro run
  obtain ⟨deadline, issued, hissue⟩ : ∃ deadline issued, world.issue settings.duration = (deadline, issued) := ⟨_, _, rfl⟩
  obtain ⟨answer, next, hanswer⟩ : ∃ answer next, store.query deadline "SELECT 1" issued = (answer, next) := ⟨_, _, rfl⟩
  have hrun : run = afterAnswer settings tables builder answer σ store next := installOn_eq hissue hanswer
  rw [hrun]
  simp only [installDatabase, hissue, hanswer]
  cases answer with
  | error e => rfl
  | ok rows =>
    simp only [afterAnswer, Prod.map]
    obtain ⟨result, last⟩ := requireTables store settings tables next
    cases result with
    | error e => rfl
    | ok done => exact congrArg (·, last) (register_database settings builder)

/-- The class is installed only over a store that answers and has the tables. Whatever the store does, the installation ends in one of the ways of `Installs`, and it makes no calls but those listed there. -/
theorem installs_over_verified_store (store : Store σ) (settings : Settings) (tables : List String) (builder : Registry)
    (world : World σ) :
    let run := installOn store settings tables builder world
    (∃ exchanges, Installs settings tables builder exchanges run.1 ∧
      Procedure.Asks (fun _ store => installOn store settings tables builder) store world exchanges) ∧
    installDatabase store settings tables builder world = (run.1.1.map fun _ => run.1.2, run.2) := by
  intro run
  refine ⟨?_, installDatabase_eq store settings tables builder world⟩
  obtain ⟨deadline, issued, hissue⟩ : ∃ deadline issued, world.issue settings.duration = (deadline, issued) := ⟨_, _, rfl⟩
  have hdeadline : Grants settings deadline := ⟨world.clock, (congrArg Prod.fst hissue).symm⟩
  obtain ⟨answer, next, hanswer⟩ : ∃ answer next, store.query deadline "SELECT 1" issued = (answer, next) := ⟨_, _, rfl⟩
  have hrun : run = afterAnswer settings tables builder answer σ store next := installOn_eq hissue hanswer
  have hasks : ∀ {calls}, (afterAnswer settings tables builder answer).Asks store next calls →
      Procedure.Asks (fun _ store => installOn store settings tables builder) store world
        (⟨.query deadline "SELECT 1", answer⟩ :: calls) := by
    intro calls hrest
    exact .call hissue hanswer (fun _ _ _ _ _ => installOn_eq) hrest
  rw [hrun]
  cases answer with
  | error e => exact ⟨_, .unreachable hdeadline e, hasks (.pure _)⟩
  | ok rows =>
    obtain ⟨calls, hrequires, hrest⟩ := requireTables_spec store settings tables next
    exact ⟨_, .afterTables hdeadline hrequires, hasks (hrest.map _)⟩

end Native

end ObjectStore
