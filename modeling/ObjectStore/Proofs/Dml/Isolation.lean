import ObjectStore.Proofs.Dml.Exchanges

/-!
# Records on their own

Record by record, a batch is the sequence of its records. The position of a record in the batch shows in its outcome only, as the position that a missing key and a refused statement are reported with. So the batch asks the same of the store, and comes to the same state, as intents for one record each that are applied one after another.
-/

namespace ObjectStore

/-- The failure as the one of the record at a position. -/
def Error.atRecord (index : Nat) : Error → Error
  | .lookup (.missingKey className field _) => .lookup (.missingKey className field index)
  | .execution (.rejected statement (some _) reason) => .execution (.rejected statement (some index) reason)
  | e => e

theorem Error.atRecord_atRecord (index other : Nat) (e : Error) :
    (e.atRecord other).atRecord index = e.atRecord index := by
  cases e with
  | lookup e => cases e <;> rfl
  | execution e =>
    cases e with
    | rejected statement record reason => cases record <;> rfl
    | projectionMismatch expected found => rfl
    | rolledBack record => rfl
    | transaction reason => rfl
  | compile e => rfl
  | conversion e => rfl
  | timeout t => rfl
  | native className method reason => rfl
  | config reason => rfl

namespace Dml

/-- The results differ in the position of a record only, which is `index` in the first one. -/
def Repositioned {α : Type} (index : Nat) (x y : Except Error α) : Prop := x = y.mapError (Error.atRecord index)

namespace Repositioned

variable {α β : Type} {index : Nat}

theorem ok (a : α) : Repositioned index (.ok a) (.ok a) := rfl

theorem mapError (x : Except CompileError α) : Repositioned index (x.mapError Error.compile) (x.mapError Error.compile) := by
  cases x <;> rfl

theorem bind {x y : Except Error α} {f g : α → Except Error β} (h : Repositioned index x y)
    (hrest : ∀ a, Repositioned index (f a) (g a)) : Repositioned index (x >>= f) (y >>= g) := by
  cases y with
  | error e =>
    cases h
    rfl
  | ok a =>
    cases h
    exact hrest a

end Repositioned

section Records

variable {σ : Type} (store : Store σ) (deadline : Deadline) (className : String) (intent : Intent) (record : Record)
  (key : String) (index other : Nat) (world : World σ)

theorem requiredKey_repositioned :
    Repositioned index (requiredKey className record key index) (requiredKey className record key other) := by
  rw [requiredKey, requiredKey]
  split
  · split <;> rfl
  · rfl

theorem updateStatement_repositioned :
    Repositioned index (updateStatement className record index) (updateStatement className record other) := by
  refine .bind (.mapError _) fun table => .bind (requiredKey_repositioned _ _ _ _ _) fun id =>
    .bind (.mapError _) fun assigned => ?_
  dsimp only
  split
  · rfl
  · exact .bind (.mapError _) fun literal => .ok _

theorem deleteStatement_repositioned :
    Repositioned index (deleteStatement className record index) (deleteStatement className record other) :=
  .bind (.mapError _) fun _ => .bind (requiredKey_repositioned _ _ _ _ _) fun _ => .bind (.mapError _) fun _ => .ok _

theorem lookupStatement_repositioned :
    Repositioned index (lookupStatement className record key index) (lookupStatement className record key other) :=
  .bind (.mapError _) fun _ => .bind (requiredKey_repositioned _ _ _ _ _) fun _ => .bind (.mapError _) fun _ =>
    .bind (.mapError _) fun _ => .ok _

theorem upsertStatement_repositioned :
    Repositioned index (upsertStatement? className record key index) (upsertStatement? className record key other) := by
  refine .bind (.mapError _) fun table => .bind (requiredKey_repositioned _ _ _ _ _) fun value =>
    .bind (.mapError _) fun assigned => ?_
  split
  · exact .ok _
  · exact .bind (.mapError _) fun column => .bind (.mapError _) fun literal => .ok _

/-- The outcome as the one of the record at a position. -/
def Outcome.atRecord (index : Nat) (outcome : Outcome) : Outcome := outcome.mapError (Error.atRecord index)

theorem runCompiled_at (operation : Operation) {first second : Except Error Sql.Statement}
    (h : Repositioned index first second) :
    runCompiled store deadline operation first index world =
      Prod.map (Outcome.atRecord index) id (runCompiled store deadline operation second other world) := by
  cases second with
  | error e =>
    cases h
    rfl
  | ok statement =>
    cases h
    dsimp only [Except.mapError, runCompiled, run]
    rcases store.execute deadline statement.render world with ⟨(reason | t) | rows, next⟩ <;> rfl

theorem upsert_at :
    upsert store deadline className record key index world =
      Prod.map (Outcome.atRecord index) id (upsert store deadline className record key other world) := by
  rw [upsert, lookupStatement_repositioned className record key index other, upsert]
  cases lookupStatement className record key other with
  | error e => rfl
  | ok lookup =>
    dsimp only [Except.mapError]
    rcases store.query deadline lookup.render world with ⟨(reason | t) | (_ | ⟨row, rows⟩), next⟩
    · rfl
    · rfl
    · exact runCompiled_at _ _ _ _ _ _ (.mapError _)
    · dsimp only
      rw [upsertStatement_repositioned className record key index other]
      rcases upsertStatement? className record key other with e | (_ | statement)
      · rfl
      · rfl
      · exact runCompiled_at store deadline index other next .update (.ok statement)

/-- The position of a record shows in its outcome only. -/
theorem applyRecord_at :
    applyRecord store deadline className intent record index world =
      Prod.map (Outcome.atRecord index) id (applyRecord store deadline className intent record other world) := by
  rw [applyRecord, applyRecord]
  split
  · rfl
  · cases intent.operation with
    | insert => exact runCompiled_at _ _ _ _ _ _ (.mapError _)
    | update => exact runCompiled_at _ _ _ _ _ _ (updateStatement_repositioned _ _ _ _)
    | delete => exact runCompiled_at _ _ _ _ _ _ (deleteStatement_repositioned _ _ _ _)
    | upsert => exact upsert_at _ _ _ _ _ _ _ _

end Records

/-! ### A batch is the sequence of its records -/

section Sequences

open Procedure (Performs Makes)

variable {σ : Type} (store : Store σ) (deadline : Deadline) (className : String) (intent : Intent)

/-- Applies intents for one record each, one after another. -/
def applySingly : List Record → World σ → List (Except Error Report) × World σ
  | [], world => ([], world)
  | record :: rest, world =>
    let (result, world) := executeFor store .perRecord deadline className { intent with records := [record] } world
    let (results, world) := applySingly rest world
    (result :: results, world)

/-- The results for records on their own, from their outcomes in a batch. -/
def singly (outcomes : List Outcome) : List (Except Error Report) :=
  (outcomes.map (Outcome.atRecord 0)).map fun outcome => .ok ⟨[outcome]⟩

theorem executeFor_of_misnamed {e : CompileError} (hnames : checkNames className intent = .error e) (mode : Mode)
    (world : World σ) : executeFor store mode deadline className intent world = (.error (.compile e), world) := by
  rw [executeFor.eq_def, hnames]

theorem executeFor_perRecord (hnames : checkNames className intent = .ok ()) (world : World σ) :
    executeFor store .perRecord deadline className intent world =
      Prod.map (fun outcomes => .ok ⟨outcomes⟩) id
        (applyEach store deadline className intent 0 intent.records world) := by
  rw [executeFor, hnames]
  rfl

theorem applySingly_eq (hnames : checkNames className intent = .ok ()) (index : Nat) (records : List Record)
    (world : World σ) :
    applySingly store deadline className intent records world =
      Prod.map singly id (applyEach store deadline className intent index records world) := by
  induction records generalizing index world with
  | nil => rfl
  | cons record rest ih =>
    rw [applySingly, executeFor_perRecord store deadline className { intent with records := [record] } hnames]
    dsimp only [applyEach, Prod.map]
    rw [applyRecord_at store deadline className { intent with records := [record] } record 0 index world, ih (index + 1)]
    rfl

theorem applySingly_of_misnamed {e : CompileError} (hnames : checkNames className intent = .error e)
    (records : List Record) (world : World σ) :
    applySingly store deadline className intent records world = (records.map fun _ => .error (.compile e), world) := by
  induction records generalizing world with
  | nil => rfl
  | cons record rest ih =>
    rw [applySingly, executeFor_of_misnamed store deadline className { intent with records := [record] } hnames]
    dsimp only
    rw [ih]
    rfl

theorem Outcome.atRecord_atRecord (index other : Nat) (outcome : Outcome) :
    (outcome.atRecord other).atRecord index = outcome.atRecord index := by
  cases outcome with
  | error e => exact congrArg Except.error (e.atRecord_atRecord index other)
  | ok applied => rfl

/-- An outcome for the first position is the one of any position but for that. -/
theorem applyEach_at (index : Nat) (records : List Record) (world : World σ) :
    (applyEach store deadline className intent index records world).1 =
      ((applyEach store deadline className intent index records world).1.map (Outcome.atRecord 0)).mapIdx
        fun i outcome => outcome.atRecord (index + i) := by
  induction records generalizing index world with
  | nil => rfl
  | cons record rest ih =>
    have hfirst := congrArg Prod.fst (applyRecord_at store deadline className intent record index index world)
    dsimp only [applyEach]
    rw [List.map_cons, List.mapIdx_cons, Outcome.atRecord_atRecord]
    refine congrArg₂ List.cons hfirst ((ih (index + 1) _).trans (List.mapIdx_eq_mapIdx_iff.2 fun i _ => ?_))
    rw [Nat.add_assoc, Nat.add_comm 1 i]

/-- The calls for the records from the position `index` on are those for each of them, one after another. -/
theorem applyEach_pieces (index : Nat) (records : List Record) (world : World σ) :
    Performs (fun _ store => applyEach store deadline className intent index records) store world
      fun calls outcomes => ∃ pieces : List (List Exchange), calls = pieces.flatten ∧
        pieces.length = records.length ∧ outcomes.length = records.length ∧
        ∀ i record piece outcome, records[i]? = some record → pieces[i]? = some piece → outcomes[i]? = some outcome →
          let left := (applyEach store deadline className intent index (records.take i) world).2
          Makes (fun _ store => applyRecord store deadline className intent record (index + i)) store left piece ∧
            outcome = (applyRecord store deadline className intent record (index + i) left).1 ∧
            Handles deadline className record (index + i) intent piece outcome := by
  induction records generalizing index world with
  | nil => exact .pure (fun _ _ _ => rfl) ⟨[], rfl, rfl, rfl, by simp⟩
  | cons record rest ih =>
    refine (applyRecord_performs store deadline className record index world intent).makes.bind
      fun first next outcome hfirst hrun => ⟨fun _ store world => Prod.map (outcome :: ·) id
        (applyEach store deadline className intent (index + 1) rest world), fun τ store world next h => ?_,
        (ih (index + 1) next).map _ (fun _ _ _ => rfl) ?_⟩
    · rw [applyEach, h]
      rfl
    · rintro _ outcomes ⟨pieces, rfl, hpieces, houtcomes, hrest⟩
      refine ⟨first :: pieces, by simp, by simp [hpieces], by simp [houtcomes], fun i other piece result => ?_⟩
      cases i with
      | zero =>
        rintro ⟨⟩ ⟨⟩ ⟨⟩
        exact ⟨hfirst.1, by simp [applyEach, hrun], hfirst.2⟩
      | succ i =>
        intro hrecord hpiece hresult
        simpa [applyEach, hrun, Nat.add_assoc, Nat.add_comm 1] using hrest i other piece result hrecord hpiece hresult

theorem applyEach_performs (index : Nat) (records : List Record) (world : World σ) :
    Performs (fun _ store => applyEach store deadline className intent index records) store world
      fun _ outcomes => outcomes.length = records.length := by
  refine (applyEach_pieces store deadline className intent index records world).mono ?_
  rintro _ outcomes ⟨pieces, -, -, hlength, -⟩
  exact hlength

end Sequences

/-- A batch record by record asks the same of the store, and leaves it in the same state, as intents for one record each that are applied one after another. Its outcomes are theirs but for the positions of the records. It fails as a whole only before anything is asked, and then each of these intents fails in the same way. -/
theorem batch_is_sequence {σ : Type} (store : Store σ) (deadline : Deadline) (className : String) (intent : Intent)
    (world : World σ) :
    ∃ exchanges,
      Procedure.Makes (fun _ store => executeFor store .perRecord deadline className intent) store world exchanges ∧
      Procedure.Makes (fun _ store => applySingly store deadline className intent intent.records) store world exchanges ∧
      (executeFor store .perRecord deadline className intent world).2 =
        (applySingly store deadline className intent intent.records world).2 ∧
      match (executeFor store .perRecord deadline className intent world).1 with
      | .error e =>
        exchanges = [] ∧
          (applySingly store deadline className intent intent.records world).1 = intent.records.map fun _ => .error e
      | .ok report =>
        report.outcomes.length = intent.records.length ∧ ∃ outcomes : List Outcome,
          (applySingly store deadline className intent intent.records world).1 =
            outcomes.map (fun outcome => .ok ⟨[outcome]⟩) ∧
          report.outcomes = outcomes.mapIdx (fun index outcome => outcome.mapError (Error.atRecord index)) ∧
          outcomes = report.outcomes.map fun outcome => outcome.mapError (Error.atRecord 0) := by
  cases hnames : checkNames className intent with
  | error e =>
    have hbatch := fun (τ : Type) (store : Store τ) =>
      executeFor_of_misnamed store deadline className intent hnames .perRecord
    have hsingly := fun (τ : Type) (store : Store τ) =>
      applySingly_of_misnamed store deadline className intent hnames intent.records
    refine ⟨[], .congr (.pure _) hbatch, .congr (.pure _) hsingly, ?_, ?_⟩
    · rw [hbatch, hsingly]
    · rw [hbatch, hsingly]
      exact ⟨rfl, rfl⟩
  | ok _ =>
    obtain ⟨exchanges, hmakes, hlength⟩ := applyEach_performs store deadline className intent 0 intent.records world
    have hbatch := fun (τ : Type) (store : Store τ) => executeFor_perRecord store deadline className intent hnames
    have hsingly := fun (τ : Type) (store : Store τ) =>
      applySingly_eq store deadline className intent hnames 0 intent.records
    refine ⟨exchanges, (hmakes.map _).congr hbatch, (hmakes.map _).congr hsingly, ?_, ?_⟩
    · rw [hbatch, hsingly]
      rfl
    · rw [hbatch, hsingly]
      have houtcomes := applyEach_at store deadline className intent 0 intent.records world
      simp only [Nat.zero_add] at houtcomes
      exact ⟨hlength, _, rfl, houtcomes, rfl⟩

end Dml

end ObjectStore
