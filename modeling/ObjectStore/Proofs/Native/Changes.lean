import ObjectStore.Proofs.Class.Registries
import ObjectStore.Proofs.Dml.Batches
import ObjectStore.Proofs.Dml.Isolation
import ObjectStore.Proofs.Query.Plans
import ObjectStore.Session.Basic
import ObjectStore.Tables.Store

/-!
# Changes that scripts ask for

A session applies an intent to the records of a class of its registry, and a script hands a list of records to a method of the native class, which finds the class in the first of them. The two ways meet in the same batch: with the same deadline the store is asked the same and left the same, the batch fails in the same way, and what the script is told of each record is whether its outcome is one that the session reports as applied.
-/

namespace ObjectStore

/-! ### Reports of batches -/

namespace Dml

open Procedure (Performs)

/-- The outcomes of a batch are as many as its records and, in one transaction, either all applied or all failed. -/
def Report.Accounts (mode : Mode) (intent : Intent) (report : Report) : Prop :=
  report.outcomes.length = intent.records.length ∧
    (mode = .atomic → (∀ outcome ∈ report.outcomes, isApplied outcome = true) ∨
      ∀ outcome ∈ report.outcomes, isApplied outcome = false)

theorem Report.accounts_applied {mode : Mode} {intent : Intent} {applied : List Applied}
    (hlength : applied.length = intent.records.length) : Report.Accounts mode intent ⟨applied.map .ok⟩ := by
  refine ⟨by rw [List.length_map, hlength], fun _ => .inl fun outcome houtcome => ?_⟩
  obtain ⟨_, -, rfl⟩ := List.mem_map.1 houtcome
  rfl

theorem Report.accounts_rolledBack (mode : Mode) (intent : Intent) (failed : Nat) (e : Error) :
    Report.Accounts mode intent ⟨rolledBack intent.records.length failed e⟩ := by
  refine ⟨by rw [rolledBack, List.length_map, List.length_range], fun _ => .inr fun outcome houtcome => ?_⟩
  obtain ⟨_, -, rfl⟩ := List.mem_map.1 houtcome
  rfl

theorem Batch.accounts {deadline : Deadline} {className : String} {intent : Intent} {exchanges : List Exchange}
    {result : Except Error Report} (h : Batch deadline className intent exchanges result) {report : Report}
    (hreport : result = .ok report) : report.Accounts .atomic intent := by
  cases h with
  | committed happlied =>
    cases hreport
    exact Report.accounts_applied happlied.length_eq
  | undone _ =>
    cases hreport
    exact Report.accounts_rolledBack _ _ _ _
  | misnamed _ => cases hreport
  | unopened _ => cases hreport
  | uncommitted _ _ => cases hreport
  | stuck _ _ => cases hreport

theorem executeFor_accounts {σ : Type} (store : Store σ) (mode : Mode) (deadline : Deadline) (className : String)
    (intent : Intent) (world : World σ) :
    Performs (fun _ store => executeFor store mode deadline className intent) store world
      fun _ result => ∀ report, result = .ok report → report.Accounts mode intent := by
  cases mode with
  | atomic => exact (executeFor_performs store deadline className intent world).mono fun _ _ h _ => h.accounts
  | perRecord =>
    cases hnames : checkNames className intent with
    | error e =>
      exact .pure (fun _ store => executeFor_of_misnamed store deadline className intent hnames .perRecord) fun _ h => by
        cases h
    | ok _ =>
      refine (applyEach_performs store deadline className intent 0 intent.records world).map (fun outcomes => .ok ⟨outcomes⟩)
        (fun _ store => executeFor_perRecord store deadline className intent hnames) fun _ outcomes hlength report h => ?_
      cases h
      exact ⟨hlength, fun hmode => by cases hmode⟩

end Dml

namespace Native

open Dml (Operation Settings Intent Report)

/-! ### Calls of the methods -/

section Calls

variable {σ : Type} (store : Store σ) (settings : Settings) {operation : Operation} (records : List Record)
  {key : Option String}

/-- The arguments of a change: the records and, if there is one, the name of the key field. -/
def changeCall (records : List Record) (key : Option String) : List Value :=
  .list (records.map .ofRecord) :: key.toList.map .string

theorem recordsFrom_map (method : String) (index : Nat) :
    recordsFrom method index (records.map .ofRecord) = .ok records := by
  induction records generalizing index with
  | nil => rfl
  | cons record records ih =>
    rw [List.map_cons, recordsFrom, Value.ofRecord, Value.asRecord?]
    exact bind_eq_ok.2 ⟨records, ih (index + 1), rfl⟩

theorem changeArguments_changeCall (operation : Operation) (key : Option String) :
    changeArguments operation key.isSome (changeCall records key) = .ok (records, key) := by
  have hrecords : ∀ others : List Value,
      (argument databaseName operation.name (.list (records.map .ofRecord) :: others) 0 >>= Native.records operation.name) =
        .ok records :=
    fun _ => recordsFrom_map records operation.name 0
  cases key with
  | none => exact bind_eq_ok.2 ⟨none, rfl, bind_eq_ok.2 ⟨_, rfl, bind_eq_ok.2 ⟨records, hrecords [], rfl⟩⟩⟩
  | some key => exact bind_eq_ok.2 ⟨some key, rfl, bind_eq_ok.2 ⟨_, rfl, bind_eq_ok.2 ⟨records, hrecords [.string key], rfl⟩⟩⟩

/-- A list of records goes to the overload without a key, a list and a text to the one with a key. -/
theorem resolveIn_changeCall (hkey : key.isSome = true → operation = .upsert) :
    (database settings).resolveIn (database settings).staticMethods operation.name (changeCall records key) =
      .ok (changeMethod settings operation key.isSome) := by
  have htypes : (changeCall records key).map Value.typeName = if key.isSome then ["List", "String"] else ["List"] := by
    cases key <;> rfl
  have hmethod : (database settings).staticMethods.resolve? operation.name
      (if key.isSome then ["List", "String"] else ["List"]) = some (changeMethod settings operation key.isSome) := by
    cases key with
    | none => cases operation <;> rfl
    | some key =>
      rw [hkey rfl]
      rfl
  simp only [ClassType.resolveIn, htypes, hmethod]

/-- The reply to a change, from what the batch came to. -/
def replyOf (run : Except Error Report × World σ) : Reply σ :=
  ⟨(run.1.map changed).map .returned, [], run.2⟩

theorem invokeStatic_changeCall (first : Record) (rest : List Record) (hkey : key.isSome = true → operation = .upsert)
    (context : Context) (world : World σ) :
    (database settings).invokeStatic store operation.name (changeCall (first :: rest) key) context world =
      replyOf (Dml.executeFor store settings.mode (world.issue settings.duration).1 first.className
        ⟨operation, first.className, first :: rest, key⟩ (world.issue settings.duration).2) := by
  rw [ClassType.invokeStatic, ClassType.invokeIn, resolveIn_changeCall settings (first :: rest) hkey]
  change (NativeBody.database settings (.change operation key.isSome)).run store _ world = _
  rw [NativeBody.run, answer, change, changeArguments_changeCall]
  rfl

theorem execute_of_registered (session : Session σ) (intent : Intent)
    (htarget : session.registry.contains intent.target = true) (deadline : Deadline) (world : World σ) :
    session.execute intent deadline world =
      Dml.executeFor session.store session.config.settings.mode deadline intent.target intent world := by
  obtain ⟨target, hlookup⟩ := Option.isSome_iff_exists.1 htarget
  rw [Session.execute, Dml.execute, Registry.resolve, hlookup]
  dsimp only
  rw [Registry.name_of_lookup? hlookup]

/-- An installation adds the class over the same settings, under a name that was free. -/
theorem installDatabase_eq_ok {tables : List String} {before after : Registry} {start : World σ}
    (h : (installDatabase store settings tables before start).1 = .ok after) :
    databaseName ∉ before.names ∧ after = ⟨before.classes ++ [database settings]⟩ := by
  rw [installDatabase] at h
  dsimp only at h
  split at h
  · cases h
  · split at h
    · cases h
    · exact Registry.register_eq_ok_iff.1 (mapError_eq_ok.1 h)

theorem resolve_of_installed {tables : List String} {before after : Registry} {start : World σ}
    (h : (installDatabase store settings tables before start).1 = .ok after) :
    after.resolve databaseName = .ok (database settings) := by
  obtain ⟨hname, rfl⟩ := installDatabase_eq_ok store settings h
  have hearlier : before.classes.find? (fun c => c.name == databaseName) = none :=
    List.find?_eq_none.2 fun c hc heq => hname (List.mem_map.2 ⟨c, hc, beq_iff_eq.1 heq⟩)
  rw [Registry.resolve, Registry.lookup?, List.find?_append, hearlier]
  rfl

end Calls

/-- A script that changes records asks the same of the store as a session over it that applies the intent for them with a deadline of its own, and leaves it the same. The call fails exactly if the batch of the session fails, in the same way, and else it answers for each record whether its outcome is one that was applied. -/
theorem changes_as_in_session {σ : Type} {session : Session σ} {tables : List String} {before after : Registry}
    {start : World σ} {c : ClassType}
    (hinstalled : (installDatabase session.store session.config.settings tables before start).1 = .ok after)
    (hc : after.resolve databaseName = .ok c) (operation : Operation) (first : Record) (rest : List Record)
    (hfirst : session.registry.contains first.className = true) (key : Option String)
    (hkey : key.isSome = true → operation = .upsert) (context : Context) (world : World σ) :
    let intent : Intent := ⟨operation, first.className, first :: rest, key⟩
    let issued := session.deadline none world
    let applied := session.execute intent issued.1 issued.2
    let reply := c.invokeStatic session.store operation.name (changeCall (first :: rest) key) context world
    (∃ exchanges,
      Procedure.Makes (fun _ store => Session.execute ⟨session.registry, store, session.config⟩ intent issued.1)
        session.store issued.2 exchanges ∧
      ∀ earlier, c.invokeStatic session.store.recording operation.name (changeCall (first :: rest) key) context
        (world.recorded earlier) = ⟨reply.answer, [], reply.world.recorded (earlier ++ exchanges)⟩) ∧
    reply.world = applied.2 ∧ reply.log = [] ∧
    match applied.1 with
    | .error e => reply.answer = .error e
    | .ok report =>
      reply.answer = .ok (.returned (.list (report.outcomes.map fun outcome => .boolean (Report.isApplied outcome)))) ∧
      report.outcomes.length = (first :: rest).length ∧
      (session.config.settings.mode = .atomic → (∀ outcome ∈ report.outcomes, Report.isApplied outcome = true) ∨
        ∀ outcome ∈ report.outcomes, Report.isApplied outcome = false) := by
  rw [resolve_of_installed session.store session.config.settings hinstalled] at hc
  cases hc
  intro intent issued applied reply
  -- both ways lead to the same batch, over every store
  have hsession : ∀ (τ : Type) (store : Store τ) (w : World τ),
      Session.execute ⟨session.registry, store, session.config⟩ intent issued.1 w =
        Dml.executeFor store session.config.settings.mode issued.1 first.className intent w :=
    fun _ store => execute_of_registered ⟨session.registry, store, session.config⟩ intent hfirst issued.1
  have hreply : ∀ (τ : Type) (store : Store τ) (w : World τ),
      (database session.config.settings).invokeStatic store operation.name (changeCall (first :: rest) key) context w =
        replyOf (Dml.executeFor store session.config.settings.mode (w.issue session.config.settings.duration).1
          first.className intent (w.issue session.config.settings.duration).2) :=
    fun _ store => invokeStatic_changeCall store session.config.settings first rest hkey context
  obtain ⟨exchanges, hmakes, hspec⟩ := Dml.executeFor_accounts session.store session.config.settings.mode issued.1
    first.className intent issued.2
  have happlied : applied = Dml.executeFor session.store session.config.settings.mode issued.1 first.className intent
      issued.2 := hsession σ session.store issued.2
  have hanswer : reply = replyOf applied := happlied ▸ hreply σ session.store world
  have haccounts : ∀ report, applied.1 = .ok report → report.Accounts session.config.settings.mode intent :=
    fun report h => hspec report ((congrArg Prod.fst happlied).symm.trans h)
  refine ⟨⟨exchanges, hmakes.congr hsession, fun earlier => ?_⟩, ?_, ?_, ?_⟩
  · rw [hreply, hanswer, happlied]
    change replyOf (Dml.executeFor session.store.recording session.config.settings.mode issued.1 first.className intent
      (issued.2.recorded earlier)) = _
    rw [hmakes.recorded earlier]
    rfl
  · rw [hanswer]
    rfl
  · rw [hanswer]
    rfl
  · rw [hanswer, replyOf]
    cases hresult : applied.1 with
    | error e => rfl
    | ok report => exact ⟨rfl, haccounts report hresult⟩

/-- A session over a table with one account, in which scripts may change records one by one. -/
def scriptedSession : Session Tables.Database :=
  ⟨⟨[.bare "Account"]⟩, Tables.store, Config.inMemory⟩

def scriptedWorld : World Tables.Database :=
  ⟨⟨0, [], 1⟩, ⟨[⟨"Account", [⟨"id", .text, true⟩, ⟨"name", .text, false⟩], [[.text "12345", .text "hoge"]]⟩], none, 0⟩⟩

def newAccount : Record := ⟨"Account", [("Id", .string "abcde")]⟩

/-- A record of another class, and a change of the account that is there. -/
def laterRecords : List Record :=
  [⟨"Contact", [("Id", .string "a")]⟩, ⟨"Account", [("Id", .string "12345"), ("Name", .string "piyo")]⟩]

/-- A script that adds or changes these records is told of each whether that was done. -/
theorem script_upserts_accounts : ∃ after c,
    (installDatabase scriptedSession.store scriptedSession.config.settings ["Account"] scriptedSession.registry
      scriptedWorld).1 = .ok after ∧
    after.resolve databaseName = .ok c ∧ scriptedSession.registry.contains newAccount.className = true ∧
    (c.invokeStatic scriptedSession.store Operation.upsert.name (changeCall (newAccount :: laterRecords) (some "Id")) []
      scriptedWorld).answer = .ok (.returned (.list [.boolean true, .boolean false, .boolean true])) := by
  have hinstalls : (installDatabase scriptedSession.store scriptedSession.config.settings ["Account"]
      scriptedSession.registry scriptedWorld).1.toOption.isSome = true := by decide +kernel
  have houtcomes : ((scriptedSession.execute ⟨.upsert, newAccount.className, newAccount :: laterRecords, some "Id"⟩
      (scriptedSession.deadline none scriptedWorld).1 (scriptedSession.deadline none scriptedWorld).2).1.map
        fun report => report.outcomes.map Report.isApplied).toOption = some [true, false, true] := by decide +kernel
  obtain ⟨after, hinstalled⟩ : ∃ after, (installDatabase scriptedSession.store scriptedSession.config.settings ["Account"]
      scriptedSession.registry scriptedWorld).1 = .ok after := by
    generalize (installDatabase scriptedSession.store scriptedSession.config.settings ["Account"]
      scriptedSession.registry scriptedWorld).1 = result at hinstalls
    cases result with
    | error e => cases hinstalls
    | ok after => exact ⟨after, rfl⟩
  have hc := resolve_of_installed scriptedSession.store scriptedSession.config.settings hinstalled
  have hfirst : scriptedSession.registry.contains newAccount.className = true := rfl
  refine ⟨after, _, hinstalled, hc, hfirst, ?_⟩
  have hagree := changes_as_in_session hinstalled hc .upsert newAccount laterRecords hfirst (some "Id") (fun _ => rfl) []
    scriptedWorld
  extract_lets intent issued applied reply at hagree
  change (applied.1.map fun report => report.outcomes.map Report.isApplied).toOption = _ at houtcomes
  change reply.answer = _
  -- the two runs are known by what the general statement says of them, and are not run again
  clear_value applied reply
  obtain ⟨-, -, -, hanswer⟩ := hagree
  cases hresult : applied.1 with
  | error e =>
    rw [hresult] at houtcomes
    cases houtcomes
  | ok report =>
    rw [hresult] at houtcomes hanswer
    have hflags : report.outcomes.map Report.isApplied = [true, false, true] := Option.some.inj houtcomes
    have hmap : report.outcomes.map (fun outcome => Value.boolean (Report.isApplied outcome)) =
        [true, false, true].map Value.boolean := by
      rw [← hflags, List.map_map]
      rfl
    rw [hanswer.1, hmap]
    rfl

end Native

end ObjectStore
