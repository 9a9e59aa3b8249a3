import ObjectStore.Proofs.Dml.Batches
import ObjectStore.Proofs.Dml.Reports
import ObjectStore.Proofs.Store.Deadlines

/-!
# Batches whose deadline ends

All that a batch asks for is bound to its deadline, but for rollbacks. So with a store that looks at deadlines nothing else is started for it from the moment on at which its deadline is over. A record whose turn comes later fails, either to come by its first statement or because this statement is refused. In one transaction the batch fails as a whole, or each of its records does, unless the commit was let through before; and a transaction that was opened and not committed is rolled back in any case. The store on an engine is such a store, so all of this is true of what the engine is told to do.
-/

namespace ObjectStore.Dml

/-! ### The calls of a batch -/

section Calls

variable {deadline : Deadline} {className : String} {record : Record} {key : String} {index : Nat} {intent : Intent}
  {exchanges : List Exchange} {outcome : Outcome}

/-- Questions and changes only, bound to a deadline. -/
def AllStatements (deadline : Deadline) (exchanges : List Exchange) : Prop :=
  ∀ exchange ∈ exchanges, ∃ sql, exchange.call = .query deadline sql ∨ exchange.call = .execute deadline sql

theorem AllStatements.append {first second : List Exchange} (h : AllStatements deadline first)
    (h' : AllStatements deadline second) : AllStatements deadline (first ++ second) := by
  intro exchange hmem
  rcases List.mem_append.1 hmem with hmem | hmem
  · exact h exchange hmem
  · exact h' exchange hmem

theorem AllStatements.boundTo (h : AllStatements deadline exchanges) : BoundTo deadline exchanges := by
  intro exchange hmem
  obtain ⟨sql, hcall | hcall⟩ := h exchange hmem <;> simp [hcall, StoreCall.deadline?]

theorem Runs.allStatements {operation : Operation} {statement : Except Error Sql.Statement}
    (h : Runs deadline index operation statement exchanges outcome) : AllStatements deadline exchanges := by
  cases h <;> simp [AllStatements]

theorem Upserts.allStatements (h : Upserts deadline className record index key exchanges outcome) :
    AllStatements deadline exchanges := by
  cases h with
  | absent h hrun => simpa [AllStatements] using hrun.allStatements
  | present h row rows hupdate hrun => simpa [AllStatements] using hrun.allStatements
  | unasked h => simp [AllStatements]
  | unanswered h e => simp [AllStatements]
  | unwritable h row rows hupdate => simp [AllStatements]
  | settled h row rows hupdate => simp [AllStatements]

theorem Handles.allStatements (h : Handles deadline className record index intent exchanges outcome) :
    AllStatements deadline exchanges := by
  cases h with
  | foreign h => simp [AllStatements]
  | insert hclass h hrun => exact hrun.allStatements
  | update hclass h hrun => exact hrun.allStatements
  | delete hclass h hrun => exact hrun.allStatements
  | upsert hclass h hupsert => exact hupsert.allStatements

theorem AllApplied.allStatements {records : List Record} {applied : List Applied}
    (h : AllApplied deadline className intent index records exchanges applied) : AllStatements deadline exchanges := by
  induction h with
  | nil index => simp [AllStatements]
  | cons h hrest ih => exact h.allStatements.append ih

theorem StopsAt.allStatements {failed : Nat} {e : Error} {records : List Record}
    (h : StopsAt deadline className intent failed e index records exchanges) : AllStatements deadline exchanges := by
  induction h with
  | here h => exact h.allStatements
  | later h hrest ih => exact h.allStatements.append ih

end Calls

/-! ### A batch in one transaction -/

section Transactions

variable {deadline : Deadline} {className : String} {intent : Intent} {calls : List Exchange}
  {result : Except Error Report}

/-- No record is reported as applied. -/
def AllFail (result : Except Error Report) : Prop :=
  ∀ report, result = .ok report → ∀ outcome ∈ report.outcomes, ∃ e, outcome = .error e

theorem allFail_error (e : Error) : AllFail (.error e) := fun _ h => by cases h

theorem allFail_rolledBack (count failed : Nat) (e : Error) : AllFail (.ok ⟨rolledBack count failed e⟩) := by
  intro report hreport outcome hmem
  cases hreport
  obtain ⟨index, -, rfl⟩ := List.mem_map.1 hmem
  exact ⟨_, rfl⟩

/-- Records are reported as applied only after a commit. -/
theorem Batch.allFail (h : Batch deadline className intent calls result)
    (hcommit : ⟨.commit deadline, .ok ()⟩ ∉ calls) : AllFail result := by
  cases h with
  | committed h => simp at hcommit
  | undone h => exact allFail_rolledBack _ _ _
  | misnamed h => exact allFail_error _
  | unopened e => exact allFail_error _
  | uncommitted h e => exact allFail_error _
  | stuck h e => exact allFail_error _

theorem Batch.timedOut (h : Batch deadline className intent calls result) {c : StoreCall} {t : Timeout}
    (hc : c = .openTransaction deadline ∨ c = .commit deadline) (hmem : ⟨c, .error (.timeout t)⟩ ∈ calls) :
    result = .error (.timeout t) := by
  -- An opening or a commit is none of the statements in between.
  have hother : ∀ {changes}, AllStatements deadline changes → ⟨c, .error (.timeout t)⟩ ∉ changes := by
    intro changes hchanges hmem
    obtain ⟨sql, hsql⟩ := hchanges _ hmem
    rcases hc with rfl | rfl <;> simp at hsql
  cases h with
  | misnamed h => simp at hmem
  | unopened e =>
    rcases hc with rfl | rfl
    · have he : StoreError.timeout t = e := by simpa using hmem
      rw [← he]
      rfl
    · simp at hmem
  | committed h => rcases hc with rfl | rfl <;> simp [hother h.allStatements] at hmem
  | uncommitted h e =>
    rcases hc with rfl | rfl
    · simp [hother h.allStatements] at hmem
    · have he : StoreError.timeout t = e := by simpa [hother h.allStatements] using hmem
      rw [← he]
      rfl
  | undone h => rcases hc with rfl | rfl <;> simp [hother h.allStatements] at hmem
  | stuck h e => rcases hc with rfl | rfl <;> simp [hother h.allStatements] at hmem

/-- A transaction that was opened is rolled back last unless a commit was tried. -/
theorem Batch.rollsBack (h : Batch deadline className intent calls result)
    (hopen : ⟨.openTransaction deadline, .ok ()⟩ ∈ calls) (hcommit : ∀ answer, ⟨.commit deadline, answer⟩ ∉ calls) :
    ∃ before answer, calls = before ++ [⟨.rollback, answer⟩] := by
  cases h with
  | misnamed h => simp at hopen
  | unopened e => simp at hopen
  | committed h => exact absurd (by simp) (hcommit (.ok ()))
  | uncommitted h e => exact absurd (by simp) (hcommit (.error e))
  | @undone changes failed own h => exact ⟨⟨.openTransaction deadline, .ok ()⟩ :: changes, .ok (), rfl⟩
  | @stuck changes failed own h e => exact ⟨⟨.openTransaction deadline, .ok ()⟩ :: changes, .error e, rfl⟩

theorem Batch.boundTo (h : Batch deadline className intent calls result) : BoundTo deadline calls := by
  cases h with
  | misnamed h => exact boundTo_nil deadline
  | unopened e => simp [StoreCall.deadline?]
  | committed h => simp [StoreCall.deadline?, h.allStatements.boundTo]
  | uncommitted h e => simp [StoreCall.deadline?, h.allStatements.boundTo]
  | undone h => simp [StoreCall.deadline?, h.allStatements.boundTo]
  | stuck h e => simp [StoreCall.deadline?, h.allStatements.boundTo]

end Transactions

/-! ### The first statement for a record -/

section Records

variable {deadline : Deadline} {className : String} {record : Record} {key : String} {index : Nat} {intent : Intent}
  {exchanges : List Exchange} {outcome : Outcome}

/-- The first statement that is sent for a record. -/
def firstStatement (className : String) (intent : Intent) (record : Record) (index : Nat) :
    Except Error Sql.Statement :=
  if record.className ≠ className then .error (.compile (.classMismatch className record.className))
  else
    match intent.operation with
    | .insert => (insertStatement className record).mapError .compile
    | .update => updateStatement className record index
    | .delete => deleteStatement className record index
    | .upsert => lookupStatement className record (intent.upsertKey.getD idField) index

theorem firstStatement_failsEarly (className : String) (intent : Intent) (record : Record) (index : Nat) :
    FailsEarly (firstStatement className intent record index) := by
  unfold firstStatement
  split
  · exact .error (.inl rfl)
  · cases intent.operation with
    | insert => exact .mapError _
    | update => exact updateStatement_failsEarly _ _ _
    | delete => exact deleteStatement_failsEarly _ _ _
    | upsert => exact lookupStatement_failsEarly _ _ _ _

/-- The exchanges start with a statement, whose failure is reported, or if there is none, its lack is reported. -/
def Begins (deadline : Deadline) (index : Nat) (statement : Except Error Sql.Statement) (exchanges : List Exchange)
    (outcome : Outcome) : Prop :=
  match statement with
  | .error e => exchanges = [] ∧ outcome = .error e
  | .ok statement => ∃ exchange rest, exchanges = exchange :: rest ∧ exchange.call.deadline? = some deadline ∧
      exchange.call.statement = statement.render ∧ ∀ e, exchange.failure? index = some e → outcome = .error e

theorem Runs.begins {operation : Operation} {statement : Except Error Sql.Statement}
    (h : Runs deadline index operation statement exchanges outcome) :
    Begins deadline index statement exchanges outcome := by
  cases h <;> simp [Begins, Exchange.failure?, StoreCall.deadline?, StoreCall.statement]

theorem Upserts.begins (h : Upserts deadline className record index key exchanges outcome) :
    Begins deadline index (lookupStatement className record key index) exchanges outcome := by
  cases h <;> simp [Begins, Exchange.failure?, StoreCall.deadline?, StoreCall.statement, *]

theorem Handles.begins (h : Handles deadline className record index intent exchanges outcome) :
    Begins deadline index (firstStatement className intent record index) exchanges outcome := by
  unfold firstStatement
  cases h with
  | foreign h =>
    rw [if_pos h]
    exact ⟨rfl, rfl⟩
  | insert hclass h hrun =>
    rw [if_neg (not_not.2 hclass), h]
    exact hrun.begins
  | update hclass h hrun =>
    rw [if_neg (not_not.2 hclass), h]
    exact hrun.begins
  | delete hclass h hrun =>
    rw [if_neg (not_not.2 hclass), h]
    exact hrun.begins
  | upsert hclass h hupsert =>
    rw [if_neg (not_not.2 hclass), h]
    exact hupsert.begins

/-- A record whose turn comes when the deadline is over fails for want of a first statement, or because this statement is refused. -/
theorem outcome_of_over {σ : Type} {store : Store σ} {rollsBack : Bool} {world : World σ} {reason : Interruption}
    (hreason : deadline.interruption? world.clock = some reason) (className : String) (intent : Intent)
    (record : Record) (index : Nat) :
    (applyRecord (store.checked rollsBack) deadline className intent record index world).1 =
      (firstStatement className intent record index).bind fun statement => .error (.timeout ⟨statement.render, reason⟩) := by
  obtain ⟨exchanges, hmakes, hhandles⟩ :=
    applyRecord_performs (store.checked rollsBack) deadline className record index world intent
  have hbegins := hhandles.begins
  cases hfirst : firstStatement className intent record index with
  | error e =>
    rw [hfirst] at hbegins
    exact hbegins.2
  | ok statement =>
    rw [hfirst] at hbegins
    obtain ⟨⟨call, answer⟩, rest, rfl, hdeadline, hstatement, hfailure⟩ := hbegins
    obtain ⟨next, hcall, -⟩ := Store.leads_cons.1 hmakes.leads
    rw [Store.call_checked_of_over _ _ hreason hdeadline, hstatement] at hcall
    have hanswer : answer = .error (.timeout ⟨statement.render, reason⟩) := (congrArg Prod.fst hcall).symm
    apply hfailure
    rw [hanswer]
    rfl

end Records

/-! ### Whole batches -/

section Batches

open Procedure (Performs)

variable {σ : Type} (store : Store σ) (deadline : Deadline) (className : String) (intent : Intent) (world : World σ)

theorem applyEach_boundTo (index : Nat) (records : List Record) :
    Performs (fun _ store => applyEach store deadline className intent index records) store world
      fun calls _ => BoundTo deadline calls := by
  refine (applyEach_pieces store deadline className intent index records world).mono ?_
  rintro _ outcomes ⟨pieces, rfl, hpieces, houtcomes, hrecords⟩ exchange hmem
  obtain ⟨piece, hpiece, hmem⟩ := List.mem_flatten.1 hmem
  obtain ⟨i, hi, rfl⟩ := List.getElem_of_mem hpiece
  have hhandles := (hrecords i records[i] pieces[i] outcomes[i] (by simp) (by simp) (by simp)).2.2
  exact hhandles.allStatements.boundTo exchange hmem

theorem executeFor_boundTo (mode : Mode) :
    Performs (fun _ store => executeFor store mode deadline className intent) store world
      fun calls _ => BoundTo deadline calls := by
  cases mode with
  | atomic => exact (executeFor_performs store deadline className intent world).mono fun _ _ h => h.boundTo
  | perRecord =>
    cases hnames : checkNames className intent with
    | error e =>
      exact .pure (fun _ store => executeFor_of_misnamed store deadline className intent hnames .perRecord)
        (boundTo_nil deadline)
    | ok _ =>
      exact (applyEach_boundTo store deadline className intent world 0 intent.records).map _
        (fun _ store => executeFor_perRecord store deadline className intent hnames) fun _ _ h => h

variable {store deadline className intent world}

/-- The outcome of a record is what applying it comes to when its turn comes. -/
theorem outcome_in_turn {report : Report}
    (hreport : (executeFor store .perRecord deadline className intent world).1 = .ok report) {index : Nat}
    {record : Record} (hrecord : intent.records[index]? = some record) :
    report.outcomes[index]? = some (applyRecord store deadline className intent record index
      (leftBy store deadline className intent index world)).1 := by
  cases hnames : checkNames className intent with
  | error e =>
    rw [executeFor_of_misnamed store deadline className intent hnames] at hreport
    cases hreport
  | ok _ =>
    rw [executeFor_perRecord store deadline className intent hnames] at hreport
    cases hreport
    obtain ⟨_, -, pieces, -, hpieces, houtcomes, hrecords⟩ :=
      applyEach_pieces store deadline className intent 0 intent.records world
    obtain ⟨hindex, -⟩ := List.getElem?_eq_some_iff.1 hrecord
    have houtcome := (hrecords index record pieces[index] _ hrecord (by simp) (List.getElem?_eq_getElem (by omega))).2.1
    rw [Nat.zero_add] at houtcome
    exact (List.getElem?_eq_getElem _).trans (congrArg some houtcome)

end Batches

/-! ### After the end of a deadline -/

section Late

variable {σ : Type} {store : Store σ} {rollsBack : Bool} {mode : Mode} {deadline : Deadline} {className : String}
  {intent : Intent} {before after calls : List Exchange} {result : Except Error Report} {start moment final : World σ}

/-- A batch whose deadline was over before its commit has no record that was applied. -/
theorem Batch.allFail_of_over (h : Batch deadline className intent (before ++ after) result)
    (hstays : store.StaysOver deadline) (hover : deadline.IsOver moment.clock)
    (hafter : (store.checked rollsBack).Leads moment after final)
    (hcommit : ∀ answer, ⟨.commit deadline, answer⟩ ∉ before) : AllFail result := by
  apply h.allFail
  intro hmem
  rcases List.mem_append.1 hmem with hmem | hmem
  · exact hcommit _ hmem
  · obtain ⟨reason, hrefused⟩ := refused_of_leads hstays hover hafter _ hmem rfl
    cases hrefused

theorem Batch.timedOut_of_over (h : Batch deadline className intent (before ++ after) result)
    (hstays : store.StaysOver deadline) (hover : deadline.IsOver moment.clock)
    (hafter : (store.checked rollsBack).Leads moment after final) {exchange : Exchange}
    (hmem : exchange ∈ after) (hcall : exchange.call = .openTransaction deadline ∨ exchange.call = .commit deadline) :
    ∃ reason, result = .error (.timeout ⟨exchange.call.statement, reason⟩) := by
  have hdeadline : exchange.call.deadline? = some deadline := by
    rcases hcall with hcall | hcall <;> rw [hcall] <;> rfl
  obtain ⟨reason, hrefused⟩ := refused_of_leads hstays hover hafter exchange hmem hdeadline
  refine ⟨reason, h.timedOut hcall ?_⟩
  rw [← hrefused]
  exact List.mem_append_right before hmem

/-- A batch whose deadline is over at a moment does nothing but roll back from then on. In one transaction it fails as a whole, or each of its records does, unless its commit was called before. -/
theorem executeFor_from_over (hstays : store.StaysOver deadline)
    (hmakes : Procedure.Makes (fun _ store => executeFor store mode deadline className intent) (store.checked rollsBack)
      start (before ++ after))
    (hbefore : (store.checked rollsBack).Leads start before moment) (hover : deadline.IsOver moment.clock) :
    let run := executeFor (store.checked rollsBack) mode deadline className intent start
    (∃ count, run.2 = store.rollbacks count moment) ∧
      (mode = .atomic →
        ((∀ answer, ⟨.commit deadline, answer⟩ ∉ before) → AllFail run.1) ∧
        ∀ exchange ∈ after, exchange.call = .openTransaction deadline ∨ exchange.call = .commit deadline →
          ∃ reason, run.1 = .error (.timeout ⟨exchange.call.statement, reason⟩)) := by
  intro run
  have hafter : (store.checked rollsBack).Leads moment after run.2 := hmakes.leads.after hbefore
  constructor
  · obtain ⟨calls, hcalls, hbound⟩ := executeFor_boundTo (store.checked rollsBack) deadline className intent start mode
    rw [hcalls.unique hmakes] at hbound
    exact rolledBack_of_leads hstays (boundTo_append.1 hbound).2 hover hafter
  · intro hmode
    subst hmode
    obtain ⟨calls, hcalls, hbatch⟩ := executeFor_performs (store.checked rollsBack) deadline className intent start
    rw [hcalls.unique hmakes] at hbatch
    exact ⟨hbatch.allFail_of_over hstays hover hafter, fun exchange => hbatch.timedOut_of_over hstays hover hafter⟩

/-- The last that is started for a batch which does not try to commit is a rollback. -/
theorem Batch.last_started (h : Batch deadline className intent calls result) {start final : World (Recorded σ)}
    (hleads : (store.recording.checked rollsBack).Leads start calls final)
    (hopen : ⟨.openTransaction deadline, .ok ()⟩ ∈ calls) (hcommit : ∀ answer, ⟨.commit deadline, answer⟩ ∉ calls) :
    final.started.getLast? = some .rollback := by
  obtain ⟨before, answer, rfl⟩ := h.rollsBack hopen hcommit
  obtain ⟨next, -, hrollback⟩ := Store.leads_append.1 hleads
  rw [Store.leads_singleton, Store.call_checked] at hrollback
  have hfinal : final = (store.record .rollback next).2 := (congrArg Prod.snd hrollback).symm
  rw [hfinal, started_record]
  exact List.getLast?_concat

theorem late_outcome {report : Report}
    (hreport : (executeFor (store.checked rollsBack) .perRecord deadline className intent start).1 = .ok report)
    {index : Nat} {record : Record} {reason : Interruption} (hrecord : intent.records[index]? = some record)
    (hreason : deadline.interruption?
      (leftBy (store.checked rollsBack) deadline className intent index start).clock = some reason) :
    ∃ e, report.outcomes[index]? = some (.error e) ∧
      (firstStatement className intent record index = .error e ∧ (e.kind = .compile ∨ e.kind = .lookup) ∨
        ∃ statement, firstStatement className intent record index = .ok statement ∧
          e = .timeout ⟨statement.render, reason⟩) := by
  have houtcome := outcome_in_turn hreport hrecord
  rw [outcome_of_over hreason] at houtcome
  cases hstatement : firstStatement className intent record index with
  | error e =>
    rw [hstatement] at houtcome
    exact ⟨e, houtcome, .inl ⟨rfl, firstStatement_failsEarly _ _ _ _ e hstatement⟩⟩
  | ok statement =>
    rw [hstatement] at houtcome
    exact ⟨_, houtcome, .inr ⟨statement, rfl, rfl⟩⟩

end Late

/-- With a store that looks at deadlines, a batch starts nothing but rollbacks from the moment on at which its deadline is over, and a deadline that is over stays so. Record by record, each record whose turn comes later fails, because there is no first statement for it or because this statement has timed out. In one transaction, the batch or each of its records fails if the commit had not been called before, and an opening or a commit that comes later has timed out, which is the failure of the batch. If the transaction was opened and no commit was called, then the last that is started is a rollback. -/
theorem nothing_starts_when_over {σ : Type} (inner : Store σ) (rollsBack : Bool) (mode : Mode) (deadline : Deadline)
    (className : String) (intent : Intent) (world : World σ) (hstays : inner.StaysOver deadline) :
    let store := inner.recording.checked rollsBack
    let start := world.recorded []
    let run := executeFor store mode deadline className intent start
    ∃ calls,
      Procedure.Makes (fun _ store => executeFor store mode deadline className intent) store start calls ∧
      (∀ before after moment, calls = before ++ after → store.Leads start before moment →
        deadline.IsOver moment.clock →
        (∃ count, run.2.started = moment.started ++ List.replicate count .rollback) ∧
        (mode = .atomic →
          ((∀ answer, ⟨.commit deadline, answer⟩ ∉ before) → AllFail run.1) ∧
          ∀ exchange ∈ after, exchange.call = .openTransaction deadline ∨ exchange.call = .commit deadline →
            ∃ reason, run.1 = .error (.timeout ⟨exchange.call.statement, reason⟩))) ∧
      (mode = .perRecord → ∀ report, run.1 = .ok report → ∀ index record reason,
        intent.records[index]? = some record →
        deadline.interruption? (leftBy store deadline className intent index start).clock = some reason →
        ∃ e, report.outcomes[index]? = some (.error e) ∧
          (firstStatement className intent record index = .error e ∧ (e.kind = .compile ∨ e.kind = .lookup) ∨
            ∃ statement, firstStatement className intent record index = .ok statement ∧
              e = .timeout ⟨statement.render, reason⟩)) ∧
      (mode = .atomic → ⟨.openTransaction deadline, .ok ()⟩ ∈ calls →
        (∀ answer, ⟨.commit deadline, answer⟩ ∉ calls) → run.2.started.getLast? = some .rollback) := by
  intro store start run
  obtain ⟨calls, hmakes, -⟩ := executeFor_boundTo store deadline className intent start mode
  refine ⟨calls, hmakes, fun before after moment hcalls hbefore hover => ?_, fun hmode => ?_, fun hmode hopen hcommit => ?_⟩
  · subst hcalls
    obtain ⟨⟨count, hcount⟩, htogether⟩ := executeFor_from_over hstays.recording hmakes hbefore hover
    exact ⟨⟨count, (congrArg World.started hcount).trans (started_rollbacks count moment)⟩, htogether⟩
  · subst hmode
    exact fun report hreport index record reason => late_outcome hreport
  · subst hmode
    obtain ⟨exchanges, hexchanges, hbatch⟩ := executeFor_performs store deadline className intent start
    rw [hexchanges.unique hmakes] at hbatch
    exact hbatch.last_started hmakes.leads hopen hcommit

/-- A store on which every statement cancels its own deadline once it has run. -/
def cancelling : Store Unit where
  query _ _ world := (.ok [], world)
  execute deadline _ world := (.ok 1, { world with clock := world.clock.cancel deadline })
  batch _ _ world := (.ok (), world)
  hasTable _ _ world := (.ok true, world)
  openTransaction _ world := (.ok (), world)
  commit _ world := (.ok (), world)
  rollback world := (.ok (), world)

theorem cancelling_staysOver (deadline : Deadline) : cancelling.StaysOver deadline := by
  intro c world hover
  cases c with
  | execute other sql => exact hover.cancel other
  | query other sql => exact hover
  | batch other sql => exact hover
  | hasTable other table => exact hover
  | openTransaction other => exact hover
  | commit other => exact hover
  | rollback => exact hover

def twoAccounts : Intent :=
  ⟨.insert, "Account", [⟨"Account", [("Id", .string "abcde")]⟩, ⟨"Account", [("Id", .string "12345")]⟩], none⟩

def unusedWorld : World Unit := ⟨⟨0, [], 1⟩, ()⟩

/-- Two new accounts in a store that gives up after the first of them. -/
def givenUp (mode : Mode) : Except Error Report × World (Recorded Unit) :=
  executeFor (cancelling.recording.checked true) mode ⟨none, 0⟩ "Account" twoAccounts (unusedWorld.recorded [])

theorem second_account_given_up :
    cancelling.StaysOver ⟨none, 0⟩ ∧
      (∃ count, (givenUp .atomic).2.started = [.openTransaction ⟨none, 0⟩,
        .execute ⟨none, 0⟩ "INSERT INTO Account (Id) VALUES ('abcde')"] ++ List.replicate count .rollback) ∧
      AllFail (givenUp .atomic).1 ∧ (givenUp .atomic).2.started.getLast? = some .rollback ∧
      ∃ report, (givenUp .perRecord).1 = .ok report ∧ report.outcomes[1]? =
        some (.error (.timeout ⟨"INSERT INTO Account (Id) VALUES ('12345')", .cancelled⟩)) := by
  have hstays := cancelling_staysOver ⟨none, 0⟩
  refine ⟨hstays, ?_⟩
  obtain ⟨calls, hmakes, hmoment, -, hrollback⟩ :=
    nothing_starts_when_over cancelling true .atomic ⟨none, 0⟩ "Account" twoAccounts unusedWorld hstays
  let before : List Exchange := [⟨.openTransaction ⟨none, 0⟩, .ok ()⟩,
    ⟨.execute ⟨none, 0⟩ "INSERT INTO Account (Id) VALUES ('abcde')", .ok 1⟩]
  let after : List Exchange := [⟨.execute ⟨none, 0⟩ "INSERT INTO Account (Id) VALUES ('12345')",
    .error (.timeout ⟨"INSERT INTO Account (Id) VALUES ('12345')", .cancelled⟩)⟩, ⟨.rollback, .ok ()⟩]
  have hcalls : calls = before ++ after :=
    (congrArg (fun run => run.2.state.exchanges) (hmakes.recorded [])).symm.trans rfl
  obtain ⟨hstarted, hatomic⟩ := hmoment before after ⟨⟨0, [0], 1⟩, (), before⟩ hcalls (.cons rfl (.cons rfl (.nil _)))
    ⟨.cancelled, rfl⟩
  refine ⟨hstarted, (hatomic rfl).1 (by simp [before]), hrollback rfl ?_ ?_, ?_⟩
  · simp [hcalls, before]
  · simp [hcalls, before, after]
  · obtain ⟨-, -, -, hlate, -⟩ :=
      nothing_starts_when_over cancelling true .perRecord ⟨none, 0⟩ "Account" twoAccounts unusedWorld hstays
    obtain ⟨e, houtcome, hcause⟩ := hlate rfl _ rfl 1 _ .cancelled rfl rfl
    obtain ⟨insert, hinsert, hrender⟩ : ∃ insert,
        firstStatement "Account" twoAccounts ⟨"Account", [("Id", .string "12345")]⟩ 1 = .ok insert ∧
          insert.render = "INSERT INTO Account (Id) VALUES ('12345')" := ⟨_, rfl, rfl⟩
    refine ⟨_, rfl, houtcome.trans ?_⟩
    rcases hcause with ⟨herror, -⟩ | ⟨statement, hstatement, rfl⟩
    · rw [hinsert] at herror
      cases herror
    · rw [hinsert] at hstatement
      cases hstatement
      rw [hrender]

/-! ### The store on an engine -/

/-- The store on an engine looks at deadlines. So from the moment on at which the deadline of a batch is over the engine is told nothing but to roll back, whatever it was doing for the batch, and the batch fails as it does with any such store. -/
theorem engine_rolls_back_when_over {δ : Type} (engine : Engine δ) (mode : Mode) (deadline : Deadline)
    (className : String) (intent : Intent) (start : World δ) (hstays : engine.StaysOver deadline) :
    let run := executeFor engine.store mode deadline className intent start
    ∃ calls,
      Procedure.Makes (fun _ store => executeFor store mode deadline className intent) engine.store start calls ∧
      (∀ before after moment, calls = before ++ after → engine.store.Leads start before moment →
        deadline.IsOver moment.clock →
        (∃ count, run.2 = (fun world => (engine.rollBack world).2)^[count] moment) ∧
        (mode = .atomic →
          ((∀ answer, ⟨.commit deadline, answer⟩ ∉ before) → AllFail run.1) ∧
          ∀ exchange ∈ after, exchange.call = .openTransaction deadline ∨ exchange.call = .commit deadline →
            ∃ reason, run.1 = .error (.timeout ⟨exchange.call.statement, reason⟩))) ∧
      (mode = .perRecord → ∀ report, run.1 = .ok report → ∀ index record reason,
        intent.records[index]? = some record →
        deadline.interruption? (leftBy engine.store deadline className intent index start).clock = some reason →
        ∃ e, report.outcomes[index]? = some (.error e) ∧
          (firstStatement className intent record index = .error e ∧ (e.kind = .compile ∨ e.kind = .lookup) ∨
            ∃ statement, firstStatement className intent record index = .ok statement ∧
              e = .timeout ⟨statement.render, reason⟩)) := by
  rw [engine.store_eq_checked]
  intro run
  obtain ⟨calls, hmakes, -⟩ :=
    executeFor_boundTo (engine.unguardedStore.checked true) deadline className intent start mode
  refine ⟨calls, hmakes, fun before after moment hcalls hbefore hover => ?_, fun hmode => ?_⟩
  · subst hcalls
    exact executeFor_from_over hstays.unguardedStore hmakes hbefore hover
  · subst hmode
    exact fun report hreport index record reason => late_outcome hreport

end ObjectStore.Dml
