import ObjectStore.Proofs.Dml.Batches
import ObjectStore.Proofs.Dml.Isolation
import ObjectStore.Proofs.Dml.Requests
import ObjectStore.Proofs.Dml.Upserts

/-!
# Spellings of the identifier field

An upsert without a key field goes by `Id`. A key field that is `Id` in another spelling stands for the same column, and leaves out the same fields of what is written, since these names are compared without regard to case. The record, though, is asked for its key by the name as it is spelled. So an upsert by another spelling does the same as one without a key field exactly if every record has values under both spellings that are written alike.
-/

namespace ObjectStore

/-- Two procedures make the same calls and come to the same result in the same state. -/
def Procedure.Agree {σ α : Type} (p q : Procedure α) (store : Store σ) (world : World σ) : Prop :=
  ∃ exchanges, p.Makes store world exchanges ∧ q.Makes store world exchanges ∧ p σ store world = q σ store world

namespace Text

theorem isLower_toLower {c : Char} (hupper : c.val ≥ 'A'.val ∧ c.val ≤ 'Z'.val) : c.toLower.isLower = true := by
  have hval : c.toLower.val = c.val + 32 := congrArg Char.val (dif_pos hupper)
  have hlow : 65 ≤ c.val.toNat := UInt32.le_iff_toNat_le.1 hupper.1
  have hhigh : c.val.toNat ≤ 90 := UInt32.le_iff_toNat_le.1 hupper.2
  have hsum : (c.val + 32).toNat = c.val.toNat + 32 := by
    rw [UInt32.toNat_add]
    exact Nat.mod_eq_of_lt (by change c.val.toNat + 32 < 2 ^ 32; omega)
  have hbounds : 'a'.val ≤ c.toLower.val ∧ c.toLower.val ≤ 'z'.val := by
    rw [hval, UInt32.le_iff_toNat_le, UInt32.le_iff_toNat_le, hsum]
    exact ⟨by change 97 ≤ c.val.toNat + 32; omega, by change c.val.toNat + 32 ≤ 122; omega⟩
  exact Bool.and_eq_true_iff.2 ⟨decide_eq_true hbounds.1, decide_eq_true hbounds.2⟩

theorem toLower_cases (c : Char) : c.toLower = c ∨ c.isAlpha = true ∧ c.toLower.isAlpha = true := by
  by_cases hupper : c.val ≥ 'A'.val ∧ c.val ≤ 'Z'.val
  · exact .inr ⟨Bool.or_eq_true_iff.2 (.inl (decide_eq_true hupper)), Bool.or_eq_true_iff.2 (.inr (isLower_toLower hupper))⟩
  · exact .inl (dif_neg hupper)

theorem isIdentifierChars_toLower (cs : List Char) : isIdentifierChars (cs.map Char.toLower) = isIdentifierChars cs := by
  have hsame : ∀ c : Char, isIdentifierStart c.toLower = isIdentifierStart c ∧
      isIdentifierPart c.toLower = isIdentifierPart c := by
    intro c
    rcases toLower_cases c with hc | ⟨halpha, hlower⟩
    · rw [hc]
      exact ⟨rfl, rfl⟩
    · simp only [isIdentifierStart, isIdentifierPart, Char.isAlphanum, halpha, hlower, Bool.true_or, and_self]
  cases cs with
  | nil => rfl
  | cons c cs =>
    simp only [List.map_cons, isIdentifierChars, (hsame _).1, (hsame _).2, List.all_map, Function.comp_def]

theorem isIdentifier_congr {a b : String} (h : sameName a b = true) : isIdentifier a = isIdentifier b := by
  rw [isIdentifier, ← isIdentifierChars_toLower, (sameName_iff a b).1 h, isIdentifierChars_toLower, isIdentifier]

end Text

namespace Dml

variable {className key : String} {record : Record} {index : Nat}

/-! ### The statements by two spellings -/

/-- The literal for the value in a field of a record, if there is a value. -/
def keyLiteral? (record : Record) (field : String) : Option (Except CompileError Sql.Expr) :=
  ((record.get? field).filter fun value => !value.isNull).map columnLiteral

/-- A record of the class has values under both spellings of the key, and these are written alike, unless the spellings are the same. -/
def Alike (className key : String) (record : Record) : Prop :=
  record.className = className → key ≠ idField →
    keyLiteral? record key ≠ none ∧ keyLiteral? record key = keyLiteral? record idField

/-- The question for a row by its identifier. -/
def question (className : String) (literal : Sql.Expr) : Sql.Statement :=
  .select ⟨[.column none idColumn], some ⟨className, []⟩, some (keyCondition idColumn literal), [], some ⟨1, none⟩⟩

theorem requiredKey_cases (className : String) (record : Record) (field : String) (index : Nat) :
    (requiredKey className record field index = .error (.lookup (.missingKey className field index)) ∧
      keyLiteral? record field = none) ∨
    ∃ value, requiredKey className record field index = .ok value ∧ record.get? field = some value ∧
      keyLiteral? record field = some (columnLiteral value) := by
  rw [requiredKey, keyLiteral?]
  cases hvalue : record.get? field with
  | none => exact .inl ⟨rfl, rfl⟩
  | some value =>
    cases hnull : value.isNull with
    | true => exact .inl ⟨by simp [hnull], by simp [Option.filter, hnull]⟩
    | false => exact .inr ⟨value, by simp [hnull], rfl, by simp [Option.filter, hnull]⟩

theorem keyColumn_of_sameName (hkey : Text.sameName key idField = true) : keyColumn key = .ok idColumn :=
  if_pos hkey

theorem lookupStatement_eq (hclass : Text.isIdentifier className = true) (hkey : Text.sameName key idField = true)
    (record : Record) (index : Nat) :
    lookupStatement className record key index = (keyLiteral? record key).elim
      (.error (.lookup (.missingKey className key index)))
      fun literal => (literal.mapError .compile).map (question className) := by
  have htable : checkIdentifier className = .ok className := if_pos hclass
  rw [lookupStatement, htable, keyColumn_of_sameName hkey]
  rcases requiredKey_cases className record key index with ⟨hmissing, hnone⟩ | ⟨value, hvalue, -, hsome⟩
  · rw [hmissing, hnone]
    rfl
  · rw [hvalue, hsome]
    exact bind_pure_comp (m := Except Error) _ _

theorem assignments_of_sameName (hkey : Text.sameName key idField = true) (record : Record) :
    assignments record [idField, key] = assignments record [idField, idField] := by
  have hwritten : writtenFields record [idField, key] = writtenFields record [idField, idField] := by
    refine List.filter_congr fun field _ => ?_
    have hsame : Text.sameName key field.1 = Text.sameName idField field.1 := by
      rw [Bool.eq_iff_iff, Text.sameName_iff, Text.sameName_iff, (Text.sameName_iff key idField).1 hkey]
    simp only [List.any_cons, hsame]
  rw [assignments, hwritten, assignments]

theorem upsertStatement?_eq (hclass : Text.isIdentifier className = true) (hkey : Text.sameName key idField = true)
    (record : Record) (index : Nat) :
    upsertStatement? className record key index = (keyLiteral? record key).elim
      (.error (.lookup (.missingKey className key index)))
      fun literal => (assignments record [idField, idField]).mapError .compile >>= fun assigned =>
        if assigned.isEmpty then .ok none
        else (literal.mapError .compile).map fun literal =>
          some (.update className assigned (some (keyCondition idColumn literal))) := by
  have htable : checkIdentifier className = .ok className := if_pos hclass
  rw [upsertStatement?, htable, keyColumn_of_sameName hkey, assignments_of_sameName hkey]
  rcases requiredKey_cases className record key index with ⟨hmissing, hnone⟩ | ⟨value, hvalue, -, hsome⟩
  · rw [hmissing, hnone]
    rfl
  · rw [hvalue, hsome]
    cases assignments record [idField, idField] with
    | error e => rfl
    | ok assigned =>
      cases assigned with
      | nil => rfl
      | cons first rest => exact bind_pure_comp (m := Except Error) _ _

/-! ### What is done for a record -/

theorem upsert_of_alike {σ : Type} (hclass : Text.isIdentifier className = true) (hkey : Text.sameName key idField = true)
    (hrecord : record.className = className) (h : Alike className key record) (store : Store σ) (deadline : Deadline)
    (index : Nat) (world : World σ) :
    upsert store deadline className record key index world = upsert store deadline className record idField index world := by
  by_cases hid : key = idField
  · rw [hid]
  · obtain ⟨hne, hsame⟩ := h hrecord hid
    obtain ⟨literal, hliteral⟩ := Option.ne_none_iff_exists'.1 hne
    have hlookup : lookupStatement className record key index = lookupStatement className record idField index := by
      rw [lookupStatement_eq hclass hkey, lookupStatement_eq hclass (Text.sameName_self _), ← hsame, hliteral]
      rfl
    have hupdate : upsertStatement? className record key index = upsertStatement? className record idField index := by
      rw [upsertStatement?_eq hclass hkey, upsertStatement?_eq hclass (Text.sameName_self _), ← hsame, hliteral]
      rfl
    rw [upsert, upsert, hlookup, hupdate]

/-- A store that refuses all questions. -/
def refusing : Store Unit where
  query _ _ world := (.error (.rejected ""), world)
  execute _ _ world := (.ok 0, world)
  batch _ _ world := (.ok (), world)
  hasTable _ _ world := (.ok false, world)
  openTransaction _ world := (.ok (), world)
  commit _ world := (.ok (), world)
  rollback world := (.ok (), world)

/-- What is said of a question that was refused, or never written. -/
def refusal (index : Nat) : Except Error Sql.Statement → Error
  | .ok s => .execution (.rejected s.render (some index) "")
  | .error e => e

theorem upsert_refusing (deadline : Deadline) (className : String) (record : Record) (key : String) (index : Nat)
    (world : World Unit) :
    upsert refusing deadline className record key index world =
      (.error (refusal index (lookupStatement className record key index)), world) := by
  rw [upsert]
  cases lookupStatement className record key index <;> rfl

/-- The text of a question with a record's literal is read as the question for the value. -/
theorem read?_question (hclass : Text.isIdentifier className = true) (hkey : Text.sameName key idField = true)
    {literal : Sql.Expr} (h : keyLiteral? record key = some (.ok literal)) :
    ∃ value, columnLiteral value = .ok literal ∧
      Request.read? (question className literal).render = some (.find className idColumn value) := by
  have hlookup : lookupStatement className record key 0 = .ok (question className literal) := by
    rw [lookupStatement_eq hclass hkey, h]
    rfl
  obtain ⟨value, hvalue, -, hread⟩ := read?_lookupStatement hlookup
  have hcolumn : keyColumnOf key = idColumn := if_pos hkey
  rcases requiredKey_cases className record key 0 with ⟨-, hnone⟩ | ⟨found, -, hfound, hsome⟩
  · rw [hnone] at h
    cases h
  · obtain rfl : found = value := Option.some.inj (hfound.symm.trans hvalue)
    exact ⟨found, Option.some.inj (hsome.symm.trans h), hcolumn ▸ hread⟩

theorem literal_eq_of_render_eq (hclass : Text.isIdentifier className = true) (hkey : Text.sameName key idField = true)
    {literal literal' : Sql.Expr} (h : keyLiteral? record key = some (.ok literal))
    (h' : keyLiteral? record idField = some (.ok literal'))
    (htexts : (question className literal).render = (question className literal').render) : literal = literal' := by
  obtain ⟨value, hvalue, hread⟩ := read?_question hclass hkey h
  obtain ⟨other, hother, hread'⟩ := read?_question hclass (Text.sameName_self idField) h'
  rw [htexts, hread'] at hread
  cases hread
  exact Except.ok.inj (hvalue.symm.trans hother)

/-- From a refusal it can be told how the value is written. -/
theorem alike_of_refusal (hclass : Text.isIdentifier className = true) (hkey : Text.sameName key idField = true)
    (h : refusal index (lookupStatement className record key index) =
      refusal index (lookupStatement className record idField index)) : Alike className key record := by
  intro _ hid
  have hown := Text.sameName_self idField
  rw [lookupStatement_eq hclass hkey, lookupStatement_eq hclass hown] at h
  -- Each spelling has no value, one that cannot be written, or one that can, and the refusal tells which.
  rcases hkeyed : keyLiteral? record key with _ | (e | literal)
  · rw [hkeyed] at h
    rcases hdefault : keyLiteral? record idField with _ | (e' | literal') <;> rw [hdefault] at h <;> cases h
    exact absurd rfl hid
  · rw [hkeyed] at h
    rcases hdefault : keyLiteral? record idField with _ | (e' | literal') <;> rw [hdefault] at h <;> cases h
    exact ⟨Option.some_ne_none _, rfl⟩
  · rw [hkeyed] at h
    rcases hdefault : keyLiteral? record idField with _ | (e' | literal')
    · rw [hdefault] at h
      cases h
    · rw [hdefault] at h
      cases h
    · rw [hdefault] at h
      have htexts : (question className literal).render = (question className literal').render := by
        injection h with h
        injection h with h
      rw [literal_eq_of_render_eq hclass hkey hkeyed hdefault htexts]
      exact ⟨Option.some_ne_none _, rfl⟩

/-! ### What is done for a batch -/

section Batches

variable {σ : Type} {store : Store σ} {deadline : Deadline} {intent other : Intent} {records : List Record}

/-- Intents that do the same for each record. -/
def SameSteps (store : Store σ) (deadline : Deadline) (className : String) (intent other : Intent) (records : List Record) :
    Prop :=
  ∀ record ∈ records, ∀ index world, applyRecord store deadline className intent record index world =
    applyRecord store deadline className other record index world

theorem applyEach_congr (h : SameSteps store deadline className intent other records) (index : Nat) (world : World σ) :
    applyEach store deadline className intent index records world =
      applyEach store deadline className other index records world := by
  induction records generalizing index world with
  | nil => rfl
  | cons record records ih =>
    obtain ⟨hfirst, hrest⟩ := List.forall_mem_cons.1 h
    rw [applyEach, applyEach, hfirst]
    dsimp only
    rw [ih hrest]

theorem applyWhileOk_congr (h : SameSteps store deadline className intent other records) (index : Nat) (world : World σ) :
    applyWhileOk store deadline className intent index records world =
      applyWhileOk store deadline className other index records world := by
  induction records generalizing index world with
  | nil => rfl
  | cons record records ih =>
    obtain ⟨hfirst, hrest⟩ := List.forall_mem_cons.1 h
    rw [applyWhileOk, applyWhileOk, hfirst]
    rcases applyRecord store deadline className other record index world with ⟨e | applied, next⟩
    · rfl
    · dsimp only
      rw [ih hrest]

theorem executeFor_congr (hnames : checkNames className intent = checkNames className other)
    (hrecords : intent.records = other.records) (h : SameSteps store deadline className intent other other.records)
    (mode : Mode) (world : World σ) :
    executeFor store mode deadline className intent world = executeFor store mode deadline className other world := by
  rw [executeFor.eq_def, executeFor.eq_def, hnames]
  cases checkNames className other with
  | error e => rfl
  | ok _ =>
    cases mode with
    | perRecord =>
      dsimp only
      rw [hrecords, applyEach_congr h]
    | atomic =>
      have hbody : batchBody store deadline className intent = batchBody store deadline className other := by
        funext world
        rw [batchBody, batchBody, hrecords, applyWhileOk_congr h]
      dsimp only
      rw [applyTogether, applyTogether, hbody, hrecords]

end Batches

theorem exists_executeFor_makes {σ : Type} (store : Store σ) (mode : Mode) (deadline : Deadline) (className : String)
    (intent : Intent) (world : World σ) : ∃ exchanges,
    Procedure.Makes (fun _ store => executeFor store mode deadline className intent) store world exchanges := by
  cases mode with
  | perRecord =>
    cases hnames : checkNames className intent with
    | error e =>
      exact ⟨[], (Procedure.Makes.pure (.error (.compile e))).congr
        fun τ store => executeFor_of_misnamed store deadline className intent hnames .perRecord⟩
    | ok _ =>
      obtain ⟨exchanges, hmakes, -⟩ := applyEach_performs store deadline className intent 0 intent.records world
      exact ⟨exchanges, (hmakes.map _).congr fun τ store => executeFor_perRecord store deadline className intent hnames⟩
  | atomic =>
    obtain ⟨exchanges, hmakes, -⟩ := executeFor_performs store deadline className intent world
    exact ⟨exchanges, hmakes⟩

theorem checkNames_of_sameName (hkey : Text.sameName key idField = true) (className target : String)
    (records : List Record) :
    checkNames className ⟨.upsert, target, records, some key⟩ = checkNames className ⟨.upsert, target, records, none⟩ := by
  have hidentifier : Text.isIdentifier key = true := by
    rw [Text.isIdentifier_congr hkey]
    decide
  have hchecked : checkIdentifier key = .ok key := if_pos hidentifier
  rw [checkNames, checkNames]
  dsimp only
  rw [hchecked]
  rfl

theorem checkNames_of_isIdentifier (hclass : Text.isIdentifier className = true) (target : String) (records : List Record) :
    checkNames className ⟨.upsert, target, records, none⟩ = .ok () := by
  have hchecked : checkIdentifier className = .ok className := if_pos hclass
  rw [checkNames, hchecked]
  rfl

theorem applyRecord_refusing (deadline : Deadline) (className target : String) (records : List Record) (record : Record)
    (upsertKey : Option String) (index : Nat) (world : World Unit) :
    applyRecord refusing deadline className ⟨.upsert, target, records, upsertKey⟩ record index world =
      (.error (if record.className ≠ className then .compile (.classMismatch className record.className)
        else refusal index (lookupStatement className record (upsertKey.getD idField) index)), world) := by
  rw [applyRecord]
  split
  · rfl
  · exact upsert_refusing ..

/-- Records that are refused in the same words are alike. -/
theorem alike_of_applyEach (hclass : Text.isIdentifier className = true) (hkey : Text.sameName key idField = true)
    {deadline : Deadline} {target : String} {all records : List Record} {index : Nat} {world : World Unit}
    (h : (applyEach refusing deadline className ⟨.upsert, target, all, some key⟩ index records world).1 =
      (applyEach refusing deadline className ⟨.upsert, target, all, none⟩ index records world).1) :
    ∀ record ∈ records, Alike className key record := by
  induction records generalizing index with
  | nil => exact fun _ hmem => absurd hmem List.not_mem_nil
  | cons record records ih =>
    rw [applyEach, applyEach, applyRecord_refusing, applyRecord_refusing] at h
    obtain ⟨hfirst, hrest⟩ := List.cons.inj h
    refine List.forall_mem_cons.2 ⟨fun hrecord => ?_, ih hrest⟩
    rw [if_neg (not_not.2 hrecord), if_neg (not_not.2 hrecord)] at hfirst
    exact alike_of_refusal hclass hkey (Except.error.inj hfirst) hrecord

/-- For a class that is found, upserts by another spelling and without a key field agree exactly if the records are alike under both spellings, or the name of the class is refused before any of them. -/
theorem executions_agree_iff (hkey : Text.sameName key idField = true) (className target : String)
    (records : List Record) :
    (∀ (σ : Type) (store : Store σ) (mode : Mode) (deadline : Deadline) (world : World σ), Procedure.Agree
      (fun _ store => executeFor store mode deadline className ⟨.upsert, target, records, some key⟩)
      (fun _ store => executeFor store mode deadline className ⟨.upsert, target, records, none⟩) store world) ↔
    (Text.isIdentifier className = true → ∀ record ∈ records, Alike className key record) := by
  have hnames := checkNames_of_sameName hkey className target records
  constructor
  · intro h hclass
    have hchecked := checkNames_of_isIdentifier hclass target records
    obtain ⟨-, -, -, hsame⟩ := h Unit refusing .perRecord default ⟨default, ()⟩
    dsimp only at hsame
    rw [executeFor_perRecord _ _ _ _ (hnames.trans hchecked), executeFor_perRecord _ _ _ _ hchecked] at hsame
    have houtcomes := Report.mk.inj (Except.ok.inj (congrArg Prod.fst hsame))
    exact alike_of_applyEach hclass hkey houtcomes
  · intro h σ store mode deadline world
    have hsame : ∀ (τ : Type) (store : Store τ) (world : World τ),
        executeFor store mode deadline className ⟨.upsert, target, records, some key⟩ world =
          executeFor store mode deadline className ⟨.upsert, target, records, none⟩ world := by
      intro τ store world
      cases hclass : Text.isIdentifier className with
      | false =>
        have hrefused : checkNames className ⟨.upsert, target, records, none⟩ = .error (.invalidIdentifier className) := by
          rw [checkNames, checkIdentifier, if_neg (Bool.eq_false_iff.1 hclass)]
          rfl
        rw [executeFor_of_misnamed _ _ _ _ (hnames.trans hrefused), executeFor_of_misnamed _ _ _ _ hrefused]
      | true =>
        refine executeFor_congr hnames rfl (fun record hrecord index world => ?_) mode world
        rw [applyRecord, applyRecord]
        split
        · rfl
        · next hmismatch =>
          exact upsert_of_alike hclass hkey (not_not.1 hmismatch) (h hclass record hrecord) store deadline index world
    obtain ⟨exchanges, hmakes⟩ :=
      exists_executeFor_makes store mode deadline className ⟨.upsert, target, records, none⟩ world
    exact ⟨exchanges, hmakes.congr hsame, hmakes, hsame σ store world⟩

/-- An upsert by another spelling of `Id` makes the same calls and comes to the same result as one without a key field, with every store and in either mode, exactly if the class is not found or has a name that cannot be written, or the records are alike under both spellings. -/
theorem spellings_agree_iff (hkey : Text.sameName key idField = true) (registry : Registry) (target : String)
    (records : List Record) :
    (∀ (σ : Type) (store : Store σ) (mode : Mode) (deadline : Deadline) (world : World σ), Procedure.Agree
      (fun _ store => execute store mode deadline registry ⟨.upsert, target, records, some key⟩)
      (fun _ store => execute store mode deadline registry ⟨.upsert, target, records, none⟩) store world) ↔
    ∀ found, registry.resolve target = .ok found → Text.isIdentifier found.name = true →
      ∀ record ∈ records, Alike found.name key record := by
  cases hresolve : registry.resolve target with
  | error e =>
    refine iff_of_true (fun σ store mode deadline world => ?_) fun found hfound => by cases hfound
    have hrefused : ∀ upsertKey (τ : Type) (store : Store τ) (world : World τ),
        execute store mode deadline registry ⟨.upsert, target, records, upsertKey⟩ world = (.error (.compile e), world) := by
      intro upsertKey τ store world
      rw [execute, hresolve]
    exact ⟨[], (Procedure.Makes.pure _).congr (hrefused (some key)), (Procedure.Makes.pure _).congr (hrefused none),
      (hrefused (some key) σ store world).trans (hrefused none σ store world).symm⟩
  | ok found =>
    have hfound : ∀ mode deadline upsertKey,
        (fun (τ : Type) (store : Store τ) => execute store mode deadline registry ⟨.upsert, target, records, upsertKey⟩) =
          fun _ store => executeFor store mode deadline found.name ⟨.upsert, target, records, upsertKey⟩ := by
      intro mode deadline upsertKey
      funext τ store world
      rw [execute, hresolve]
    simp only [hfound]
    refine (executions_agree_iff hkey found.name target records).trans ⟨fun h other hother => ?_, fun h => h found rfl⟩
    cases hother
    exact h

/-- Upserts of an item and of a record that is refused whatever the spelling. -/
def twiceNamed : List Record :=
  [⟨"Item", [("Id", .string "a"), ("ID", .string "a"), ("Label", .string "new")]⟩, ⟨"Contact", [("Id", .string "a")]⟩]

theorem twiceNamed_agree : Text.sameName "ID" idField = true ∧ ∀ mode deadline, Procedure.Agree
    (fun _ store => execute store mode deadline ⟨[ClassType.bare "Item"]⟩ ⟨.upsert, "Item", twiceNamed, some "ID"⟩)
    (fun _ store => execute store mode deadline ⟨[ClassType.bare "Item"]⟩ ⟨.upsert, "Item", twiceNamed, none⟩)
    Tables.store itemWorld := by
  have hkey : Text.sameName "ID" idField = true := by decide
  have halike : ∀ found, (⟨[ClassType.bare "Item"]⟩ : Registry).resolve "Item" = .ok found →
      Text.isIdentifier found.name = true → ∀ record ∈ twiceNamed, Alike found.name "ID" record := by
    intro found hfound _
    cases hfound
    refine List.forall_mem_cons.2 ⟨fun _ _ => ⟨Option.some_ne_none _, rfl⟩, ?_⟩
    exact List.forall_mem_singleton.2 fun hclass => absurd hclass (by decide)
  exact ⟨hkey, fun mode deadline => (spellings_agree_iff hkey ⟨[ClassType.bare "Item"]⟩ "Item" twiceNamed).2 halike
    Tables.Database Tables.store mode deadline itemWorld⟩

/-- A record with a value for `Id` is taken for one without a key if the key is spelled `id`. -/
theorem lowercase_key_is_missing : Text.sameName "id" idField = true ∧
    execute Tables.store .perRecord ⟨none, 0⟩ ⟨[ClassType.bare "Item"]⟩
        ⟨.upsert, "Item", [⟨"Item", [("Id", .string "a"), ("Label", .string "new")]⟩], some "id"⟩ itemWorld =
      (.ok ⟨[.error (.lookup (.missingKey "Item" "id" 0))]⟩, itemWorld) ∧
    ((execute Tables.store .perRecord ⟨none, 0⟩ ⟨[ClassType.bare "Item"]⟩
        ⟨.upsert, "Item", [⟨"Item", [("Id", .string "a"), ("Label", .string "new")]⟩], none⟩ itemWorld).1.map
      Report.isSuccess).toOption = some true :=
  ⟨by decide, by rfl, by decide +kernel⟩

end Dml

end ObjectStore
