import ObjectStore.Native.Dispatch
import ObjectStore.Proofs.Number.Integers
import ObjectStore.Store.Conversion

/-!
# Integers in columns and in calls

A column of an integer field may hold a text, and a script may have a text read as an integer. Both read the same texts, and the same numbers from them. What a script gets as the text of an integer is read back as this integer.
-/

namespace ObjectStore

variable {σ : Type}

open Number (Denotes InRange)

/-! ### Columns -/

/-- What an integer field refuses is named with the whole text, the blanks included. -/
theorem Cell.convert_text_integer (s field : String) : (text s).convert (some .integer) field =
    (Number.readInt64 (Text.trim s.toList)).elim (.error ⟨field, "Integer", "TEXT '" ++ s ++ "'"⟩) fun m => .ok (.integer m) := by
  have hdecoded : (text s).decoded = some (text s) := rfl
  simp only [convert, hdecoded, convertAs]
  cases Number.readInt64 (Text.trim s.toList) <;> rfl

/-! ### Calls -/

/-- A method that computes its value from the call alone writes nothing and leaves the world as it is. -/
theorem ClassType.invokeStatic_of_compute {c : ClassType} {name : String} {arguments : List Value} {method : Method}
    {f : Invocation → Except Error Value}
    (hmethod : c.staticMethods.resolve? name (arguments.map Value.typeName) = some method)
    (hbody : method.body = some (.native (.compute f))) (store : Store σ) (context : Context) (world : World σ) :
    c.invokeStatic store name arguments context world = ⟨(f ⟨none, arguments, context⟩).map .returned, [], world⟩ := by
  simp only [invokeStatic, invokeIn, resolveIn, hmethod, hbody, NativeBody.run]

namespace Native

theorem parseInteger_text (s : String) (context : Context) : parseInteger ⟨none, [.string s], context⟩ =
    (Number.readInt64 (Text.trim s.toList)).elim
      (.error (.native "Integer" "valueOf" ("'" ++ s ++ "' is not a valid Integer"))) fun m => .ok (.integer m) := by
  have hargument : argument "Integer" "valueOf" [.string s] 0 = .ok (.string s) := rfl
  have hmessage : "'" ++ s ++ "' is not a valid " ++ "Integer" = "'" ++ s ++ "' is not a valid Integer" := by
    rw [String.append_assoc]
    rfl
  rw [parseInteger, parsed, hargument, ← hmessage]
  simp only [bind, Except.bind]
  cases Number.readInt64 (Text.trim s.toList) <;> rfl

theorem integer_valueOf (store : Store σ) (s : String) (context : Context) (world : World σ) :
    integer.invokeStatic store "valueOf" [.string s] context world =
      ⟨(Number.readInt64 (Text.trim s.toList)).elim
        (.error (.native "Integer" "valueOf" ("'" ++ s ++ "' is not a valid Integer"))) fun m => .ok (.returned (.integer m)),
        [], world⟩ := by
  have hmethod : integer.staticMethods.resolve? "valueOf" ["String"] =
      some (.ofNative "valueOf" ["String"] (some "Integer") (.compute parseInteger)) := rfl
  rw [ClassType.invokeStatic_of_compute hmethod rfl, parseInteger_text]
  cases Number.readInt64 (Text.trim s.toList) <;> rfl

theorem string_valueOf_integer (store : Store σ) (n : Int64) (context : Context) (world : World σ) :
    string.invokeStatic store "valueOf" [.integer n] context world =
      ⟨.ok (.returned (.string (Value.integer n).display)), [], world⟩ := by
  have hmethod : string.staticMethods.resolve? "valueOf" ["Integer"] =
      some (.ofNative "valueOf" ["Object"] (some "String") (.compute displayValue)) := rfl
  rw [ClassType.invokeStatic_of_compute hmethod rfl]
  rfl

/-- Columns of integer fields and scripts read the same texts as integers: those that spell a number with 64 bits, between blanks. The text that a script gets for an integer is one of them. -/
theorem integer_texts_read_alike (store : Store σ) (context : Context) (world : World σ) :
    Registry.builtin.lookup? "Integer" = some integer ∧ Registry.builtin.lookup? "String" = some string ∧
    (∀ s field : String,
      let column := (Cell.text s).convert (some .integer) field
      let called := integer.invokeStatic store "valueOf" [.string s] context world
      (∀ n : Int, Denotes s n ∧ InRange n ↔ ∃ m : Int64, m.toInt = n ∧
        column = .ok (.integer m) ∧ called = ⟨.ok (.returned (.integer m)), [], world⟩) ∧
      ((¬ ∃ n : Int, Denotes s n ∧ InRange n) ↔
        column = .error ⟨field, "Integer", "TEXT '" ++ s ++ "'"⟩ ∧
        called = ⟨.error (.native "Integer" "valueOf" ("'" ++ s ++ "' is not a valid Integer")), [], world⟩)) ∧
    ∀ n : Int64,
      let text := (Value.integer n).display
      string.invokeStatic store "valueOf" [.integer n] context world = ⟨.ok (.returned (.string text)), [], world⟩ ∧
      integer.invokeStatic store "valueOf" [.string text] context world = ⟨.ok (.returned (.integer n)), [], world⟩ ∧
      ∀ field, (Cell.text text).convert (some .integer) field = .ok (.integer n) := by
  refine ⟨rfl, rfl, fun s field => ?_, fun n => ?_⟩
  · simp only [Cell.convert_text_integer, integer_valueOf, ← Number.exists_readInt64_trim_iff]
    cases Number.readInt64 (Text.trim s.toList) with
    | none => simp
    | some m => simp
  · have hread : Number.readInt64 (Text.trim (Value.integer n).display.toList) = some n := by
      rw [Value.display]
      exact Number.readInt64_trim_writeInt n
    refine ⟨string_valueOf_integer store n context world, ?_, fun field => ?_⟩
    · rw [integer_valueOf, hread, Option.elim_some]
    · rw [Cell.convert_text_integer, hread, Option.elim_some]

end Native

end ObjectStore
