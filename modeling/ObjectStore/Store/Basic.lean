import ObjectStore.Store.Cell
import ObjectStore.Store.Deadline

/-!
# Stores

A store answers statements and changes state while it does. The state of a store stands next to the clock, so a store may cancel a deadline while it runs a statement. A transaction is opened, then its body runs, and then it is committed or rolled back as the body asks. A rollback is bound to no deadline. A store whose commit fails is responsible for closing the transaction.
-/

namespace ObjectStore

/-- Why a store did not answer. -/
inductive StoreError where
  | rejected (reason : String)
  | timeout (timeout : Timeout)
  deriving DecidableEq

namespace StoreError

def message : StoreError → String
  | rejected reason => reason
  | timeout t => t.message

/-- The failure of a statement, which may belong to a record of a batch. -/
def toError (statement : String) (record : Option Nat) : StoreError → Error
  | rejected reason => .execution (.rejected statement record reason)
  | timeout t => .timeout t

end StoreError

/-- The state of a store and the clock. -/
structure World (σ : Type) where
  clock : Clock
  state : σ

/-- What a transaction body asks for. -/
inductive TransactionEnd where
  | commit
  | rollback
  deriving DecidableEq

/-- A call that answers with an `α`. -/
abbrev Call (σ α : Type) := World σ → Except StoreError α × World σ

structure Store (σ : Type) where
  query : Deadline → String → Call σ (List Row)
  /-- Runs one statement and answers with the number of rows that it changed. -/
  execute : Deadline → String → Call σ Nat
  /-- Runs statements separated by semicolons. -/
  batch : Deadline → String → Call σ Unit
  hasTable : Deadline → String → Call σ Bool
  openTransaction : Deadline → Call σ Unit
  commit : Deadline → Call σ Unit
  rollback : Call σ Unit

namespace World

variable {σ : Type}

/-- A new deadline that ends after the given time. -/
def issue (world : World σ) (duration : Option Nat) : Deadline × World σ :=
  let (deadline, clock) := world.clock.issue duration
  (deadline, { world with clock })

end World

namespace Store

variable {σ α : Type}

/-- Runs the body between the opening of a transaction and its end. The body runs only if the transaction could be opened, and its answer counts only if the end that it asked for succeeded. -/
def inTransaction (store : Store σ) (deadline : Deadline) (body : World σ → (TransactionEnd × α) × World σ) :
    Call σ (TransactionEnd × α) := fun world =>
  match store.openTransaction deadline world with
  | (.error e, world) => (.error e, world)
  | (.ok (), world) =>
    let ((ending, answer), world) := body world
    let (closed, world) := match ending with
      | .commit => store.commit deadline world
      | .rollback => store.rollback world
    match closed with
    | .error e => (.error e, world)
    | .ok () => (.ok (ending, answer), world)

end Store

end ObjectStore
