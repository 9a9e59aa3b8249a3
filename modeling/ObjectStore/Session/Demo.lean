import ObjectStore.Class.Registry

/-!
# A small schema to try things on

Two classes with their tables and two rows in each. The script that makes the tables may run more than once.
-/

namespace ObjectStore.Demo

/-- The statements that make the tables and their rows. -/
def schema : String := "
CREATE TABLE IF NOT EXISTS Account (
    id VARCHAR PRIMARY KEY,
    name TEXT
);
CREATE TABLE IF NOT EXISTS Contact (
    id VARCHAR PRIMARY KEY,
    lastname TEXT,
    firstname TEXT,
    accountid VARCHAR
);
INSERT OR IGNORE INTO Account (id, name) VALUES ('12345', 'hoge'), ('abcde', 'fuga');
INSERT OR IGNORE INTO Contact (id, lastname, firstname, accountid) VALUES
    ('a', 'l1', 'r1', '12345'),
    ('b', 'l2', 'r2', 'abcde');
"

def account : ClassType :=
  { ClassType.bare "Account" with fields := [("Id", .id), ("Name", .string)] }

def contact : ClassType :=
  { ClassType.bare "Contact" with
    fields := [
      ("Id", .id), ("LastName", .string), ("FirstName", .string), ("AccountId", .reference "Account")] }

/-- The registry with the two classes. -/
def register (registry : Registry) : Except CompileError Registry := do
  let registry ← registry.register account
  registry.register contact

end ObjectStore.Demo
