import ObjectStore.Json.Printer
import ObjectStore.Proofs.Class.Nests
import ObjectStore.Proofs.Class.Signatures
import ObjectStore.Proofs.Decl.Encoding
import ObjectStore.Proofs.Dml.Interruptions
import ObjectStore.Proofs.Dml.KeySpelling
import ObjectStore.Proofs.Dml.Transactions
import ObjectStore.Proofs.Native.Calls
import ObjectStore.Proofs.Native.Changes
import ObjectStore.Proofs.Native.Installation
import ObjectStore.Proofs.Native.IntegerTexts
import ObjectStore.Proofs.Number.Integers
import ObjectStore.Proofs.Query.Acceptance
import ObjectStore.Proofs.Query.JoinTables
import ObjectStore.Proofs.Query.Joins
import ObjectStore.Proofs.Query.Kinds
import ObjectStore.Proofs.Query.Membership
import ObjectStore.Proofs.Query.Qualifiers
import ObjectStore.Proofs.Query.Rearrangements
import ObjectStore.Proofs.Query.Variables
import ObjectStore.Proofs.Session.Queries
import ObjectStore.Proofs.Session.Registrations
import ObjectStore.Proofs.Session.RoundTrip
import ObjectStore.Proofs.Value.Edits
import ObjectStore.Proofs.Value.Literals
import ObjectStore.Session.Demo
