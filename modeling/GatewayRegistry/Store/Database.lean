import GatewayRegistry.Store.Basic
import GatewayRegistry.Store.Error

/-!
# Calls on an open store

A `Database` is a store together with the connections to it, which can be closed. A statement is a
function on stores that may refuse (`Store → Except StoreError (α × Store)`), and so is a sequence
of statements that stand or fall together. `Database.transact` runs one on a database: if it
succeeds its result is kept, and if it fails the store is as before. A `Call` is a sequence of
such transactions, each kept as soon as it has succeeded, whatever the later ones do.

What is assumed of SQLite, which keeps the store:

* A transaction that fails is rolled back as a whole, and the numbers that it has given out are given
  out again (`transact`, and `Numbered`, which is part of the store).
* A statement that inserts a row and ignores it because of a conflict has used up a number all the
  same; one that fails has not (`Numbered.skip`).
* References are checked by each statement and not only at the end of the transaction, and unique
  columns are checked before them.
* Transactions take place one after the other. That the database is found busy, or that its file
  cannot be read or written once it is open, is not considered.
* Numbers that are given out never run out: they are unbounded here.
-/

namespace GatewayRegistry

/-- A store and the connections to it. -/
structure Database where
  store : Store := .empty
  isOpen : Bool := true
  deriving DecidableEq, Repr

/-- A computation on a database that may fail. -/
abbrev Database.Call (α : Type) := ExceptT StoreError (StateM Database) α

/-- A statement, or several that stand or fall together. -/
abbrev Store.Transaction (α : Type) := Store → Except StoreError (α × Store)

namespace Database

/-- Run a transaction and keep its result, unless it fails. -/
def transact (tx : Store.Transaction α) : Call α := fun db =>
  if db.isOpen then
    match tx db.store with
    | .ok (a, store) => (.ok a, { db with store := store })
    | .error e => (.error e, db)
  else (.error (.query .closed), db)

/-- Run a transaction that gives nothing back. -/
def execute (tx : Store → Except StoreError Store) : Call Unit :=
  transact fun s => (tx s).map fun s => ((), s)

/-- Ask for something without changing it. -/
def query (ask : Store → Except StoreError α) : Call α :=
  transact fun s => (ask s).map fun a => (a, s)

/-- Close the connections. Every later transaction fails. -/
def close : Call Unit := fun db => (.ok (), { db with isOpen := false })

end Database
end GatewayRegistry
