import SystemDynamics.Table
/-!
# Transfers

A transfer takes an amount from one account of a ledger and adds it to another; a side without an
account is outside the ledger. Transfers are carried out one after the other, each taking first
and adding then.
-/

namespace SystemDynamics

/-- An amount and the accounts it goes from and to. -/
structure Transfer (α : Type) where
  source : Option String
  target : Option String
  amount : α

namespace Transfer

variable {α : Type} [Add α] [Sub α]

/-- Changes an account, if there is one. -/
def onAccount (account : Option String) (change : α → α) (ledger : Table α) : Table α :=
  match account with
  | none => ledger
  | some name => ledger.modify name change

/-- The ledger after a transfer. -/
def apply (ledger : Table α) (t : Transfer α) : Table α :=
  onAccount t.target (· + t.amount) (onAccount t.source (· - t.amount) ledger)

/-- The ledger after several transfers. -/
def applyAll (ledger : Table α) (ts : List (Transfer α)) : Table α := ts.foldl apply ledger

end Transfer

end SystemDynamics
