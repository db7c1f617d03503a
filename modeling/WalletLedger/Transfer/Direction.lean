import WalletLedger.AddressSet
import WalletLedger.Json.Decode

/-!
# Directions of transfers

Whether a wallet pays, is paid, or moves an amount between two addresses of its
own. A transfer that involves none of its addresses has no direction, and
`TransferDirection.find_eq_none_iff` says that no other transfer is without one.
-/

namespace WalletLedger

/-- The direction of a transfer as seen from a wallet. -/
inductive TransferDirection where
  | sent
  | received
  /-- Both ends belong to the wallet. -/
  | recovered
deriving DecidableEq, Repr

namespace TransferDirection

/-- The direction of a transfer for a wallet that owns certain addresses. -/
def find (owned : AddressSet) (source target : String) : Option TransferDirection :=
  match owned.contains source, owned.contains target with
  | true, true => some recovered
  | true, false => some sent
  | false, true => some received
  | false, false => none

theorem find_eq_none_iff {owned : AddressSet} {source target : String} :
    find owned source target = none ↔
      owned.contains source = false ∧ owned.contains target = false := by
  unfold find
  cases owned.contains source <;> cases owned.contains target <;> simp

/-- The directions, in their order. -/
def all : List TransferDirection := [sent, received, recovered]

/-- The name of a direction. -/
def name : TransferDirection → String
  | sent => "sent"
  | received => "received"
  | recovered => "recovered"

/-- The name of a direction in log lines. -/
def title : TransferDirection → String
  | sent => "Sent"
  | received => "Received"
  | recovered => "Recovered"

/-- A direction as JSON. -/
def toJson (direction : TransferDirection) : Json.Value :=
  .ofText direction.name

/-- The direction that a JSON value names exactly. -/
def ofJson? (v : Json.Value) : Option TransferDirection :=
  v.bareName?.bind fun name => all.find? fun direction => direction.name = name

end TransferDirection

end WalletLedger
