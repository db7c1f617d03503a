import WalletLedger.Proofs.Ledger.Split
import WalletLedger.Proofs.Manager.Balance

/-!
# Splitting a wallet

The same bundles are delivered to a wallet and to two others that share its
addresses between them. Each of the three comes to what it holds of the records of
the whole one (`heldBy_recordsFor`), so their balances are about one list of
records.

Main statement: `tokenBalance_of_split_wallet`.
-/

namespace WalletLedger.Manager

/-- What a new wallet with some addresses comes to. -/
def recordsFor (config : Config) (bundles : List TransferBundle) (addresses : List String) :
    List TransferRecord :=
  ((fresh { config with addresses }).delivered bundles).store.records

section Parts

variable (config : Config) {bundles : List TransferBundle} (attributed : Attributed bundles)
  {first second : List String} (disjoint : ∀ address ∈ first, address ∉ second)
  (currency : String) (decimals : UInt8)

include attributed

/-- A wallet comes to what it holds of the records of any wallet that owns its addresses. -/
theorem heldBy_recordsFor {part whole : List String}
    (within : ∀ address ∈ part, address ∈ whole) :
    Ledger.heldBy (.ofList part) (recordsFor config bundles whole) =
      recordsFor config bundles part := by
  rw [recordsFor, recordsFor, fresh_delivered_eq, fresh_delivered_eq]
  refine Ledger.heldBy_foldl_absorb (fun address own => ?_) attributed
  rw [AddressSet.contains_ofList, List.contains_iff_mem] at own ⊢
  exact within address own

include disjoint

theorem expressible_recordsFor_append :
    (∀ record ∈ recordsFor config bundles (first ++ second),
        record.Expressible config.network currency decimals) ↔
      (∀ record ∈ recordsFor config bundles first,
          record.Expressible config.network currency decimals) ∧
        ∀ record ∈ recordsFor config bundles second,
          record.Expressible config.network currency decimals := by
  have split := Ledger.expressible_split config.network currency decimals
    (AddressSet.splits_append disjoint) (recordsFor config bundles (first ++ second))
  rw [heldBy_recordsFor config attributed fun _ => id,
    heldBy_recordsFor config attributed fun _ => List.mem_append_left second,
    heldBy_recordsFor config attributed fun _ => List.mem_append_right first] at split
  exact split

theorem net_recordsFor_append :
    Ledger.credits currency decimals (recordsFor config bundles (first ++ second)) +
        (Ledger.debits config.network currency decimals (recordsFor config bundles first) +
          Ledger.debits config.network currency decimals (recordsFor config bundles second)) =
      Ledger.credits currency decimals (recordsFor config bundles first) +
          Ledger.credits currency decimals (recordsFor config bundles second) +
        Ledger.debits config.network currency decimals
          (recordsFor config bundles (first ++ second)) := by
  have split := Ledger.net_split config.network currency decimals
    (AddressSet.splits_append disjoint) (recordsFor config bundles (first ++ second))
  rw [heldBy_recordsFor config attributed fun _ => id,
    heldBy_recordsFor config attributed fun _ => List.mem_append_left second,
    heldBy_recordsFor config attributed fun _ => List.mem_append_right first] at split
  exact split

end Parts

/-- Splitting a wallet conserves money. The whole wallet has a balance of a currency just if both
parts have one, and the balances add up as long as no sum is cut off at 128 bits and no part paid
more than it received. -/
theorem tokenBalance_of_split_wallet (config : Config) {first second : List String}
    (disjoint : ∀ address ∈ first, address ∉ second) {bundles : List TransferBundle}
    (attributed : Attributed bundles) (currency : String) (decimals : UInt8) :
    let wallet (addresses : List String) := (fresh { config with addresses }).delivered bundles
    let credits (addresses : List String) :=
      Ledger.credits currency decimals (wallet addresses).store.records
    let debits (addresses : List String) :=
      Ledger.debits config.network currency decimals (wallet addresses).store.records
    let whole := first ++ second
    ((∃ all, (wallet whole).tokenBalance currency decimals = .ok all) ↔
        (∃ one, (wallet first).tokenBalance currency decimals = .ok one) ∧
          ∃ two, (wallet second).tokenBalance currency decimals = .ok two) ∧
      ((∀ addresses ∈ [first, second, whole], credits addresses < DecimalAmount.unitBound ∧
          debits addresses < DecimalAmount.unitBound) →
        debits first ≤ credits first → debits second ≤ credits second →
        ∀ one two, (wallet first).tokenBalance currency decimals = .ok one →
          (wallet second).tokenBalance currency decimals = .ok two →
          (wallet whole).tokenBalance currency decimals = .ok (one + two)) := by
  intro wallet credits debits whole
  have network (addresses : List String) : (wallet addresses).network = config.network :=
    fresh_delivered_network { config with addresses } bundles
  have computedIff (addresses : List String) :=
    tokenBalance_ok_iff_of_network currency decimals (network addresses)
  have computed := (computedIff whole).trans
    ((expressible_recordsFor_append config attributed disjoint currency decimals).trans
      (and_congr (computedIff first) (computedIff second)).symm)
  refine ⟨computed, ?_⟩
  intro fits oneSolvent twoSolvent one two oneComputed twoComputed
  obtain ⟨all, allComputed⟩ := computed.2 ⟨⟨one, oneComputed⟩, ⟨two, twoComputed⟩⟩
  have exactly (addresses : List String) (among : addresses ∈ [first, second, whole])
      (balance : Nat) (comesTo : (wallet addresses).tokenBalance currency decimals = .ok balance) :
      balance = credits addresses - debits addresses :=
    tokenBalance_exact currency decimals (network addresses) comesTo (fits addresses among).1
      (fits addresses among).2
  have oneBalance := exactly first (by simp) one oneComputed
  have twoBalance := exactly second (by simp) two twoComputed
  have allBalance := exactly whole (by simp) all allComputed
  have net : credits whole + (debits first + debits second) =
      credits first + credits second + debits whole :=
    net_recordsFor_append config attributed disjoint currency decimals
  rw [allComputed, Except.ok.injEq]
  omega

/-- A wallet of two: one is paid from outside and pays the other one, who pays a shop. The fees are
known only once the payments are mined. -/
theorem tokenBalance_of_split_wallet_paid_across :
    let mined (bundle : TransferBundle) : TransferBundle :=
      { bundle with
        status := .included, blockHeight := some 7, fee := some ⟨"0.25", by decide +kernel⟩ }
    let salary : TransferBundle := .ofOneUnit (some "h1") none "them" "me" "btc"
    let bonus : TransferBundle := .ofOneUnit (some "h2") none "them" "me" "btc"
    let gift : TransferBundle := .ofOneUnit (some "h3") none "them" "spouse" "btc"
    let across : TransferBundle := .ofOneUnit (some "h4") none "me" "spouse" "btc"
    let bought : TransferBundle := .ofOneUnit (some "h5") none "spouse" "shop" "btc"
    let wallet (addresses : List String) :=
      (fresh { network := .btc, addresses }).delivered
        [salary, bonus, gift, across, bought, mined across, mined bought]
    (wallet ["me"]).tokenBalance "btc" 8 = .ok 75000000 ∧
      (wallet ["spouse"]).tokenBalance "btc" 8 = .ok 75000000 ∧
      (wallet ["me", "spouse"]).tokenBalance "btc" 8 = .ok 150000000 := by
  intro mined salary bonus gift across bought wallet
  have disjoint : ∀ address ∈ ["me"], address ∉ ["spouse"] := by decide
  have attributed :
      Attributed [salary, bonus, gift, across, bought, mined across, mined bought] :=
    ⟨by decide, by decide⟩
  have one : (wallet ["me"]).tokenBalance "btc" 8 = .ok 75000000 := by decide +kernel
  have two : (wallet ["spouse"]).tokenBalance "btc" 8 = .ok 75000000 := by decide +kernel
  obtain ⟨-, sum⟩ := tokenBalance_of_split_wallet { network := .btc } disjoint attributed "btc" 8
  exact ⟨one, two, sum (by decide +kernel) (by decide +kernel) (by decide +kernel) _ _ one two⟩

end WalletLedger.Manager
