import WalletLedger.Proofs.Ledger.Holding
import WalletLedger.Proofs.Ledger.Sums

/-!
# Ledgers of the parts of a wallet

The addresses of a wallet are split between two others. Either one part alone is
involved in a transfer and sees what the whole wallet sees, or one part pays the
other (`find_of_splits`). Paying the other part is sending to the one and
receiving to the other, and costs the whole wallet no more than the fee. So
credits less debits of the whole wallet are those of its parts together
(`net_split`), and what is inexpressible for the whole wallet is so for a part
(`expressible_split`).
-/

namespace WalletLedger

/-- Every address of a wallet belongs to one of two parts, and none to both. -/
structure AddressSet.Splits (whole first second : AddressSet) : Prop where
  covers : ∀ address, whole.contains address = (first.contains address || second.contains address)
  apart : ∀ address, (first.contains address && second.contains address) = false

theorem AddressSet.splits_append {first second : List String}
    (disjoint : ∀ address ∈ first, address ∉ second) :
    (ofList (first ++ second)).Splits (ofList first) (ofList second) := by
  refine ⟨fun address => ?_, fun address => ?_⟩
  · simp only [contains_ofList, List.contains_append]
  · rw [contains_ofList, contains_ofList, Bool.and_eq_false_iff]
    by_cases among : address ∈ first
    · exact .inr (by simpa using disjoint address among)
    · exact .inl (by simpa using among)

variable {whole first second : AddressSet}

/-- One part alone is involved in a transfer, or one part pays the other. -/
theorem TransferDirection.find_of_splits (splits : whole.Splits first second)
    (source target : String) :
    (find second source target = none ∧ find whole source target = find first source target) ∨
      (find first source target = none ∧ find whole source target = find second source target) ∨
      find whole source target = some .recovered ∧
        (find first source target = some .sent ∧ find second source target = some .received ∨
          find first source target = some .received ∧ find second source target = some .sent) := by
  have sourceApart := splits.apart source
  have targetApart := splits.apart target
  unfold find
  rw [splits.covers source, splits.covers target]
  revert sourceApart targetApart
  -- which of the parts owns the source, and which owns the target
  cases first.contains source <;> cases second.contains source <;>
    cases first.contains target <;> cases second.contains target <;> simp

namespace Ledger

open TransferRecord

variable {network : Network} {currency : String} {decimals : UInt8}

/-! ## One transfer from three sides -/

theorem credits_sent (record : TransferRecord) :
    credits currency decimals [{ record with direction := .sent }] = 0 := by
  rw [credits, amounts_singleton, if_neg (by simp)]

theorem credits_recovered (record : TransferRecord) :
    credits currency decimals [{ record with direction := .recovered }] = 0 := by
  rw [credits, amounts_singleton, if_neg (by simp)]

theorem debits_received (record : TransferRecord) :
    debits network currency decimals [{ record with direction := .received }] = 0 := by
  simp only [debits, amounts_singleton, fees_singleton, reduceCtorEq, decide_false, ne_eq,
    not_true_eq_false, Bool.and_false, Bool.false_and, Bool.false_eq_true, if_false, ite_self,
    Nat.zero_add]

/-- Who pays is charged what the other one receives, and the fee. -/
theorem debits_sent (network : Network) (currency : String) (decimals : UInt8)
    (record : TransferRecord) :
    debits network currency decimals [{ record with direction := .sent }] =
      credits currency decimals [{ record with direction := .received }] +
        debits network currency decimals [{ record with direction := .recovered }] := by
  simp only [debits, credits, amounts_singleton, fees_singleton, reduceCtorEq, decide_false,
    Bool.and_false, Bool.false_eq_true, if_false, Nat.zero_add, ne_eq, not_false_eq_true,
    decide_true, Bool.and_true]

theorem expressible_sent_iff {record : TransferRecord} :
    Expressible network currency decimals { record with direction := .sent } ↔
      Expressible network currency decimals { record with direction := .recovered } :=
  ⟨fun ⟨amount, fee⟩ => ⟨amount, fun native _ => fee native nofun⟩,
    fun ⟨amount, fee⟩ => ⟨amount, fun native _ => fee native nofun⟩⟩

theorem expressible_received_of_sent {record : TransferRecord}
    (sent : Expressible network currency decimals { record with direction := .sent }) :
    Expressible network currency decimals { record with direction := .received } :=
  ⟨sent.amount, fun _ received => absurd rfl received⟩

/-- How the whole wallet and its parts hold one record: as the only part that is involved, or as
the payment of one part to the other. -/
theorem heldBy_singleton_of_splits (splits : whole.Splits first second) (record : TransferRecord) :
    (heldBy second [record] = [] ∧ heldBy whole [record] = heldBy first [record]) ∨
      (heldBy first [record] = [] ∧ heldBy whole [record] = heldBy second [record]) ∨
      heldBy whole [record] = [{ record with direction := .recovered }] ∧
        (heldBy first [record] = [{ record with direction := .sent }] ∧
            heldBy second [record] = [{ record with direction := .received }] ∨
          heldBy first [record] = [{ record with direction := .received }] ∧
            heldBy second [record] = [{ record with direction := .sent }]) := by
  simp only [heldBy_singleton, seenBy?]
  rcases TransferDirection.find_of_splits splits record.source record.target with
    ⟨outside, all⟩ | ⟨outside, all⟩ | ⟨all, ⟨one, two⟩ | ⟨one, two⟩⟩
  · exact .inl ⟨by rw [outside]; rfl, by rw [all]⟩
  · exact .inr (.inl ⟨by rw [outside]; rfl, by rw [all]⟩)
  · rw [all, one, two]
    exact .inr (.inr ⟨rfl, .inl ⟨rfl, rfl⟩⟩)
  · rw [all, one, two]
    exact .inr (.inr ⟨rfl, .inr ⟨rfl, rfl⟩⟩)

theorem net_split_singleton (network : Network) (currency : String) (decimals : UInt8)
    (splits : whole.Splits first second) (record : TransferRecord) :
    credits currency decimals (heldBy whole [record]) +
        (debits network currency decimals (heldBy first [record]) +
          debits network currency decimals (heldBy second [record])) =
      credits currency decimals (heldBy first [record]) +
          credits currency decimals (heldBy second [record]) +
        debits network currency decimals (heldBy whole [record]) := by
  have paid := debits_sent network currency decimals record
  rcases heldBy_singleton_of_splits splits record with
    ⟨outside, all⟩ | ⟨outside, all⟩ | ⟨all, ⟨one, two⟩ | ⟨one, two⟩⟩
  · rw [outside, all, credits_nil, debits_nil, Nat.add_zero, Nat.add_zero]
  · rw [outside, all, credits_nil, debits_nil, Nat.zero_add, Nat.zero_add]
  · rw [all, one, two, credits_recovered, credits_sent, debits_received]
    omega
  · rw [all, one, two, credits_recovered, credits_sent, debits_received]
    omega

/-- What stands in the way of a balance for one record does so for the whole wallet just if it does
so for a part. -/
theorem expressible_split_singleton (network : Network) (currency : String) (decimals : UInt8)
    (splits : whole.Splits first second) (record : TransferRecord) :
    (∀ seen ∈ heldBy whole [record], seen.Expressible network currency decimals) ↔
      (∀ seen ∈ heldBy first [record], seen.Expressible network currency decimals) ∧
        ∀ seen ∈ heldBy second [record], seen.Expressible network currency decimals := by
  rcases heldBy_singleton_of_splits splits record with
    ⟨outside, all⟩ | ⟨outside, all⟩ | ⟨all, ⟨one, two⟩ | ⟨one, two⟩⟩
  · rw [outside, all]
    exact (and_iff_left (List.forall_mem_nil _)).symm
  · rw [outside, all]
    exact (and_iff_right (List.forall_mem_nil _)).symm
  · rw [all, one, two, List.forall_mem_singleton, List.forall_mem_singleton,
      List.forall_mem_singleton, ← expressible_sent_iff]
    exact (and_iff_left_of_imp expressible_received_of_sent).symm
  · rw [all, one, two, List.forall_mem_singleton, List.forall_mem_singleton,
      List.forall_mem_singleton, ← expressible_sent_iff]
    exact (and_iff_right_of_imp expressible_received_of_sent).symm

/-! ## All transfers -/

section AllTransfers

variable (network : Network) (currency : String) (decimals : UInt8)

/-- The parts together are credited and debited, less one another, as the whole wallet is. -/
theorem net_split (splits : whole.Splits first second) (records : List TransferRecord) :
    credits currency decimals (heldBy whole records) +
        (debits network currency decimals (heldBy first records) +
          debits network currency decimals (heldBy second records)) =
      credits currency decimals (heldBy first records) +
          credits currency decimals (heldBy second records) +
        debits network currency decimals (heldBy whole records) := by
  induction records with
  | nil => simp only [heldBy, List.filterMap_nil, credits_nil, debits_nil]
  | cons record rest ih =>
    have head := net_split_singleton network currency decimals splits record
    simp only [heldBy_cons _ record rest, credits_append, debits_append]
    omega

theorem expressible_split (splits : whole.Splits first second) (records : List TransferRecord) :
    (∀ seen ∈ heldBy whole records, seen.Expressible network currency decimals) ↔
      (∀ seen ∈ heldBy first records, seen.Expressible network currency decimals) ∧
        ∀ seen ∈ heldBy second records, seen.Expressible network currency decimals := by
  induction records with
  | nil => exact ⟨fun all => ⟨all, all⟩, fun both => both.1⟩
  | cons record rest ih =>
    have head := expressible_split_singleton network currency decimals splits record
    simp only [heldBy_cons _ record rest, List.forall_mem_append, ih, head]
    exact and_and_and_comm

end AllTransfers

end Ledger

end WalletLedger
