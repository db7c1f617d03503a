import WalletLedger.Manager.Balance
import WalletLedger.Proofs.Ledger.Keyed
import WalletLedger.Proofs.Transfer.MergeAll

/-!
# A history delivered twice

A wallet that is given a whole history a second time, in the same order, ends
where it was. This is not because every bundle is passed over: the first bundles
take the records back to earlier states, from which the last ones return.

The source is consistent, so every bundle of the second pass goes to the record
of its key, and the histories of the keys can be looked at one by one. All
bundles involve the wallet: one that does not may be refused at first and merged
when it comes again.

Main statement: `history_delivered_again`.
-/

namespace WalletLedger.Ledger

variable {network : Network} {owned : AddressSet} {bundles : List TransferBundle}

theorem Consistent.append_self (consistent : Consistent bundles) :
    Consistent (bundles ++ bundles) := by
  have among {bundle : TransferBundle} (mem : bundle ∈ bundles ++ bundles) : bundle ∈ bundles :=
    (List.mem_append.1 mem).elim id id
  exact ⟨fun a mem => consistent.hashed a (among mem),
    fun a first b second => consistent.agree a (among first) b (among second)⟩

theorem keys_append_self : keys owned (bundles ++ bundles) = keys owned bundles := by
  have gone {α : Type} [BEq α] [LawfulBEq α] (l : List α) : l.removeAll l = [] :=
    List.filter_eq_nil_iff.2 fun a mem => by simp [mem]
  rw [keys, List.filter_append, List.map_append, List.eraseDups_append, gone,
    List.eraseDups_nil, List.append_nil]
  rfl

/-- The record of bundles that all involve the wallet: the first one makes it, and the others are
merged. -/
theorem history?_cons {bundle : TransferBundle} {direction : TransferDirection}
    (found : TransferDirection.find owned bundle.source bundle.target = some direction)
    (rest : List TransferBundle) :
    history? network owned (bundle :: rest) =
      some ((TransferRecord.ofBundle bundle network direction).mergeAll rest network) := by
  rw [history?, newcomer?, found]
  rfl

/-- A second pass through the bundles of one transfer changes nothing. -/
theorem history?_append_self
    (involved : ∀ bundle ∈ bundles, (newcomer? network owned bundle).isSome = true) :
    history? network owned (bundles ++ bundles) = history? network owned bundles := by
  cases bundles with
  | nil => rfl
  | cons first rest =>
    obtain ⟨record, made⟩ := Option.isSome_iff_exists.1 (involved first List.mem_cons_self)
    obtain ⟨direction, found, -⟩ := newcomer?_eq_some made
    rw [List.cons_append, history?_cons found, history?_cons found, TransferRecord.mergeAll_append,
      ← TransferRecord.mergeAll_ofBundle_cons rest, TransferRecord.mergeAll_mergeAll]

theorem recordOf?_append_self
    (involved : ∀ bundle ∈ bundles, (newcomer? network owned bundle).isSome = true)
    (key : TransferKey) :
    recordOf? network owned (bundles ++ bundles) key = recordOf? network owned bundles key := by
  rw [recordOf?, List.filter_append, history?_append_self]
  · rfl
  · exact fun bundle mem => involved bundle (List.mem_filter.1 mem).1

/-- The records that took a whole history in are still the same when they have taken it in again. -/
theorem foldl_absorb_append_self (consistent : Consistent bundles)
    (involved : ∀ bundle ∈ bundles, (newcomer? network owned bundle).isSome = true) :
    (bundles ++ bundles).foldl (absorb network owned) [] =
      bundles.foldl (absorb network owned) [] := by
  rw [foldl_absorb_eq consistent.append_self, foldl_absorb_eq consistent, keys_append_self]
  exact List.filterMap_congr fun key _ => recordOf?_append_self involved key

/-- Delivering a whole history again changes nothing: a new wallet that is given bundles of a
consistent source, all of which involve it, has the same records and the same balances whether it is
given them once or twice. -/
theorem history_delivered_again (config : Config) (bundles : List TransferBundle)
    (involved : ∀ bundle ∈ bundles,
      bundle.source ∈ config.addresses ∨ bundle.target ∈ config.addresses)
    (consistent : Consistent bundles) :
    let once := (Manager.fresh config).delivered bundles
    let twice := once.delivered bundles
    twice.store.records = once.store.records ∧
      ∀ currency decimals, twice.tokenBalance currency decimals =
        once.tokenBalance currency decimals := by
  intro once twice
  have making : ∀ bundle ∈ bundles,
      (newcomer? config.network (.ofList config.addresses) bundle).isSome = true := by
    intro bundle mem
    rw [newcomer?_isSome, AddressSet.contains_ofList, AddressSet.contains_ofList]
    simpa using involved bundle mem
  have together : twice = (Manager.fresh config).delivered (bundles ++ bundles) := by
    rw [Manager.delivered, List.map_append, Manager.after_append]
    rfl
  have same : twice = once := by
    rw [together, Manager.fresh_delivered_eq, foldl_absorb_append_self consistent making]
    exact (Manager.fresh_delivered_eq config bundles).symm
  rw [same]
  exact ⟨rfl, fun _ _ => rfl⟩

/-- A payment that is seen and then mined with other attributes: the second pass takes its record
back to what was seen, and only then on to what was mined. -/
theorem history_delivered_again_walked_back :
    let config : Config := { network := .xrp, addresses := ["me"] }
    let seen : TransferBundle :=
      { TransferBundle.ofOneUnit (some "h1") none "them" "me" "xrp" with
        metadata := .ofList [("destinationtag", "1")] }
    let mined : TransferBundle :=
      { TransferBundle.ofOneUnit (some "h1") (some "u1") "them" "me" "xrp" with
        status := .included
        blockHeight := some 7
        metadata := .ofList [("DestinationTag", "2"), ("InvoiceId", "9")] }
    let paid : TransferBundle := .ofOneUnit (some "h2") (some "u2") "me" "shop" "xrp"
    let bundles := [seen, paid, mined]
    let once := (Manager.fresh config).delivered bundles
    let twice := once.delivered bundles
    (once.recover seen).result = .ok (.updated ⟨0⟩) ∧ Consistent bundles ∧
      twice.store.records = once.store.records ∧
      ∀ currency decimals, twice.tokenBalance currency decimals =
        once.tokenBalance currency decimals := by
  intro config seen mined paid bundles
  have consistent : Consistent bundles := ⟨by decide, by decide⟩
  have involved : ∀ bundle ∈ bundles,
      bundle.source ∈ config.addresses ∨ bundle.target ∈ config.addresses := by decide
  have back : (((Manager.fresh config).delivered bundles).recover seen).result =
      .ok (.updated ⟨0⟩) := by decide +kernel
  exact ⟨back, consistent, history_delivered_again config bundles involved consistent⟩

end WalletLedger.Ledger
