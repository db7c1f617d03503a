import WalletLedger.Proofs.Bundle.Built
import WalletLedger.Proofs.Manager.Run
import Mathlib.Data.List.Induction

/-!
# The ledger as a keyed map

A source is consistent if it gives every bundle a hash, and if its correlation
ids tell the transfers of a target apart just as its hashes do. Under such a
source the search by hash or correlation id is a look-up by key, where the key of
a transfer is its hash with its target.

* `history?` is the record that the bundles of one key come to, on their own.
* `keys` are the keys that get a record, in the order of the records.
* `delivered_records_keyed`: the records are the histories of the keys, however
  the bundles of different keys are mixed.
-/

namespace WalletLedger

/-- What identifies a transfer: its hash with its target. -/
abbrev TransferKey := Option String × String

/-- The key of the transfer of a bundle. -/
def TransferBundle.key (bundle : TransferBundle) : TransferKey := (bundle.hash, bundle.target)

/-- The key of the transfer of a record. -/
def TransferRecord.key (record : TransferRecord) : TransferKey := (record.hash, record.target)

namespace Ledger

/-! ## Keys and histories -/

/-- The keys of the bundles that involve an address of the wallet, each one where it comes first. -/
def keys (owned : AddressSet) (bundles : List TransferBundle) : List TransferKey :=
  ((bundles.filter fun bundle =>
    owned.contains bundle.source || owned.contains bundle.target).map TransferBundle.key).eraseDups

/-- The record of one transfer: it is made of the first bundle that involves an address of the
wallet and merges every later bundle, whether that does so or not. -/
def history? (network : Network) (owned : AddressSet) : List TransferBundle → Option TransferRecord
  | [] => none
  | bundle :: rest =>
    match newcomer? network owned bundle with
    | some record => some (rest.foldl (fun record later => record.merge later network) record)
    | none => history? network owned rest

/-- The record of the transfer with a key. -/
def recordOf? (network : Network) (owned : AddressSet) (bundles : List TransferBundle)
    (key : TransferKey) : Option TransferRecord :=
  history? network owned (bundles.filter fun bundle => bundle.key = key)

/-- Every bundle has a hash, and of two bundles for one target that have correlation ids these are
equal just if the hashes are. -/
structure Consistent (bundles : List TransferBundle) : Prop where
  hashed : ∀ bundle ∈ bundles, bundle.hash.isSome
  agree : ∀ a ∈ bundles, ∀ b ∈ bundles, a.target = b.target → a.uids.isSome → b.uids.isSome →
    (a.uids = b.uids ↔ a.hash = b.hash)

variable {network : Network} {owned : AddressSet} {bundle : TransferBundle}
  {bundles : List TransferBundle}

theorem Consistent.of_concat (consistent : Consistent (bundles ++ [bundle])) :
    Consistent bundles :=
  ⟨fun a mem => consistent.hashed a (List.mem_append_left _ mem),
    fun a first b second =>
      consistent.agree a (List.mem_append_left _ first) b (List.mem_append_left _ second)⟩

/-! ## One more bundle -/

theorem eraseDups_concat {α : Type} [BEq α] [LawfulBEq α] (l : List α) (a : α) :
    (l ++ [a]).eraseDups = if a ∈ l then l.eraseDups else l.eraseDups ++ [a] := by
  rw [List.eraseDups_append]
  by_cases mem : a ∈ l
  · simp [List.removeAll, mem]
  · simp [List.removeAll, mem, List.eraseDups_cons]

theorem nodup_eraseDups {α : Type} [BEq α] [LawfulBEq α] (l : List α) : l.eraseDups.Nodup := by
  induction l using List.reverseRecOn with
  | nil => exact .nil
  | append_singleton l a ih =>
    rw [eraseDups_concat]
    split
    · exact ih
    · next absent =>
      exact ih.append (List.nodup_singleton a)
        (List.disjoint_singleton.2 fun mem => absent (List.mem_eraseDups.1 mem))

theorem nodup_keys : (keys owned bundles).Nodup := nodup_eraseDups _

theorem mem_keys (network : Network) {key : TransferKey} :
    key ∈ keys owned bundles ↔
      ∃ bundle ∈ bundles, (newcomer? network owned bundle).isSome = true ∧ bundle.key = key := by
  simp only [keys, List.mem_eraseDups, List.mem_map, List.mem_filter, newcomer?_isSome, and_assoc]

/-- A further bundle gives its key a place if it has none and the bundle may make a record. -/
theorem keys_concat (network : Network) :
    keys owned (bundles ++ [bundle]) =
      if bundle.key ∈ keys owned bundles ∨ newcomer? network owned bundle = none
      then keys owned bundles else keys owned bundles ++ [bundle.key] := by
  rw [keys, List.filter_append, List.map_append]
  cases made : newcomer? network owned bundle with
  | none =>
    have foreign : (newcomer? network owned bundle).isSome = _ := newcomer?_isSome
    rw [made, Option.isSome_none] at foreign
    simp [← foreign, keys]
  | some record =>
    have involved : (newcomer? network owned bundle).isSome = _ := newcomer?_isSome
    rw [made, Option.isSome_some] at involved
    rw [List.filter_singleton, ← involved, cond_true, List.map_singleton, eraseDups_concat]
    by_cases known : bundle.key ∈ keys owned bundles
    · rw [if_pos (List.mem_eraseDups.1 known), if_pos (Or.inl known)]
      rfl
    · rw [if_neg fun mem => known (List.mem_eraseDups.2 mem), if_neg (not_or.2 ⟨known, nofun⟩)]
      rfl

/-- A further bundle is merged into the record, or may make it if there is none yet. -/
theorem history?_concat :
    history? network owned (bundles ++ [bundle]) =
      ((history? network owned bundles).map (·.merge bundle network)).or
        (newcomer? network owned bundle) := by
  induction bundles with
  | nil =>
    rw [List.nil_append, history?, history?, history?]
    cases newcomer? network owned bundle <;> rfl
  | cons first rest ih =>
    rw [List.cons_append, history?, history?]
    cases newcomer? network owned first with
    | some record => simp
    | none => exact ih

theorem recordOf?_concat (key : TransferKey) :
    recordOf? network owned (bundles ++ [bundle]) key =
      if bundle.key = key then
        ((recordOf? network owned bundles key).map (·.merge bundle network)).or
          (newcomer? network owned bundle)
      else recordOf? network owned bundles key := by
  rw [recordOf?, List.filter_append]
  by_cases same : bundle.key = key
  · simp only [same, List.filter_singleton, decide_true, cond_true, if_true]
    exact history?_concat
  · simp [same, recordOf?]

/-! ## Histories -/

/-- A history of bundles of one key has that key, and its correlation id is one of theirs. -/
theorem history?_eq_some {key : TransferKey} (ofKey : ∀ bundle ∈ bundles, bundle.key = key)
    {record : TransferRecord} (made : history? network owned bundles = some record) :
    record.key = key ∧ (record.uids.isSome → ∃ bundle ∈ bundles, bundle.uids = record.uids) := by
  induction bundles using List.reverseRecOn generalizing record with
  | nil => cases made
  | append_singleton bundles bundle ih =>
    have last := ofKey bundle List.mem_concat_self
    rw [history?_concat] at made
    cases earlier : history? network owned bundles with
    | none =>
      rw [earlier, Option.map_none, Option.none_or] at made
      obtain ⟨direction, -, rfl⟩ := newcomer?_eq_some made
      exact ⟨last, fun _ => ⟨bundle, List.mem_concat_self, rfl⟩⟩
    | some old =>
      rw [earlier, Option.map_some, Option.some_or, Option.some.injEq] at made
      subst made
      obtain ⟨oldKey, oldUids⟩ := ih (fun a mem => ofKey a (List.mem_append_left _ mem)) earlier
      have sameHash : old.hash = bundle.hash := congrArg Prod.fst (oldKey.trans last.symm)
      refine ⟨?_, ?_⟩
      · rw [← oldKey, TransferRecord.key, TransferRecord.merge_hash, ← sameHash, Option.or_self]
        rfl
      · rw [TransferRecord.merge_uids]
        cases fresh : bundle.uids with
        | some s =>
          rw [Option.some_or]
          exact fun _ => ⟨bundle, List.mem_concat_self, fresh⟩
        | none =>
          rw [Option.none_or]
          intro present
          obtain ⟨source, mem, same⟩ := oldUids present
          exact ⟨source, List.mem_append_left _ mem, same⟩

theorem recordOf?_eq_some {key : TransferKey} {record : TransferRecord}
    (made : recordOf? network owned bundles key = some record) :
    record.key = key ∧
      (record.uids.isSome → ∃ bundle ∈ bundles, bundle.key = key ∧ bundle.uids = record.uids) := by
  have ofKey : ∀ bundle ∈ bundles.filter fun bundle => bundle.key = key, bundle.key = key :=
    fun bundle mem => of_decide_eq_true (List.mem_filter.1 mem).2
  obtain ⟨sameKey, uids⟩ := history?_eq_some ofKey made
  refine ⟨sameKey, fun present => ?_⟩
  obtain ⟨bundle, mem, same⟩ := uids present
  exact ⟨bundle, (List.mem_filter.1 mem).1, ofKey bundle mem, same⟩

theorem history?_isSome :
    (history? network owned bundles).isSome = true ↔
      ∃ bundle ∈ bundles, (newcomer? network owned bundle).isSome = true := by
  induction bundles with
  | nil => simp [history?]
  | cons first rest ih =>
    rw [history?]
    cases made : newcomer? network owned first with
    | some record => simp [made]
    | none => simp [made, ih]

/-- A key has a record just if it has a place. -/
theorem recordOf?_isSome {key : TransferKey} :
    (recordOf? network owned bundles key).isSome = true ↔ key ∈ keys owned bundles := by
  rw [recordOf?, history?_isSome, mem_keys network]
  simp only [List.mem_filter, decide_eq_true_eq, and_assoc, and_comm (a := _ = key)]

/-- Under a consistent source, a record is of the transfer of a bundle just if it has its key. -/
theorem isOf_recordOf? (consistent : Consistent (bundles ++ [bundle])) {key : TransferKey}
    {record : TransferRecord} (made : recordOf? network owned bundles key = some record) :
    record.isOf bundle = true ↔ key = bundle.key := by
  obtain ⟨sameKey, uids⟩ := recordOf?_eq_some made
  subst sameKey
  rw [TransferRecord.isOf_iff]
  constructor
  · intro of
    rcases of with ⟨target, ⟨s, mine, yours⟩ | ⟨s, mine, yours⟩⟩
    · exact Prod.ext (mine.trans yours.symm) target
    · -- the correlation id came with a bundle of this key, which has the hash of the other one
      obtain ⟨source, mem, sourceKey, same⟩ := uids (by rw [mine, Option.isSome_some])
      have sourceTarget : source.target = record.target := congrArg Prod.snd sourceKey
      have sourceHash : source.hash = record.hash := congrArg Prod.fst sourceKey
      have agree := consistent.agree source (List.mem_append_left _ mem) bundle
        List.mem_concat_self (sourceTarget.trans target) (by rw [same, mine, Option.isSome_some])
        (by rw [yours, Option.isSome_some])
      have hash := agree.1 (same.trans (mine.trans yours.symm))
      exact Prod.ext (sourceHash.symm.trans hash) target
  · intro same
    have target : record.target = bundle.target := congrArg Prod.snd same
    have hash : record.hash = bundle.hash := congrArg Prod.fst same
    obtain ⟨s, present⟩ :=
      Option.isSome_iff_exists.1 (consistent.hashed bundle List.mem_concat_self)
    exact ⟨target, .inl ⟨s, hash.trans present, present⟩⟩

/-! ## Records by key -/

/-- Records listed by key absorb a bundle under its key, or at the end if that has no place. -/
theorem absorb_filterMap_recordOf? (consistent : Consistent (bundles ++ [bundle]))
    {places : List TransferKey} (nodup : places.Nodup)
    (held : ∀ key ∈ places, key ∈ keys owned bundles) :
    absorb network owned (places.filterMap (recordOf? network owned bundles)) bundle =
      places.filterMap (recordOf? network owned (bundles ++ [bundle])) ++
        if bundle.key ∈ places then [] else (newcomer? network owned bundle).toList := by
  induction places with
  | nil => rfl
  | cons key rest ih =>
    obtain ⟨absent, restNodup⟩ := List.nodup_cons.1 nodup
    obtain ⟨keyHeld, restHeld⟩ := List.forall_mem_cons.1 held
    obtain ⟨record, made⟩ : ∃ record, recordOf? network owned bundles key = some record :=
      Option.isSome_iff_exists.1 (recordOf?_isSome.2 keyHeld)
    have recognized := isOf_recordOf? consistent made
    rw [List.filterMap_cons_some made]
    by_cases same : key = bundle.key
    · -- the keys behind this one are others, and so their records are as they were
      have next : recordOf? network owned (bundles ++ [bundle]) key =
          some (record.merge bundle network) := by
        rw [recordOf?_concat, if_pos same.symm, made, Option.map_some, Option.some_or]
      have others : rest.filterMap (recordOf? network owned (bundles ++ [bundle])) =
          rest.filterMap (recordOf? network owned bundles) := by
        refine List.filterMap_congr fun other mem => ?_
        rw [recordOf?_concat, if_neg fun (eq : bundle.key = other) => absent (same ▸ eq ▸ mem)]
      rw [absorb_cons_of_isOf (recognized.2 same), List.filterMap_cons_some next, others,
        if_pos (same ▸ List.mem_cons_self), List.append_nil]
    · have next : recordOf? network owned (bundles ++ [bundle]) key = some record := by
        rw [recordOf?_concat, if_neg (Ne.symm same), made]
      have place : (bundle.key ∈ key :: rest) = (bundle.key ∈ rest) :=
        propext ⟨fun mem => (List.mem_cons.1 mem).resolve_left (Ne.symm same),
          List.mem_cons_of_mem key⟩
      rw [absorb_cons_of_not_isOf (Bool.eq_false_iff.2 fun of => same (recognized.1 of)),
        List.filterMap_cons_some next, ih restNodup restHeld, List.cons_append]
      simp only [place]

/-- Under a consistent source, the records are those of the keys, in the order of the keys. -/
theorem foldl_absorb_eq (consistent : Consistent bundles) :
    bundles.foldl (absorb network owned) [] =
      (keys owned bundles).filterMap (recordOf? network owned bundles) := by
  induction bundles using List.reverseRecOn with
  | nil => rfl
  | append_singleton bundles bundle ih =>
    rw [List.foldl_concat, ih consistent.of_concat,
      absorb_filterMap_recordOf? consistent nodup_keys fun _ held => held,
      keys_concat network]
    by_cases held : bundle.key ∈ keys owned bundles
    · rw [if_pos held, if_pos (Or.inl held), List.append_nil]
    · rw [if_neg held]
      cases made : newcomer? network owned bundle with
      | none => rw [if_pos (Or.inr rfl), Option.toList_none, List.append_nil]
      | some record =>
        have unheld : recordOf? network owned bundles bundle.key = none :=
          Option.not_isSome_iff_eq_none.1 fun some => held (recordOf?_isSome.1 some)
        have first : recordOf? network owned (bundles ++ [bundle]) bundle.key = some record := by
          rw [recordOf?_concat, if_pos rfl, unheld, Option.map_none, Option.none_or, made]
        rw [if_neg (not_or.2 ⟨held, nofun⟩), List.filterMap_append,
          List.filterMap_cons_some first]
        rfl

/-- Under a consistent source a wallet keeps one record for each key that some bundle involving it
has, in the order in which the first such bundles came; and the record of a key depends on the
bundles of that key alone. -/
theorem delivered_records_keyed (config : Config) (bundles : List TransferBundle)
    (consistent : Consistent bundles) :
    let owned := AddressSet.ofList config.addresses
    let records := ((Manager.fresh config).delivered bundles).store.records
    (keys owned bundles).Nodup ∧ records.map TransferRecord.key = keys owned bundles ∧
      records.map some = (keys owned bundles).map (recordOf? config.network owned bundles) := by
  intro owned records
  have live : (Manager.fresh config).connection ≠ .deleted := nofun
  have listed : records =
      (keys owned bundles).filterMap (recordOf? config.network owned bundles) := by
    change ((Manager.fresh config).delivered bundles).store.records = _
    rw [Manager.delivered_eq live]
    exact foldl_absorb_eq consistent
  have made : ∀ key ∈ keys owned bundles,
      ∃ record, recordOf? config.network owned bundles key = some record :=
    fun key held => Option.isSome_iff_exists.1 (recordOf?_isSome.2 held)
  refine ⟨nodup_keys, ?_, ?_⟩
  · rw [listed, List.map_filterMap]
    refine (List.filterMap_congr fun key held => ?_).trans List.filterMap_some
    obtain ⟨record, isMade⟩ := made key held
    rw [isMade, Option.map_some, (recordOf?_eq_some isMade).1]
  · rw [listed, List.map_filterMap, ← List.filterMap_eq_map]
    refine List.filterMap_congr fun key held => ?_
    obtain ⟨record, isMade⟩ := made key held
    rw [isMade, Option.map_some, Function.comp_apply, isMade]

/-- Bundles of three keys, mixed: a transfer that is seen before it has a correlation id, one that
is first seen from an address that is not the wallet's, and one under the hash of the first. -/
theorem delivered_records_keyed_mixed :
    let config : Config := { network := .eth, addresses := ["me"] }
    let bundles : List TransferBundle :=
      [.ofOneUnit (some "h1") none "them" "me" "eth",
       .ofOneUnit (some "h2") (some "u2") "them" "shop" "eth",
       .ofOneUnit (some "h1") (some "u1") "me" "bank" "eth",
       .ofOneUnit (some "h1") (some "u1") "them" "me" "eth",
       .ofOneUnit (some "h2") (some "u2") "me" "shop" "eth"]
    let owned := AddressSet.ofList config.addresses
    let records := ((Manager.fresh config).delivered bundles).store.records
    Consistent bundles ∧
      keys owned bundles = [(some "h1", "me"), (some "h1", "bank"), (some "h2", "shop")] ∧
      (keys owned bundles).Nodup ∧ records.map TransferRecord.key = keys owned bundles ∧
      records.map some = (keys owned bundles).map (recordOf? config.network owned bundles) := by
  intro config bundles owned records
  have consistent : Consistent bundles := ⟨by decide, by decide⟩
  exact ⟨consistent, by decide, delivered_records_keyed config bundles consistent⟩

end Ledger

end WalletLedger
