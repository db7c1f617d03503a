import WalletLedger.Proofs.Bundle.Built
import WalletLedger.Proofs.Text.Bytes
import WalletLedger.Proofs.TextMap
import WalletLedger.Transfer.Record

/-!
# Recovered attributes

Metadata may have several keys that differ in case alone. A look-up takes the one
with the smallest bytes among those that are the wanted key in some case, so in
whatever case a key is wanted the answer is the same. The attributes of a transfer
are such answers for the keys of its network, in the spelling of the network;
entries under other keys have no influence on them (`recoverAttributes_congr`).

Main statement: `TransferRecord.attributes_exact`.
-/

namespace WalletLedger

/-! ## Metadata in any case -/

/-- The entry of a map that answers for a key: the entry's own key is this one in some case, and
there is no such key with smaller bytes. -/
structure TextMap.Answers (m : TextMap) (key spelling value : String) : Prop where
  entry : m.get? spelling = some value
  spelled : Text.sameLetters spelling key = true
  least : ∀ other, (m.get? other).isSome → Text.sameLetters other key = true →
    Text.bytes spelling ≤ Text.bytes other

namespace TransferBundle

variable {bundle : TransferBundle} {key value : String}

theorem metadataValue?_eq_none_iff :
    bundle.metadataValue? key = none ↔
      ∀ other, (bundle.metadata.get? other).isSome → Text.sameLetters other key = false :=
  TextMap.findValue?_eq_none_iff

theorem metadataValue?_eq_some_iff :
    bundle.metadataValue? key = some value ↔
      ∃ spelling, bundle.metadata.Answers key spelling value := by
  rw [metadataValue?, TextMap.findValue?_eq_some_iff]
  refine exists_congr fun spelling => ⟨?_, ?_⟩
  · rintro ⟨entry, spelled, least⟩
    refine ⟨entry, spelled, fun other present otherSpelled => List.not_lt.1 fun below => ?_⟩
    have passedOver := least other (Text.bytes_lt_iff.1 below) present
    exact Bool.eq_false_iff.1 passedOver otherSpelled
  · rintro ⟨entry, spelled, least⟩
    refine ⟨entry, spelled, fun smaller below present => Bool.eq_false_iff.2 fun alsoSpelled => ?_⟩
    exact List.not_lt.2 (least smaller present alsoSpelled) (Text.bytes_lt_iff.2 below)

/-- The case of the wanted key makes no difference. -/
theorem metadataValue?_of_sameLetters {wanted : String}
    (same : Text.sameLetters wanted key = true) :
    bundle.metadataValue? wanted = bundle.metadataValue? key := by
  have tests : (Text.sameLetters · wanted) = (Text.sameLetters · key) := by
    funext other
    rw [Text.sameLetters, Text.sameLetters, Text.sameLetters_iff.1 same]
  exact congrArg bundle.metadata.findValue? tests

end TransferBundle

/-- Two maps of metadata have the same entries under the attribute keys of a network, in every case
of these keys. Under other keys they may differ in any way. -/
def Network.AgreeOnAttributes (network : Network) (m n : TextMap) : Prop :=
  ∀ key, (∃ canonical ∈ network.attributeKeys, Text.sameLetters key canonical = true) →
    m.get? key = n.get? key

namespace TransferRecord

variable {bundle : TransferBundle} {network : Network}

/-- The attributes are what the metadata have for the keys of the network. -/
theorem get?_recoverAttributes_iff {key value : String} :
    (recoverAttributes bundle network).get? key = some value ↔
      key ∈ network.attributeKeys ∧ bundle.metadataValue? key = some value :=
  TextMap.get?_ofList_filterMap_key_iff

/-- Entries under keys that are none of the network's have no influence on the attributes. -/
theorem recoverAttributes_congr {other : TransferBundle}
    (agree : network.AgreeOnAttributes bundle.metadata other.metadata) :
    recoverAttributes other network = recoverAttributes bundle network := by
  have answers : ∀ canonical ∈ network.attributeKeys,
      other.metadataValue? canonical = bundle.metadataValue? canonical := by
    intro canonical listed
    refine TextMap.findValue?_congr fun key spelled => ?_
    exact (agree key ⟨canonical, listed, spelled⟩).symm
  refine TextMap.ext_get? fun key => Option.ext fun value => ?_
  rw [get?_recoverAttributes_iff, get?_recoverAttributes_iff]
  exact and_congr_right fun listed => by rw [answers key listed]

/-- A metadata value is that of the key with the smallest bytes among those that are the wanted key
in some case, so the case of the wanted key makes no difference. The attributes of a transfer are
these values for the keys of the network, and depend on no entry under another key. -/
theorem attributes_exact (bundle : TransferBundle) :
    (∀ key,
      (bundle.metadataValue? key = none ↔
        ∀ other, (bundle.metadata.get? other).isSome → Text.sameLetters other key = false) ∧
      (∀ value, bundle.metadataValue? key = some value ↔
        ∃ spelling, bundle.metadata.Answers key spelling value) ∧
      ∀ wanted, Text.sameLetters wanted key = true →
        bundle.metadataValue? wanted = bundle.metadataValue? key) ∧
    ∀ network : Network,
      (∀ key value, (recoverAttributes bundle network).get? key = some value ↔
        key ∈ network.attributeKeys ∧ bundle.metadataValue? key = some value) ∧
      ∀ other : TransferBundle, network.AgreeOnAttributes bundle.metadata other.metadata →
        recoverAttributes other network = recoverAttributes bundle network := by
  refine ⟨fun key => ⟨?_, fun value => ?_, fun wanted same => ?_⟩,
    fun network => ⟨fun key value => ?_, fun other agree => ?_⟩⟩
  · exact TransferBundle.metadataValue?_eq_none_iff
  · exact TransferBundle.metadataValue?_eq_some_iff
  · exact TransferBundle.metadataValue?_of_sameLetters same
  · exact get?_recoverAttributes_iff
  · exact recoverAttributes_congr agree

/-- Two payments to a destination that is given in two cases, once in capitals. They differ in an
entry that no attribute comes from. -/
theorem attributes_exact_capitals :
    let tagged := (TextMap.empty.insert "destinationtag" "8").insert "DESTINATIONTAG" "7"
    let noted := {
      TransferBundle.ofOneUnit (some "h") none "me" "them" "xrp" with
      metadata := tagged.insert "memo" "rent" }
    let labelled := { noted with metadata := tagged.insert "label" "flat" }
    Network.xrp.AgreeOnAttributes noted.metadata labelled.metadata ∧
      noted.metadata ≠ labelled.metadata ∧
      recoverAttributes labelled .xrp = recoverAttributes noted .xrp ∧
      (∃ spelling, noted.metadata.Answers "DestinationTag" spelling "7") ∧
      (recoverAttributes noted .xrp).get? "DestinationTag" = some "7" := by
  intro tagged noted labelled
  have untouched (entry value key : String)
      (foreign : ∀ canonical ∈ Network.xrp.attributeKeys,
        Text.sameLetters entry canonical = false)
      (spelled : ∃ canonical ∈ Network.xrp.attributeKeys,
        Text.sameLetters key canonical = true) :
      (tagged.insert entry value).get? key = tagged.get? key := by
    obtain ⟨canonical, listed, same⟩ := spelled
    refine (TextMap.get?_insert ..).trans (if_neg ?_)
    rintro rfl
    exact Bool.eq_false_iff.1 (foreign canonical listed) same
  have agree : Network.xrp.AgreeOnAttributes noted.metadata labelled.metadata := fun key spelled =>
    (untouched "memo" "rent" key (by decide +kernel) spelled).trans
      (untouched "label" "flat" key (by decide +kernel) spelled).symm
  have value : noted.metadataValue? "DestinationTag" = some "7" := by decide +kernel
  have listed : "DestinationTag" ∈ Network.xrp.attributeKeys := List.mem_cons_self
  obtain ⟨values, attributes⟩ := attributes_exact noted
  obtain ⟨recovered, unaffected⟩ := attributes .xrp
  exact ⟨agree, by decide +kernel, unaffected labelled agree,
    ((values "DestinationTag").2.1 "7").1 value, (recovered _ _).2 ⟨listed, value⟩⟩

end TransferRecord

end WalletLedger
