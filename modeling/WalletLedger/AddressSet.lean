/-!
# Sets of addresses

The addresses that a wallet owns, each once, in ascending order. An address is
any text, the empty one included, and two addresses are one only if they agree
in every character.
-/

namespace WalletLedger

/-- A finite set of addresses, listed in ascending order. -/
structure AddressSet where
  members : List String
  ascending : members.Pairwise (· < ·)
deriving DecidableEq

namespace AddressSet

/-- The set without addresses. -/
def empty : AddressSet := ⟨[], .nil⟩

instance : Inhabited AddressSet := ⟨empty⟩

/-- Puts an address at its place in an ascending list that may hold it already. -/
def place (address : String) : List String → List String
  | [] => [address]
  | a :: rest =>
    if address < a then address :: a :: rest
    else if address = a then a :: rest
    else a :: place address rest

theorem mem_place {address a : String} {l : List String} :
    a ∈ place address l ↔ a = address ∨ a ∈ l := by
  induction l with
  | nil => simp [place]
  | cons head rest ih =>
    simp only [place]
    split
    · simp
    · split
      · next same => subst same; simp
      · simp only [List.mem_cons, ih]
        exact ⟨fun h => h.elim (fun e => .inr (.inl e)) (Or.imp_right .inr),
          fun h => h.elim (fun e => .inr (.inl e)) (Or.imp_right .inr)⟩

theorem place_ascending {address : String} {l : List String} (ascending : l.Pairwise (· < ·)) :
    (place address l).Pairwise (· < ·) := by
  induction l with
  | nil => simp [place]
  | cons head rest ih =>
    obtain ⟨first, others⟩ := List.pairwise_cons.1 ascending
    simp only [place]
    split
    · next before =>
      refine List.pairwise_cons.2 ⟨fun a mem => ?_, ascending⟩
      rcases List.mem_cons.1 mem with rfl | h
      · exact before
      · exact String.lt_trans before (first a h)
    · split
      · exact ascending
      · next notBefore different =>
        refine List.pairwise_cons.2 ⟨fun a mem => ?_, ih others⟩
        rcases mem_place.1 mem with rfl | h
        · rcases Classical.em (head < a) with after | notAfter
          · exact after
          · exact absurd (String.le_antisymm (String.not_lt.1 notAfter) (String.not_lt.1 notBefore))
              different
        · exact first a h

/-- The set with one more address. -/
def insert (s : AddressSet) (address : String) : AddressSet :=
  ⟨place address s.members, place_ascending s.ascending⟩

/-- The set of the addresses of a list. -/
def ofList (addresses : List String) : AddressSet :=
  addresses.foldl insert empty

/-- Whether an address is in the set. -/
def contains (s : AddressSet) (address : String) : Bool :=
  s.members.contains address

/-- How many addresses the set has. -/
def size (s : AddressSet) : Nat := s.members.length

theorem contains_insert (s : AddressSet) (address a : String) :
    (s.insert address).contains a = (a == address || s.contains a) := by
  simp only [contains, insert]
  rw [Bool.eq_iff_iff]
  simp [mem_place]

theorem contains_foldl_insert (addresses : List String) (s : AddressSet) (a : String) :
    (addresses.foldl insert s).contains a = (addresses.contains a || s.contains a) := by
  induction addresses generalizing s with
  | nil => simp
  | cons head rest ih =>
    rw [List.foldl_cons, ih, contains_insert, List.contains_cons]
    cases a == head <;> cases rest.contains a <;> simp

/-- A set made of a list has the addresses of the list. -/
theorem contains_ofList (addresses : List String) (a : String) :
    (ofList addresses).contains a = addresses.contains a := by
  rw [ofList, contains_foldl_insert]
  simp [contains, empty]

end AddressSet

end WalletLedger
