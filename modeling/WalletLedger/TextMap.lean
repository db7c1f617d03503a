/-!
# Maps from texts to texts

Metadata and attributes are maps whose entries are always listed by ascending
key, and keys ascend by their code points, which is also the order of their
encoded bytes. The order is part of the type, so that equal contents mean equal
maps. Main statement: `get?_insert` says what an insertion changes.
-/

namespace WalletLedger

/-- A finite map from texts to texts, listed by ascending key. -/
structure TextMap where
  entries : List (String × String)
  ascending : entries.Pairwise fun a b => a.1 < b.1
deriving DecidableEq

namespace TextMap

/-- The map without entries. -/
def empty : TextMap := ⟨[], .nil⟩

instance : Inhabited TextMap := ⟨empty⟩

theorem ext {m n : TextMap} (same : m.entries = n.entries) : m = n := by
  cases m; cases n; cases same; rfl

/-! ## Insertion -/

/-- Puts an entry at its place in an ascending list, over an entry with the same key. -/
def place (key value : String) : List (String × String) → List (String × String)
  | [] => [(key, value)]
  | (k, v) :: rest =>
    if key < k then (key, value) :: (k, v) :: rest
    else if key = k then (key, value) :: rest
    else (k, v) :: place key value rest

theorem mem_place {key value : String} {l : List (String × String)} {e : String × String}
    (mem : e ∈ place key value l) : e = (key, value) ∨ e ∈ l := by
  induction l with
  | nil => simpa [place] using mem
  | cons head rest ih =>
    obtain ⟨k, v⟩ := head
    simp only [place] at mem
    split at mem
    · simpa using mem
    · split at mem
      · rcases List.mem_cons.1 mem with rfl | h
        · exact .inl rfl
        · exact .inr (List.mem_cons_of_mem _ h)
      · rcases List.mem_cons.1 mem with rfl | h
        · exact .inr List.mem_cons_self
        · exact (ih h).imp_right (List.mem_cons_of_mem _)

theorem place_ascending {key value : String} {l : List (String × String)}
    (ascending : l.Pairwise fun a b => a.1 < b.1) :
    (place key value l).Pairwise fun a b => a.1 < b.1 := by
  induction l with
  | nil => simp [place]
  | cons head rest ih =>
    obtain ⟨k, v⟩ := head
    obtain ⟨first, others⟩ := List.pairwise_cons.1 ascending
    simp only [place]
    split
    · next before =>
      refine List.pairwise_cons.2 ⟨fun e mem => ?_, ascending⟩
      rcases List.mem_cons.1 mem with rfl | h
      · exact before
      · exact String.lt_trans before (first e h)
    · split
      · next same => exact List.pairwise_cons.2 ⟨fun e mem => same ▸ first e mem, others⟩
      · next notBefore different =>
        refine List.pairwise_cons.2 ⟨fun e mem => ?_, ih others⟩
        rcases mem_place mem with rfl | h
        · rcases Classical.em (k < key) with after | notAfter
          · exact after
          · exact absurd (String.le_antisymm (String.not_lt.1 notAfter) (String.not_lt.1 notBefore))
              different
        · exact first e h

/-- The map with `key` leading to `value`, whatever it led to before. -/
def insert (m : TextMap) (key value : String) : TextMap :=
  ⟨place key value m.entries, place_ascending m.ascending⟩

/-- The map with all entries of a list inserted, the first one first. -/
def insertAll (m : TextMap) (list : List (String × String)) : TextMap :=
  list.foldl (fun m entry => m.insert entry.1 entry.2) m

/-- The map of the entries of a list; of entries with one key the last one counts. -/
def ofList (list : List (String × String)) : TextMap :=
  empty.insertAll list

/-! ## Look-up -/

/-- The value under a key. -/
def get? (m : TextMap) (key : String) : Option String :=
  m.entries.lookup key

/-- The value of the entry with the smallest key among those whose key satisfies a test. -/
def findValue? (m : TextMap) (test : String → Bool) : Option String :=
  (m.entries.find? fun entry => test entry.1).map (·.2)

@[simp] theorem get?_empty (key : String) : empty.get? key = none := rfl

theorem lookup_cons (key value other : String) (l : List (String × String)) :
    ((key, value) :: l).lookup other = if other = key then some value else l.lookup other := by
  rw [List.lookup_cons]
  by_cases h : other = key
  · rw [if_pos h, beq_iff_eq.2 h]
  · rw [if_neg h, beq_eq_false_iff_ne.2 h]

theorem lookup_place (key value other : String) (l : List (String × String)) :
    (place key value l).lookup other = if other = key then some value else l.lookup other := by
  induction l with
  | nil => exact lookup_cons key value other []
  | cons head rest ih =>
    obtain ⟨k, v⟩ := head
    simp only [place]
    split
    · exact lookup_cons ..
    · split
      · next same =>
        subst same
        rw [lookup_cons, lookup_cons]
        split <;> rfl
      · next different =>
        rw [lookup_cons, lookup_cons, ih]
        by_cases h : other = k
        · rw [if_pos h, if_pos h, if_neg (h ▸ Ne.symm different)]
        · rw [if_neg h, if_neg h]

/-- Looking a key up after an insertion. -/
theorem get?_insert (m : TextMap) (key value other : String) :
    (m.insert key value).get? other = if other = key then some value else m.get? other :=
  lookup_place key value other m.entries

end TextMap

end WalletLedger
