import WalletLedger.TextMap
import Mathlib.Data.List.Sort

/-!
# Maps as functions

A map is known once the value under every key is known. Inserting the entries of
another map is a union in which the other map wins, so inserting them once more
changes nothing.

Main statements: `ext_get?`, maps that agree at every key are equal;
`get?_insertAll_entries`, what a union holds; and `findValue?_eq_some_iff`, what a
search by a test of the key finds, which no other key has a part in
(`findValue?_congr`).
-/

namespace WalletLedger.TextMap

/-! ## Entries and values -/

/-- The entries of a map are its keys with their values. -/
theorem mem_entries_iff {m : TextMap} {key value : String} :
    (key, value) ∈ m.entries ↔ m.get? key = some value := by
  obtain ⟨entries, ascending⟩ := m
  unfold get?
  induction entries with
  | nil => simp
  | cons head rest ih =>
    obtain ⟨k, v⟩ := head
    obtain ⟨first, others⟩ := List.pairwise_cons.1 ascending
    rw [lookup_cons, List.mem_cons]
    by_cases same : key = k
    · subst same
      have absent : (key, value) ∉ rest := fun mem => String.lt_irrefl key (first _ mem)
      simp [absent, eq_comm]
    · rw [if_neg same, ← ih others]
      simp [same]

/-- Maps that agree at every key are equal. -/
theorem ext_get? {m n : TextMap} (agree : ∀ key, m.get? key = n.get? key) : m = n := by
  have irreflexive : Std.Irrefl fun a b : String × String => a.1 < b.1 :=
    ⟨fun a => String.lt_irrefl a.1⟩
  have antisymmetric : Std.Antisymm fun a b : String × String => a.1 < b.1 :=
    ⟨fun a b below above => absurd above (String.lt_asymm below)⟩
  refine ext (m.ascending.eq_of_mem_iff n.ascending fun entry => ?_)
  obtain ⟨key, value⟩ := entry
  rw [mem_entries_iff, mem_entries_iff, agree]

/-! ## Unions -/

/-- Looking a key up after several insertions: the last insertion under the key counts. -/
theorem get?_insertAll (m : TextMap) (list : List (String × String)) (key : String) :
    (m.insertAll list).get? key = (list.reverse.lookup key).or (m.get? key) := by
  induction list generalizing m with
  | nil => rfl
  | cons head rest ih =>
    obtain ⟨k, v⟩ := head
    have step : m.insertAll ((k, v) :: rest) = (m.insert k v).insertAll rest := rfl
    rw [step, ih, get?_insert, List.reverse_cons, List.lookup_append, lookup_cons]
    by_cases same : key = k
    · simp [same]
    · simp [same]

/-- A list that ascends by key holds each key once, so it may be read from either end. -/
theorem lookup_reverse {l : List (String × String)} (ascending : l.Pairwise fun a b => a.1 < b.1)
    (key : String) : l.reverse.lookup key = l.lookup key := by
  induction l with
  | nil => rfl
  | cons head rest ih =>
    obtain ⟨k, v⟩ := head
    obtain ⟨first, others⟩ := List.pairwise_cons.1 ascending
    rw [List.reverse_cons, List.lookup_append, ih others, lookup_cons, lookup_cons]
    by_cases same : key = k
    · subst same
      have absent : rest.lookup key = none := by
        rw [List.lookup_eq_none_iff]
        intro entry mem
        exact bne_iff_ne.2 (String.ne_of_lt (first entry mem))
      simp [absent]
    · simp [same]

/-- The union of two maps, of which the one inserted wins. -/
theorem get?_insertAll_entries (m n : TextMap) (key : String) :
    (m.insertAll n.entries).get? key = (n.get? key).or (m.get? key) := by
  rw [get?_insertAll, lookup_reverse n.ascending]
  rfl

/-- Inserting the entries of a map twice is inserting them once. -/
theorem insertAll_insertAll_entries (m n : TextMap) :
    (m.insertAll n.entries).insertAll n.entries = m.insertAll n.entries := by
  refine ext_get? fun key => ?_
  rw [get?_insertAll_entries, get?_insertAll_entries, ← Option.or_assoc, Option.or_self]

/-- A map has its own entries already. -/
theorem insertAll_entries_self (m : TextMap) : m.insertAll m.entries = m := by
  refine ext_get? fun key => ?_
  rw [get?_insertAll_entries, Option.or_self]

/-- A map is made of its entries. -/
theorem ofList_entries (m : TextMap) : ofList m.entries = m := by
  refine ext_get? fun key => ?_
  rw [ofList, get?_insertAll_entries, get?_empty, Option.or_none]

/-- Looking up one of the keys for which values were collected. -/
theorem lookup_filterMap_key_iff {value? : String → Option String} {keys : List String}
    {key value : String} :
    (keys.filterMap fun k => (value? k).map fun v => (k, v)).lookup key = some value ↔
      key ∈ keys ∧ value? key = some value := by
  induction keys with
  | nil => simp
  | cons k rest ih =>
    rw [List.filterMap_cons]
    by_cases same : key = k
    · subst same
      cases given : value? key with
      | none =>
        rw [given] at ih
        simp [ih]
      | some v => simp
    · cases value? k with
      | none => simpa [same] using ih
      | some v => simpa [lookup_cons, same] using ih

/-- A map of the values that were collected for certain keys. -/
theorem get?_ofList_filterMap_key_iff {value? : String → Option String} {keys : List String}
    {key value : String} :
    (ofList (keys.filterMap fun k => (value? k).map fun v => (k, v))).get? key = some value ↔
      key ∈ keys ∧ value? key = some value := by
  rw [ofList, get?_insertAll, get?_empty, Option.or_none, ← List.filterMap_reverse,
    lookup_filterMap_key_iff, List.mem_reverse]

/-! ## Where entries come from -/

theorem mem_insertAll {m : TextMap} {list : List (String × String)} {entry : String × String}
    (mem : entry ∈ (m.insertAll list).entries) : entry ∈ m.entries ∨ entry ∈ list := by
  induction list generalizing m with
  | nil => exact .inl mem
  | cons head rest ih =>
    rcases ih mem with before | later
    · rcases mem_place before with rfl | there
      · exact .inr List.mem_cons_self
      · exact .inl there
    · exact .inr (List.mem_cons_of_mem _ later)

/-! ## Searching by a test of the key -/

/-- A search finds nothing just if no key passes the test. -/
theorem findValue?_eq_none_iff {m : TextMap} {test : String → Bool} :
    m.findValue? test = none ↔ ∀ key, (m.get? key).isSome → test key = false := by
  rw [findValue?, Option.map_eq_none_iff, List.find?_eq_none]
  constructor
  · intro rejected key present
    obtain ⟨value, known⟩ := Option.isSome_iff_exists.1 present
    exact Bool.eq_false_iff.2 (rejected (key, value) (mem_entries_iff.2 known))
  · intro rejected entry mem
    obtain ⟨key, value⟩ := entry
    have known := mem_entries_iff.1 mem
    exact Bool.eq_false_iff.1 (rejected key (Option.isSome_of_eq_some known))

/-- A search finds the value of the smallest key that passes the test. -/
theorem findValue?_eq_some_iff {m : TextMap} {test : String → Bool} {value : String} :
    m.findValue? test = some value ↔
      ∃ key, m.get? key = some value ∧ test key = true ∧
        ∀ smaller < key, (m.get? smaller).isSome → test smaller = false := by
  rw [findValue?, Option.map_eq_some_iff]
  constructor
  · rintro ⟨⟨key, found⟩, first, rfl⟩
    obtain ⟨passes, before, after, split, rejected⟩ := List.find?_eq_some_iff_append.1 first
    have mem : (key, found) ∈ m.entries := by
      rw [split]
      exact List.mem_append_right _ List.mem_cons_self
    refine ⟨key, mem_entries_iff.1 mem, passes, fun smaller below present => ?_⟩
    obtain ⟨other, known⟩ := Option.isSome_iff_exists.1 present
    have listed := mem_entries_iff.2 known
    have ascending := m.ascending
    rw [split] at listed ascending
    obtain ⟨-, later, -⟩ := List.pairwise_append.1 ascending
    -- the smaller key can only stand in front of the one that was found
    rcases List.mem_append.1 listed with inFront | behind
    · simpa using rejected _ inFront
    · rcases List.mem_cons.1 behind with same | after
      · cases same
        exact absurd below (String.lt_irrefl key)
      · have above := (List.pairwise_cons.1 later).1 _ after
        exact absurd below (String.lt_asymm above)
  · rintro ⟨key, known, passes, least⟩
    refine ⟨(key, value), ?_, rfl⟩
    obtain ⟨before, after, split⟩ := List.append_of_mem (mem_entries_iff.2 known)
    refine List.find?_eq_some_iff_append.2 ⟨passes, before, after, split, fun entry mem => ?_⟩
    obtain ⟨smaller, other⟩ := entry
    have ascending := m.ascending
    rw [split] at ascending
    obtain ⟨-, -, below⟩ := List.pairwise_append.1 ascending
    have listed : (smaller, other) ∈ m.entries := by
      rw [split]
      exact List.mem_append_left _ mem
    have present := Option.isSome_of_eq_some (mem_entries_iff.1 listed)
    rw [least smaller (below _ mem _ List.mem_cons_self) present, Bool.not_false]

/-- A search looks at no value whose key fails the test. -/
theorem findValue?_congr {m n : TextMap} {test : String → Bool}
    (agree : ∀ key, test key = true → m.get? key = n.get? key) :
    m.findValue? test = n.findValue? test := by
  have found {m n : TextMap} (agree : ∀ key, test key = true → m.get? key = n.get? key)
      {value : String} (first : m.findValue? test = some value) :
      n.findValue? test = some value := by
    obtain ⟨key, known, passes, least⟩ := findValue?_eq_some_iff.1 first
    refine findValue?_eq_some_iff.2 ⟨key, (agree key passes).symm.trans known, passes, ?_⟩
    intro smaller below present
    refine Bool.eq_false_iff.2 fun alsoPasses => ?_
    rw [← agree smaller alsoPasses] at present
    exact Bool.eq_false_iff.1 (least smaller below present) alsoPasses
  refine Option.ext fun value => ⟨found agree, found fun key passes => ?_⟩
  exact (agree key passes).symm

theorem exists_of_findValue? {m : TextMap} {test : String → Bool} {value : String}
    (found : m.findValue? test = some value) :
    ∃ key, (key, value) ∈ m.entries ∧ test key = true := by
  obtain ⟨key, known, passes, -⟩ := findValue?_eq_some_iff.1 found
  exact ⟨key, mem_entries_iff.2 known, passes⟩

/-! ## Texts -/

/-- The keys and the values of a map. -/
def texts (m : TextMap) : List String :=
  m.entries.flatMap fun entry => [entry.1, entry.2]

theorem mem_texts_iff {m : TextMap} {text : String} :
    text ∈ m.texts ↔ ∃ entry ∈ m.entries, text = entry.1 ∨ text = entry.2 := by
  simp [texts]

end WalletLedger.TextMap
