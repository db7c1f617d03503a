import WalletLedger.Store.Memory
import Mathlib.Data.List.Induction

/-!
# What a store in memory keeps

A store is written to by insertions and updates. What it shows afterwards is
settled by its history, which is the list of these calls, each with what it was
answered: which identifiers were issued, and which record was written last under
each of them. `TransferStore.Keeps` says what a store shows that loses nothing.

A store in memory agrees with its history on the identifiers and on the record
under each (`Mirrors`), which one write preserves (`Mirrors.write`), and all that
can be asked of the store is answered from the same records. Main statement:
`memory_keeps_writes`.
-/

namespace WalletLedger

/-! ## Writing to a store -/

/-- A call that writes to a store. -/
inductive StoreWrite where
  | insert (record : TransferRecord)
  | update (id : TransferId) (record : TransferRecord)
deriving DecidableEq

namespace StoreWrite

/-- The record that a call brings. -/
def record : StoreWrite → TransferRecord
  | insert record | update _ record => record

/-- Whether a call asks for an identifier. -/
def isInsert : StoreWrite → Bool
  | insert _ => true
  | update _ _ => false

end StoreWrite

/-- The calls that wrote to a store, each with the identifier under which its record lies, or with
why it was refused. -/
abbrev StoreHistory := List (StoreWrite × Except StoreError TransferId)

namespace StoreHistory

/-- How many records were inserted. -/
def insertions (history : StoreHistory) : Nat :=
  history.countP fun entry => entry.1.isInsert

/-- The identifiers that insertions returned, in their order. -/
def issued (history : StoreHistory) : List TransferId :=
  history.filterMap fun entry => if entry.1.isInsert then entry.2.toOption else none

/-- The record that was written last under an identifier. -/
def latest? (history : StoreHistory) (id : TransferId) : Option TransferRecord :=
  history.reverse.findSome? fun entry => if entry.2 = .ok id then some entry.1.record else none

variable (history : StoreHistory) (write : StoreWrite) (answer : Except StoreError TransferId)

theorem insertions_concat :
    insertions (history ++ [(write, answer)]) =
      history.insertions + if write.isInsert then 1 else 0 := by
  rw [insertions, List.countP_append, List.countP_singleton]
  rfl

theorem issued_concat :
    issued (history ++ [(write, answer)]) =
      history.issued ++ if write.isInsert then answer.toOption.toList else [] := by
  rw [issued, List.filterMap_append, List.filterMap_cons, List.filterMap_nil]
  cases write.isInsert with
  | false => rfl
  | true => cases answer <;> rfl

theorem latest?_concat (id : TransferId) :
    latest? (history ++ [(write, answer)]) id =
      if answer = .ok id then some write.record else history.latest? id := by
  rw [latest?, List.reverse_concat, List.findSome?_cons]
  dsimp only
  by_cases under : answer = .ok id
  · rw [if_pos under, if_pos under]
  · rw [if_neg under, if_neg under]
    rfl

end StoreHistory

namespace TransferStore

variable {σ : Type} [TransferStore σ]

/-- The store after a call, with the identifier under which the record lies, or with why the call is
refused. A call that is refused leaves the store as it is. -/
def write (store : σ) : StoreWrite → σ × Except StoreError TransferId
  | .insert record =>
    match insert store record with
    | .ok (next, id) => (next, .ok id)
    | .error error => (store, .error error)
  | .update id record =>
    match update store id record with
    | .ok next => (next, .ok id)
    | .error error => (store, .error error)

/-- The store after a list of calls. -/
def written (store : σ) (writes : List StoreWrite) : σ :=
  writes.foldl (fun store call => (write store call).1) store

/-- A list of calls, each with what it is answered. -/
def history (store : σ) : List StoreWrite → StoreHistory
  | [] => []
  | call :: rest => (call, (write store call).2) :: history (write store call).1 rest

theorem written_concat (store : σ) (writes : List StoreWrite) (call : StoreWrite) :
    written store (writes ++ [call]) = (write (written store writes) call).1 :=
  List.foldl_append

theorem history_concat (store : σ) (writes : List StoreWrite) (call : StoreWrite) :
    history store (writes ++ [call]) =
      history store writes ++ [(call, (write (written store writes) call).2)] := by
  induction writes generalizing store with
  | nil => rfl
  | cons first rest ih => exact congrArg _ (ih _)

/-! ## What a store shows -/

/-- A search comes to the entry with the smallest identifier among those whose record qualifies, or
to none if no record does. -/
def IsFirst (store : σ) (qualifies : TransferRecord → Prop) : Option StoreEntry → Prop
  | some (id, record) =>
    get store id = .ok record ∧ qualifies record ∧
      ∀ earlier other, earlier.index < id.index → get store earlier = .ok other → ¬qualifies other
  | none => ∀ id record, get store id = .ok record → ¬qualifies record

/-- A store shows what was written to it, whichever way it is asked. -/
structure Keeps (store : σ) (history : StoreHistory) : Prop where
  /-- Every insertion was accepted, and the identifiers count them. -/
  issued : history.issued = (List.range history.insertions).map TransferId.mk
  get_issued : ∀ id ∈ history.issued,
    ∃ record, history.latest? id = some record ∧ get store id = .ok record
  get_other : ∀ id ∉ history.issued, get store id = .error (.notFound id)
  /-- An update changes the record under its identifier and no other. -/
  update_issued : ∀ id ∈ history.issued, ∀ record,
    ∃ next, write store (.update id record) = (next, .ok id) ∧
      ∀ other, get next other = if other = id then .ok record else get store other
  update_other : ∀ id ∉ history.issued, ∀ record,
    write store (.update id record) = (store, .error (.notFound id))
  entries : ∃ list, entries store = .ok list ∧ list.map Prod.fst = history.issued ∧
    list.Pairwise (fun first second => first.1.index < second.1.index) ∧
      ∀ entry ∈ list, get store entry.1 = .ok entry.2
  /-- The size is the one that a store without a short cut takes from its entries. -/
  size : size store = (TransferStore.entries store).map List.length
  isEmpty : isEmpty store =
    (TransferStore.entries store).map fun list => decide (list.length = 0)
  byUids : ∀ uids, ∃ found, byUids store uids = .ok found ∧
    IsFirst store (fun record => record.uids = some uids) found
  find : ∀ hash uids target, ∃ found, find store hash uids target = .ok found ∧
    IsFirst store (fun record => record.target = target ∧
      ((∃ s, record.hash = some s ∧ hash = some s) ∨
        ∃ s, record.uids = some s ∧ uids = some s)) found
  /-- Among the records of one target, the search by a correlation id comes to the same entry. -/
  find_of_byUids : ∀ uids id record, TransferStore.byUids store uids = .ok (some (id, record)) →
    TransferStore.find store none (some uids) record.target = .ok (some (id, record))

end TransferStore

/-! ## Asking a store in memory -/

namespace MemoryStore

variable {store : MemoryStore}

theorem get_eq_elim (store : MemoryStore) (id : TransferId) :
    TransferStore.get store id = (store.get? id).elim (.error (.notFound id)) .ok :=
  rfl

theorem update_eq_elim (store : MemoryStore) (id : TransferId) (record : TransferRecord) :
    TransferStore.update store id record =
      (store.update? id record).elim (.error (.notFound id)) .ok :=
  rfl

theorem getElem_entries (store : MemoryStore) (index : Nat)
    (listed : index < store.entries.length) (within : index < store.records.length) :
    store.entries[index] = (⟨index⟩, store.records[index]) := by
  simp [entries]

/-- The entries are the identifiers with the records under them. -/
theorem mem_entries_iff {entry : StoreEntry} :
    entry ∈ store.entries ↔ store.get? entry.1 = some entry.2 := by
  constructor
  · intro mem
    obtain ⟨index, listed, rfl⟩ := List.getElem_of_mem mem
    have within : index < store.records.length := store.length_entries ▸ listed
    rw [getElem_entries _ _ _ within]
    exact List.getElem?_eq_getElem within
  · intro found
    obtain ⟨within, at_index⟩ := List.getElem?_eq_some_iff.1 found
    have listed : entry.1.index < store.entries.length := store.length_entries ▸ within
    have there := getElem_entries store _ listed within
    rw [at_index] at there
    have same : store.entries[entry.1.index] = entry := there
    exact List.mem_of_getElem same

theorem map_fst_entries (store : MemoryStore) :
    store.entries.map Prod.fst = (List.range store.records.length).map TransferId.mk := by
  rw [entries, List.map_map, List.range_eq_range', ← List.zipIdx_map_snd, List.map_map]
  rfl

theorem entries_ascending (store : MemoryStore) :
    store.entries.Pairwise fun first second => first.1.index < second.1.index := by
  have indices : store.entries.map (fun entry => entry.1.index) =
      List.range store.records.length := by
    have ids := congrArg (List.map TransferId.index) store.map_fst_entries
    rw [List.map_map, List.map_map] at ids
    exact ids.trans (List.map_id _)
  apply List.pairwise_map.1
  rw [indices]
  exact List.pairwise_lt_range

/-- The search comes to the first record that passes the test. -/
theorem first?_eq_some_iff {test : TransferRecord → Bool} {id : TransferId}
    {record : TransferRecord} :
    store.first? test = some (id, record) ↔
      store.get? id = some record ∧ test record = true ∧
        ∀ earlier other, earlier.index < id.index → store.get? earlier = some other →
          test other = false := by
  rw [first?, List.find?_eq_some_iff_getElem]
  constructor
  · intro search
    obtain ⟨passes, index, listed, at_index, before⟩ := search
    have within : index < store.records.length := store.length_entries ▸ listed
    rw [getElem_entries _ _ _ within, Prod.mk.injEq] at at_index
    obtain ⟨rfl, rfl⟩ := at_index
    refine ⟨List.getElem?_eq_getElem within, passes, fun earlier other less found => ?_⟩
    have early : earlier.index < store.records.length := Nat.lt_trans less within
    have failed := before earlier.index less
    rw [getElem_entries _ _ _ early, Bool.not_eq_true'] at failed
    obtain ⟨-, rfl⟩ := List.getElem?_eq_some_iff.1 found
    exact failed
  · intro conditions
    obtain ⟨found, passes, before⟩ := conditions
    obtain ⟨within, at_index⟩ := List.getElem?_eq_some_iff.1 found
    have listed : id.index < store.entries.length := store.length_entries ▸ within
    refine ⟨passes, id.index, listed, by rw [getElem_entries _ _ _ within, at_index], ?_⟩
    intro earlier less
    have early : earlier < store.records.length := Nat.lt_trans less within
    rw [getElem_entries _ _ _ early, Bool.not_eq_true']
    exact before ⟨earlier⟩ _ less (List.getElem?_eq_getElem early)

/-- The search comes to nothing if no record passes the test. -/
theorem first?_eq_none_iff {test : TransferRecord → Bool} :
    store.first? test = none ↔
      ∀ id record, store.get? id = some record → test record = false := by
  rw [first?, List.find?_eq_none]
  constructor
  · intro none id record found
    exact Bool.not_eq_true _ ▸ none (id, record) (mem_entries_iff.2 found)
  · intro fails entry mem
    exact Bool.not_eq_true _ ▸ fails entry.1 entry.2 (mem_entries_iff.1 mem)

/-! ## A store and its history -/

/-- A store in memory agrees with a history on the identifiers and on the record under each. -/
structure Mirrors (store : MemoryStore) (history : StoreHistory) : Prop where
  insertions : history.insertions = store.records.length
  issued : history.issued = (List.range store.records.length).map TransferId.mk
  latest : ∀ id, history.latest? id = store.get? id

theorem mirrors_empty : Mirrors empty [] :=
  ⟨rfl, rfl, fun _ => rfl⟩

theorem length_update {next : MemoryStore} {id : TransferId} {record : TransferRecord}
    (updated : store.update? id record = some next) : next.records.length = store.records.length := by
  unfold update? at updated
  split at updated
  · cases updated
    exact List.length_set
  · cases updated

theorem write_update_of_some {next : MemoryStore} {id : TransferId} {record : TransferRecord}
    (updated : store.update? id record = some next) :
    TransferStore.write store (.update id record) = (next, .ok id) := by
  have answer : TransferStore.update store id record = .ok next := by
    rw [update_eq_elim, updated, Option.elim_some]
  rw [TransferStore.write, answer]

theorem write_update_of_none {id : TransferId} {record : TransferRecord}
    (refused : store.update? id record = none) :
    TransferStore.write store (.update id record) = (store, .error (.notFound id)) := by
  have answer : TransferStore.update store id record = .error (.notFound id) := by
    rw [update_eq_elim, refused, Option.elim_none]
  rw [TransferStore.write, answer]

variable {history : StoreHistory}

/-- Every write is in the history as it is in the store. -/
theorem Mirrors.write (mirrors : store.Mirrors history) (call : StoreWrite) :
    Mirrors (TransferStore.write store call).1
      (history ++ [(call, (TransferStore.write store call).2)]) := by
  obtain ⟨insertions, issued, latest⟩ := mirrors
  cases call with
  | insert record =>
    have answer : TransferStore.write store (.insert record) =
        (store.insert record, .ok ⟨store.records.length⟩) := rfl
    have length : (store.insert record).records.length = store.records.length + 1 :=
      List.length_append
    rw [answer]
    refine ⟨?_, ?_, fun id => ?_⟩
    · rw [StoreHistory.insertions_concat, insertions, length]
      rfl
    · rw [StoreHistory.issued_concat, issued, length, List.range_succ, List.map_append]
      rfl
    · rw [StoreHistory.latest?_concat, latest, get?_insert]
      have same : Except.ok (ε := StoreError) ⟨store.records.length⟩ = .ok id ↔
          id.index = store.records.length := by
        rw [Except.ok.injEq, TransferId.mk.injEq]
        exact eq_comm
      simp only [same]
      rfl
  | update id record =>
    cases updated : store.update? id record with
    | some next =>
      rw [write_update_of_some updated]
      refine ⟨?_, ?_, fun other => ?_⟩
      · rw [StoreHistory.insertions_concat, insertions, length_update updated]
        rfl
      · rw [StoreHistory.issued_concat, issued, length_update updated]
        exact List.append_nil _
      · rw [StoreHistory.latest?_concat, latest, get?_update updated]
        have same : Except.ok (ε := StoreError) id = .ok other ↔ other = id := by
          rw [Except.ok.injEq]
          exact eq_comm
        simp only [same]
        rfl
    | none =>
      rw [write_update_of_none updated]
      refine ⟨?_, ?_, fun other => ?_⟩
      · rw [StoreHistory.insertions_concat, insertions]
        rfl
      · rw [StoreHistory.issued_concat, issued]
        exact List.append_nil _
      · rw [StoreHistory.latest?_concat, if_neg nofun, latest]

theorem mirrors_written (writes : List StoreWrite) :
    Mirrors (TransferStore.written empty writes) (TransferStore.history empty writes) := by
  induction writes using List.reverseRecOn with
  | nil => exact mirrors_empty
  | append_singleton writes call ih =>
    rw [TransferStore.written_concat, TransferStore.history_concat]
    exact ih.write call

theorem get_eq_ok_iff {id : TransferId} {record : TransferRecord} :
    TransferStore.get store id = .ok record ↔ store.get? id = some record := by
  rw [get_eq_elim]
  cases store.get? id with
  | none => exact iff_of_false nofun nofun
  | some stored => rw [Option.elim_some, Except.ok.injEq, Option.some.injEq]

/-- The identifiers of the history are those of the store. -/
theorem Mirrors.mem_issued_iff (mirrors : store.Mirrors history) {id : TransferId} :
    id ∈ history.issued ↔ id.index < store.records.length := by
  rw [mirrors.issued, List.mem_map]
  constructor
  · intro numbered
    obtain ⟨index, mem, rfl⟩ := numbered
    exact List.mem_range.1 mem
  · intro within
    exact ⟨id.index, List.mem_range.2 within, rfl⟩

/-- A search comes to the first entry whose record qualifies, given a test for it. -/
theorem isFirst_first? {test : TransferRecord → Bool} {qualifies : TransferRecord → Prop}
    (decides : ∀ record, test record = true ↔ qualifies record) :
    TransferStore.IsFirst store qualifies (store.first? test) := by
  have fails {record : TransferRecord} (failed : test record = false) : ¬qualifies record := by
    rw [← decides, failed]
    exact Bool.false_ne_true
  cases search : store.first? test with
  | none =>
    intro id record found
    exact fails (first?_eq_none_iff.1 search id record (get_eq_ok_iff.1 found))
  | some entry =>
    obtain ⟨found, passes, before⟩ := first?_eq_some_iff.1 search
    refine ⟨get_eq_ok_iff.2 found, (decides _).1 passes, fun earlier other less there => ?_⟩
    exact fails (before earlier other less (get_eq_ok_iff.1 there))

/-- A store that mirrors a history shows all of it. -/
theorem Mirrors.keeps (mirrors : store.Mirrors history) : TransferStore.Keeps store history where
  issued := by rw [mirrors.issued, mirrors.insertions]
  get_issued id mem := by
    have within := mirrors.mem_issued_iff.1 mem
    have found : store.get? id = some store.records[id.index] := List.getElem?_eq_getElem within
    exact ⟨_, (mirrors.latest id).trans found, get_eq_ok_iff.2 found⟩
  get_other id other := by
    have beyond : ¬id.index < store.records.length := fun within =>
      other (mirrors.mem_issued_iff.2 within)
    have absent : store.get? id = none := List.getElem?_eq_none (Nat.not_lt.1 beyond)
    rw [get_eq_elim, absent, Option.elim_none]
  update_issued id mem record := by
    have within := mirrors.mem_issued_iff.1 mem
    have updated : store.update? id record = some ⟨store.records.set id.index record⟩ :=
      if_pos within
    refine ⟨_, write_update_of_some updated, fun other => ?_⟩
    rw [get_eq_elim, get?_update updated]
    by_cases same : other = id
    · rw [if_pos same, if_pos same, Option.elim_some]
    · rw [if_neg same, if_neg same]
      rfl
  update_other id other record := by
    have beyond : ¬id.index < store.records.length := fun within =>
      other (mirrors.mem_issued_iff.2 within)
    exact write_update_of_none (if_neg beyond)
  entries :=
    ⟨_, rfl, store.map_fst_entries.trans mirrors.issued.symm, store.entries_ascending,
      fun _ mem => get_eq_ok_iff.2 (mem_entries_iff.1 mem)⟩
  size := congrArg Except.ok store.length_entries.symm
  isEmpty := by
    change Except.ok (decide (store.records.length = 0)) = .ok (decide (store.entries.length = 0))
    rw [length_entries]
  byUids uids := ⟨_, rfl, isFirst_first? fun record => decide_eq_true_iff⟩
  find hash uids target := ⟨_, rfl, isFirst_first? fun record => TransferRecord.isIdentifiedBy_iff⟩
  find_of_byUids uids id record found := by
    have search : store.first? (fun record => record.uids = some uids) = some (id, record) :=
      Except.ok.inj found
    obtain ⟨there, named, before⟩ := first?_eq_some_iff.1 search
    have known : record.uids = some uids := of_decide_eq_true named
    refine congrArg Except.ok (first?_eq_some_iff.2 ⟨there, ?_, ?_⟩)
    · exact TransferRecord.isIdentifiedBy_iff.2 ⟨rfl, .inr ⟨uids, known, rfl⟩⟩
    · intro earlier other less found_there
      refine Bool.eq_false_iff.2 fun identified => ?_
      -- without a hash to go by, the earlier record would have the correlation id itself
      rcases TransferRecord.isIdentifiedBy_iff.1 identified with ⟨-, ⟨_, _, none⟩ | ⟨_, also, same⟩⟩
      · cases none
      · cases same
        exact of_decide_eq_false (before earlier other less found_there) also

/-- A store in memory that starts without records keeps whatever is written to it. -/
theorem memory_keeps_writes (writes : List StoreWrite) :
    TransferStore.Keeps (TransferStore.written MemoryStore.empty writes)
      (TransferStore.history MemoryStore.empty writes) :=
  (mirrors_written writes).keeps

end MemoryStore

end WalletLedger
