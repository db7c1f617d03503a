import WalletLedger.Json.Decode
import WalletLedger.Proofs.TextMap

/-!
# Decoding what was encoded

How the parts of a type come back from their JSON values: texts, numbers, maps,
what may be absent, the fields of a record and the fields of a variant. A value
with variants is kept before its variant is known; it can be if it is sound and
not nested too deep, which `Fits` says of the values that are written here.

* `Fields.of?_ofMembers` and the lemmas behind it read the fields of a record.
* `variantOf?_ofVariant` finds a variant and leaves its fields.
-/

namespace WalletLedger.Json

/-- A step that gives a value hands it on. Rewriting with this equation leaves the later steps
unevaluated. -/
theorem bind_of_eq_some {α β : Type} {step : Option α} {a : α} (gives : step = some a)
    {next : α → Option β} : step >>= next = next a := by
  rw [gives]
  rfl

/-- What is decoded item by item comes back item by item. -/
theorem mapM_map_eq_some {α β : Type} {encode : α → β} {decode : β → Option α}
    (reads : ∀ a, decode (encode a) = some a) (list : List α) :
    (list.map encode).mapM decode = some list := by
  induction list with
  | nil => rfl
  | cons a rest ih => simp [List.mapM_cons, reads, ih]

/-! ## Values without parts -/

namespace Value

theorem text?_ofText (text : String) : (ofText text).text? = some text := rfl

theorem uint64?_ofNat (n : UInt64) : (ofNat n.toNat).uint64? = some n := by
  rw [uint64?, ofNat, integer?, Option.bind_some, FixedWidth.uint64?_eq_some_iff]

theorem uint32?_ofNat (n : UInt32) : (ofNat n.toNat).uint32? = some n := by
  rw [uint32?, ofNat, integer?, Option.bind_some, FixedWidth.uint32?_eq_some_iff]

theorem int64?_ofInt (n : Int64) : (ofInt n.toInt).int64? = some n := by
  rw [int64?, ofInt, integer?, Option.bind_some, FixedWidth.int64?_eq_some_iff]

theorem int32?_ofInt (n : Int32) : (ofInt n.toInt).int32? = some n := by
  rw [int32?, ofInt, integer?, Option.bind_some, FixedWidth.int32?_eq_some_iff]

/-- What may be absent comes back if nothing that is there is written as `null`. -/
theorem nullable?_ofOption {α : Type} {encode : α → Value} {decode : Value → Option α}
    (reads : ∀ a, decode (encode a) = some a) (notNull : ∀ a, encode a ≠ .null)
    (value : Option α) : (ofOption encode value).nullable? decode = some value := by
  cases value with
  | none => rfl
  | some a =>
    rw [ofOption, nullable?, reads]
    · rfl
    · exact notNull a

theorem nullable?_ofText (text : Option String) :
    (ofOption ofText text).nullable? text? = some text :=
  nullable?_ofOption text?_ofText nofun text

theorem list?_map {α : Type} {encode : α → Value} {decode : Value → Option α}
    (reads : ∀ a, decode (encode a) = some a) (list : List α) :
    list? decode (.array (list.map encode)) = some list :=
  mapM_map_eq_some reads list

theorem textMap?_ofTextMap (m : TextMap) : (ofTextMap m).textMap? = some m := by
  have members : ((m.entries.map fun entry => (entry.1, ofText entry.2)).map
      fun member => (some member.1, member.2)).mapM textMember? = some m.entries := by
    rw [List.map_map]
    have reads (entry : String × String) :
        textMember? (some entry.1, ofText entry.2) = some entry := rfl
    exact mapM_map_eq_some reads m.entries
  rw [ofTextMap, ofMembers, textMap?, members, Option.map_some, TextMap.ofList_entries]

end Value

/-! ## Records -/

/-- The members of an object under the texts that their names denote. -/
def Value.members : Value → List (String × Value)
  | .object members => members.filterMap fun member => member.1.map (·, member.2)
  | _ => []

namespace Fields

variable {α : Type} {members : List (String × Value)} {name : String} {v : Value}

/-! ### One field -/

theorem required?_of_lookup {a : α} {decode : Value → Option α}
    (given : members.lookup name = some v) (decodes : decode v = some a) :
    (named members).required? name decode = some a := by
  rw [required?, find?, given, Option.bind_some, decodes]

theorem defaulted?_of_lookup {a default : α} {decode : Value → Option α}
    (given : members.lookup name = some v) (decodes : decode v = some a) :
    (named members).defaulted? name default decode = some a := by
  rw [defaulted?, find?, given]
  exact decodes

theorem defaulted?_of_lookup_eq_none {default : α} {decode : Value → Option α}
    (missing : members.lookup name = none) :
    (named members).defaulted? name default decode = some default := by
  rw [defaulted?, find?, missing]

theorem nullable?_of_lookup {a : Option α} {decode : Value → Option α}
    (given : members.lookup name = some v) (decodes : v.nullable? decode = some a) :
    (named members).nullable? name decode = some a := by
  have found : (named members).find? name = some v := given
  simp only [nullable?, found, decodes]

/-! ### All fields -/

theorem names?_map (members : List (String × Value)) :
    names? (members.map fun member => (some member.1, member.2)) = some members := by
  let named (member : String × Value) : Literal × Value := (some member.1, member.2)
  let name? (member : Literal × Value) := member.1.map (·, member.2)
  have reads (member : String × Value) : name? (named member) = some member := rfl
  exact mapM_map_eq_some reads members

/-- Among distinct names no name is there twice. -/
theorem length_filter_le_one (distinct : (members.map (·.1)).Nodup) (name : String) :
    (members.filter fun member => member.1 = name).length ≤ 1 := by
  have count : (members.filter fun member => member.1 = name).length =
      (members.map (·.1)).count name := by
    rw [List.count, List.countP_map, List.countP_eq_length_filter]
    rfl
  rw [count]
  exact List.nodup_iff_count_le_one.1 distinct name

/-- The fields of a record come back from an object that names each of them once. -/
theorem of?_ofMembers (names : List String) (distinct : (members.map (·.1)).Nodup) :
    of? names (.ofMembers members) = some (.named members) := by
  have once : (names.all fun name =>
      (members.filter fun member => member.1 = name).length ≤ 1) = true :=
    List.all_eq_true.2 fun name _ => decide_eq_true (length_filter_le_one distinct name)
  rw [Value.ofMembers, of?, names?_map, Option.bind_eq_bind, Option.bind_some, if_pos once]

theorem of?_singleton (name : String) (v : Value) :
    of? [name] (.ofMembers [(name, v)]) = some (.named [(name, v)]) :=
  of?_ofMembers [name] (List.nodup_singleton name)

theorem required?_singleton {a : α} {decode : Value → Option α} (name : String)
    (decodes : decode v = some a) : (named [(name, v)]).required? name decode = some a :=
  required?_of_lookup List.lookup_cons_self decodes

end Fields

/-! ## Values that are kept -/

/-- Rounding adds less than a unit, and a unit is no more than the number. -/
theorem roundedToDouble_le (n : Nat) : Text.roundedToDouble n ≤ 2 * n + 1 := by
  have unit_le : Nat.pow 2 (n.log2 - 52) ≤ n + 1 := by
    by_cases zero : n = 0
    · simp [zero]
    · calc Nat.pow 2 (n.log2 - 52)
          ≤ Nat.pow 2 n.log2 := Nat.pow_le_pow_right (by decide) (Nat.sub_le _ _)
        _ ≤ n := Nat.log2_self_le zero
        _ ≤ n + 1 := Nat.le_succ n
  have below_le : n / Nat.pow 2 (n.log2 - 52) * Nat.pow 2 (n.log2 - 52) ≤ n :=
    Nat.div_mul_le_self n _
  unfold Text.roundedToDouble
  dsimp only
  split
  · rw [Nat.add_mul, Nat.one_mul]
    omega
  · omega

/-- What 64 bits hold is far from infinity. -/
theorem overflowsInSteps_of_lt {n : Nat} (small : n < UInt64.size) :
    Text.overflowsInSteps n 0 = false := by
  have leading : Text.leadingDigits n 0 = (n, 0) := by
    rw [Text.leadingDigits, if_pos small]
  have one : Text.roundedToDouble (Nat.pow 10 (0 : Int).toNat) = 1 :=
    Text.roundedToDouble_of_lt (by decide)
  have finite : ¬ Text.infinityBound ≤ Text.roundedToDouble n := by
    have bound : 2 * UInt64.size + 1 < Text.infinityBound := by decide +kernel
    have rounded := roundedToDouble_le n
    omega
  have product : decide (Text.infinityBound ≤
      Text.roundedToDouble n * Text.roundedToDouble (Nat.pow 10 (0 : Int).toNat)) = false := by
    rw [one, Nat.mul_one]
    exact decide_eq_false finite
  rw [Text.overflowsInSteps, leading]
  dsimp only
  rw [product]
  exact Bool.and_false _

namespace Value

/-- A value can be kept before its type is known, and is nested at most so deep. -/
structure Fits (v : Value) (levels : Nat) : Prop where
  sound : v.isSound = true
  shallow : v.depth ≤ levels

theorem fits_ofText (text : String) (levels : Nat) : (ofText text).Fits levels :=
  ⟨rfl, Nat.zero_le levels⟩

theorem fits_boolean (b : Bool) (levels : Nat) : (boolean b).Fits levels :=
  ⟨rfl, Nat.zero_le levels⟩

theorem fits_integer {n : Int} (small : n.natAbs < UInt64.size) (levels : Nat) :
    (number (.integer n)).Fits levels := by
  refine ⟨?_, Nat.zero_le levels⟩
  rw [isSound, Number.isFinite, overflowsInSteps_of_lt small, Bool.not_false]

theorem fits_ofNat (n : UInt64) (levels : Nat) : (ofNat n.toNat).Fits levels := by
  have small : (n.toNat : Int).natAbs < UInt64.size := by
    rw [Int.natAbs_natCast]
    exact n.toNat_lt_size
  exact fits_integer small levels

theorem fits_ofInt (n : Int32) (levels : Nat) : (ofInt n.toInt).Fits levels := by
  have low := n.le_toInt
  have high := n.toInt_lt
  have small : n.toInt.natAbs < UInt64.size := by
    unfold UInt64.size
    omega
  exact fits_integer small levels

theorem fits_ofOption {α : Type} {encode : α → Value} {levels : Nat}
    (fits : ∀ a, (encode a).Fits levels) (value : Option α) :
    (ofOption encode value).Fits levels := by
  cases value with
  | none => exact ⟨rfl, Nat.zero_le levels⟩
  | some a => exact fits a

/-- An object is one level above its members. -/
theorem fits_ofMembers {members : List (String × Value)} {levels : Nat}
    (fits : ∀ member ∈ members, member.2.Fits levels) : (ofMembers members).Fits (levels + 1) := by
  suffices all : membersSound (members.map fun member => (some member.1, member.2)) = true ∧
      membersDepth (members.map fun member => (some member.1, member.2)) ≤ levels from
    ⟨all.1, Nat.succ_le_succ all.2⟩
  induction members with
  | nil => exact ⟨rfl, Nat.zero_le levels⟩
  | cons member rest ih =>
    obtain ⟨name, v⟩ := member
    have first : v.Fits levels := fits (name, v) List.mem_cons_self
    obtain ⟨sound, shallow⟩ := ih fun other mem => fits other (List.mem_cons_of_mem _ mem)
    constructor
    · rw [List.map_cons, membersSound, memberSound, first.sound, sound]
      rfl
    · rw [List.map_cons, membersDepth, memberDepth]
      exact max_le first.shallow shallow

/-- The fields of a variant decide how deep it is, since its name is a text. -/
theorem fits_ofVariant {name : String} {fields : List (String × Value)} {levels : Nat}
    (fits : ∀ field ∈ fields, field.2.Fits levels) : (ofVariant name fields).Fits (levels + 1) :=
  fits_ofMembers (List.forall_mem_cons.2 ⟨fits_ofText name levels, fits⟩)

/-- A value that fits is kept where the levels around it leave room for its own. -/
theorem keeps_of_fits {v : Value} {levels enclosing : Nat} (fits : v.Fits levels)
    (room : enclosing + levels ≤ depthLimit) : (Place.direct enclosing).keeps v = true := by
  have within : enclosing + v.depth ≤ depthLimit :=
    le_trans (Nat.add_le_add_left fits.shallow enclosing) room
  rw [Place.keeps, fits.sound, decide_eq_true within, Bool.and_true]

end Value

/-! ## Variants -/

/-- A variant is named as it is known, wherever its value stands. -/
theorem variant?_ofText {names : List String} {name : String} (known : name ∈ names)
    (place : Place) : place.variant? names (.ofText name) = some name := by
  have contains : names.contains name = true := List.contains_iff_mem.2 known
  cases place with
  | direct enclosing => exact if_pos contains
  | kept => exact if_pos contains

/-- The variant of a value is found, and its fields are left. -/
theorem variantOf?_ofVariant {names : List String} {place : Place} {name : String}
    {fields : List (String × Value)} (keeps : place.keeps (.ofVariant name fields) = true)
    (known : name ∈ names) (untagged : "type" ∉ fields.map (·.1)) :
    variantOf? names place (.ofVariant name fields) = some (name, .ofMembers fields) := by
  let members : List (Literal × Value) := fields.map fun field => (some field.1, field.2)
  have others : ∀ member ∈ members, member.1 ≠ some "type" := by
    rintro member mem same
    obtain ⟨field, given, rfl⟩ := List.mem_map.1 mem
    exact untagged (List.mem_map.2 ⟨field, given, Option.some.inj same⟩)
  have tags : ((some "type", .ofText name) :: members).filter
      (fun member => member.1 = some "type") = [(some "type", .ofText name)] := by
    rw [List.filter_cons_of_pos (by simp),
      List.filter_eq_nil_iff.2 fun member mem => by simpa using others member mem]
  have rest : withoutType ((some "type", .ofText name) :: members) = members := by
    rw [withoutType, List.filter_cons_of_neg (by simp),
      List.filter_eq_self.2 fun member mem => by simpa using others member mem]
  have shape : Value.ofVariant name fields =
      .object ((some "type", .ofText name) :: members) := rfl
  rw [shape] at keeps ⊢
  simp only [variantOf?, if_pos keeps, tags, rest, variant?_ofText known, Option.map_some]
  rfl

end WalletLedger.Json
