import Mathlib.Data.UInt

/-!
JSON documents, readers of typed fields, and writing at a path. Reading a struct refuses a repeated
field; a document kept as a value has the last entry of each name.
-/

namespace NgGateway.JsonDocuments

/-- A number without fraction or exponent is kept as an integer when it has 64 bits. -/
inductive JsonNumber where
  | posInt (n : UInt64)
  | negInt (n : Int64)
  | float (bits : UInt64)

inductive Json where
  | null
  | bool (b : Bool)
  | number (n : JsonNumber)
  | string (s : String)
  | array (items : List Json)
  | object (entries : List (String × Json))

def JsonNumber.ofInt64 (n : Int64) : JsonNumber :=
  if n < 0 then .negInt n else .posInt n.toUInt64

def JsonNumber.asI64 : JsonNumber → Option Int64
  | .posInt n => if n.toNat ≤ 9223372036854775807 then some n.toInt64 else none
  | .negInt n => some n
  | .float _ => none

def JsonNumber.asU64 : JsonNumber → Option UInt64
  | .posInt n => some n
  | .negInt _ => none
  | .float _ => none

def JsonNumber.integer? : JsonNumber → Option Int
  | .posInt n => some n.toNat
  | .negInt n => some n.toInt
  | .float _ => none

def JsonNumber.float? : JsonNumber → Option UInt64
  | .posInt _ => none
  | .negInt _ => none
  | .float bits => some bits

def JsonNumber.text (floatText : UInt64 → String) : JsonNumber → String
  | .posInt n => toString n.toNat
  | .negInt n => toString n.toInt
  | .float bits => floatText bits

theorem integer?_ofInt64 (n) : (JsonNumber.ofInt64 n).integer? = some n.toInt := by
  rw [JsonNumber.ofInt64]
  split_ifs with hneg
  · rfl
  · have hle : 0 ≤ n := Int64.not_lt.mp hneg
    have hnonneg : 0 ≤ n.toInt := by simpa [Int64.le_iff_toInt_le] using hle
    change some ((n.toUInt64.toNat : Int)) = _
    rw [Int64.toNat_toUInt64_of_le hle]
    exact congrArg some (Int.toNat_of_nonneg hnonneg)

theorem asI64_of_integer? {number : JsonNumber} (hn : number.integer? = some n)
    (hle : n ≤ 9223372036854775807) : ∃ i, number.asI64 = some i ∧ i.toInt = n := by
  cases number with
  | posInt m =>
    cases hn
    have hm : m.toNat ≤ 9223372036854775807 := Int.ofNat_le.mp hle
    refine ⟨m.toInt64, if_pos hm, ?_⟩
    rw [← UInt64.ofNat_toNat (x := m), UInt64.toInt64_ofNat', UInt64.ofNat_toNat,
      Int64.toInt_ofNat_of_lt (by omega)]
  | negInt m =>
    cases hn
    exact ⟨m, rfl, rfl⟩
  | float bits => cases hn

theorem asI64_eq_none {number : JsonNumber} (hn : number.integer? = some n)
    (hlt : 9223372036854775807 < n) :
    number.asI64 = none ∧ ∃ u, number.asU64 = some u ∧ (u.toNat : Int) = n := by
  cases number with
  | posInt m =>
    cases hn
    refine ⟨if_neg ?_, m, rfl, rfl⟩
    omega
  | negInt m =>
    cases hn
    have hbound := m.toInt_lt
    omega
  | float bits => cases hn

inductive ReadError where
  | missingField (name : String)
  | duplicateField (name : String)
  | invalidType (found : Json) (expected : String)
  | invalidValue (found : Json) (expected : String)
  | invalidLength (len : Nat)
  | unknownVariant (found : String)
  | custom (message : String)

/-- Whether a struct is read from text or from a document kept as a value. -/
inductive Origin where
  | text
  | value

def lastOf (entries : List (String × Json)) (name : String) : Option Json :=
  (entries.reverse.find? fun entry => entry.1 = name).map Prod.snd

def Origin.find (origin : Origin) (entries : List (String × Json)) (name : String) :
    Except ReadError (Option Json) :=
  match origin with
  | .value => .ok (lastOf entries name)
  | .text =>
    if 1 < entries.countP (fun entry => entry.1 = name) then .error (.duplicateField name)
    else .ok (lastOf entries name)

/-- A struct is also read from an array of its fields in order. -/
def Json.field (doc : Json) (origin : Origin) (index : Nat) (name : String) :
    Except ReadError Json :=
  match doc with
  | .object entries => do
      match ← origin.find entries name with
      | some found => .ok found
      | none => .error (.missingField name)
  | .array items =>
    match items[index]? with
    | some found => .ok found
    | none => .error (.invalidLength index)
  | found => .error (.invalidType found "a map")

/-- A field that an object may leave out; an array may when the field has a default. -/
def Json.optionalField (doc : Json) (origin : Origin) (index : Nat) (name : String)
    (hasDefault : Bool) : Except ReadError (Option Json) :=
  match doc with
  | .object entries => origin.find entries name
  | .array items =>
    match items[index]? with
    | some found => .ok (some found)
    | none => if hasDefault then .ok none else .error (.invalidLength index)
  | found => .error (.invalidType found "a map")

def Json.noFieldsAfter (doc : Json) (count : Nat) : Except ReadError Unit :=
  match doc with
  | .array items => if items.length ≤ count then .ok () else .error (.invalidLength items.length)
  | _ => .ok ()

def readString : Json → Except ReadError String
  | .string s => .ok s
  | found => .error (.invalidType found "a string")

def readInteger (name : String) (lo hi : Int) : Json → Except ReadError Int
  | .number number =>
    match number.integer? with
    | some n =>
      if lo ≤ n ∧ n ≤ hi then .ok n else .error (.invalidValue (.number number) name)
    | none => .error (.invalidType (.number number) name)
  | found => .error (.invalidType found name)

/-- An absent field and `null` are both no value. -/
def readOption {α : Type} (read : Json → Except ReadError α) :
    Option Json → Except ReadError (Option α)
  | none => .ok none
  | some .null => .ok none
  | some found => (read found).map some

/-- The name of a unit variant, alone or as the only name of an object. -/
def readVariant : Json → Except ReadError String
  | .string s => .ok s
  | .object [(s, .null)] => .ok s
  | found => .error (.invalidType found "a variant")

def Json.entries : Json → List (String × Json)
  | .object entries => entries
  | _ => []

def insertEntry (entries : List (String × Json)) (name : String) (value : Json) :
    List (String × Json) :=
  entries.filter (fun entry => entry.1 ≠ name) ++ [(name, value)]

theorem lastOf_insertEntry (entries name value name') :
    lastOf (insertEntry entries name value) name' =
      if name' = name then some value else lastOf entries name' := by
  rw [lastOf, insertEntry, List.reverse_append, List.reverse_singleton, List.singleton_append,
    List.find?_cons]
  by_cases h : name' = name
  · simp [h]
  · have hne : ¬name = name' := fun heq => h heq.symm
    simp only [hne, decide_false, if_neg h, ← List.filter_reverse, List.find?_filter, lastOf]
    congr 2
    funext entry
    by_cases hentry : entry.1 = name'
    · simp [hentry, h]
    · simp [hentry]

end NgGateway.JsonDocuments
