import NgGateway.JsonDocuments
import NgGateway.ValueCasts

namespace NgGateway.NGValueJson

open JsonDocuments Value ValueCasts

def hexEncode (bytes : List UInt8) : String :=
  String.ofList (bytes.flatMap fun b =>
    [Nat.digitChar (b.toNat / 16), Nat.digitChar (b.toNat % 16)])

def isFiniteF32 (bits : UInt32) : Bool :=
  bits >>> 23 &&& 0xFF ≠ 0xFF

def isFiniteF64 (bits : UInt64) : Bool :=
  bits >>> 52 &&& 0x7FF ≠ 0x7FF

/-- The document that a value's text reads as; `readF32` is the `f64` of the shortest text of an
`f32`. -/
def serialize (readF32 : UInt32 → UInt64) : NGValue → Json
  | .boolean v => .bool v
  | .int8 v => .number (.ofInt64 v.toInt64)
  | .uint8 v => .number (.posInt v.toUInt64)
  | .int16 v => .number (.ofInt64 v.toInt64)
  | .uint16 v => .number (.posInt v.toUInt64)
  | .int32 v => .number (.ofInt64 v.toInt64)
  | .uint32 v => .number (.posInt v.toUInt64)
  | .int64 v => .number (.ofInt64 v)
  | .uint64 v => .number (.posInt v)
  | .float32 bits => if isFiniteF32 bits then .number (.float (readF32 bits)) else .null
  | .float64 bits => if isFiniteF64 bits then .number (.float bits) else .null
  | .string s => .string s
  | .binary bytes => .string (hexEncode bytes)
  | .timestamp ms => .number (.ofInt64 ms)

def deserialize : Json → Except ReadError NGValue
  | .bool b => .ok (.boolean b)
  | .number n =>
    match n.asI64 with
    | some i => .ok (.int64 i)
    | none =>
      match n.asU64 with
      | some u => .ok (.uint64 u)
      | none =>
        match n.float? with
        | some f => .ok (.float64 f)
        | none => .error (.custom "invalid JSON number")
  | .string s => .ok (.string s)
  | .null => .error (.custom "null cannot be converted to NGValue")
  | .array _ | .object _ =>
    .error (.custom "array/object cannot be converted to NGValue without type information")

def number? : NGValue → Option Int
  | .boolean _ => none
  | v => integerOf? v

variable {v : NGValue}

variable (readF32 : UInt32 → UInt64)

theorem serialize_of_number (h : number? v = some n) :
    ∃ number, serialize readF32 v = .number number ∧ number.integer? = some n := by
  cases v with
  | int8 v =>
    cases h
    exact ⟨_, rfl, by rw [integer?_ofInt64, Int8.toInt_toInt64]⟩
  | uint8 v =>
    cases h
    exact ⟨_, rfl, by rw [JsonNumber.integer?, UInt8.toNat_toUInt64]⟩
  | int16 v =>
    cases h
    exact ⟨_, rfl, by rw [integer?_ofInt64, Int16.toInt_toInt64]⟩
  | uint16 v =>
    cases h
    exact ⟨_, rfl, by rw [JsonNumber.integer?, UInt16.toNat_toUInt64]⟩
  | int32 v =>
    cases h
    exact ⟨_, rfl, by rw [integer?_ofInt64, Int32.toInt_toInt64]⟩
  | uint32 v =>
    cases h
    exact ⟨_, rfl, by rw [JsonNumber.integer?, UInt32.toNat_toUInt64]⟩
  | int64 v | timestamp v =>
    cases h
    exact ⟨_, rfl, integer?_ofInt64 v⟩
  | uint64 v =>
    cases h
    exact ⟨_, rfl, rfl⟩
  | boolean _ | float32 _ | float64 _ | string _ | binary _ => cases h

theorem deserialize_of_number (h : number? v = some n) :
    ∃ u, deserialize (serialize readF32 v) = .ok u ∧ integerOf? u = some n ∧
      u.dataType = if n ≤ 9223372036854775807 then .int64 else .uint64 := by
  obtain ⟨number, hjson, hn⟩ := serialize_of_number readF32 h
  rw [hjson, deserialize]
  by_cases hle : n ≤ 9223372036854775807
  · obtain ⟨i, hi, rfl⟩ := asI64_of_integer? hn hle
    rw [hi, if_pos hle]
    exact ⟨_, rfl, rfl, rfl⟩
  · obtain ⟨hnone, u, hu, rfl⟩ := asI64_eq_none hn (by omega)
    rw [hnone, hu, if_neg hle]
    exact ⟨_, rfl, rfl, rfl⟩

def SurvivesJson : NGValue → Prop
  | .boolean _ | .int64 _ | .string _ => True
  | .uint64 n => 9223372036854775807 < n.toNat
  | _ => False

def isFloat : DataType → Bool
  | .float32 | .float64 => true
  | _ => false

theorem number_changes_type (h : number? v = some n) (hsigned : v.dataType ≠ .int64)
    (hunsig : v.dataType ≠ .uint64) :
    ∃ u, deserialize (serialize readF32 v) = .ok u ∧ u.dataType ≠ v.dataType := by
  obtain ⟨u, hu, -, htype⟩ := deserialize_of_number readF32 h
  refine ⟨u, hu, fun heq => ?_⟩
  rw [heq] at htype
  split_ifs at htype
  · exact hsigned htype
  · exact hunsig htype

theorem exists_deserialize (hfloat : isFloat v.dataType = false) :
    ∃ u, deserialize (serialize readF32 v) = .ok u ∧ (SurvivesJson v → u = v) ∧
      (u.dataType = v.dataType → SurvivesJson v) := by
  have hnarrow : ∀ n, number? v = some n → v.dataType ≠ .int64 → v.dataType ≠ .uint64 →
      ¬SurvivesJson v → ∃ u, deserialize (serialize readF32 v) = .ok u ∧
        (SurvivesJson v → u = v) ∧ (u.dataType = v.dataType → SurvivesJson v) := by
    intro n hn hsigned hunsig hlost
    obtain ⟨u, hu, hne⟩ := number_changes_type readF32 hn hsigned hunsig
    exact ⟨u, hu, fun h => absurd h hlost, fun h => absurd h hne⟩
  cases v with
  | boolean b | string s => exact ⟨_, rfl, fun _ => rfl, fun _ => trivial⟩
  | binary bytes => exact ⟨_, rfl, False.elim, fun h => by cases h⟩
  | int64 m =>
    obtain ⟨u, hu, hn, htype⟩ := deserialize_of_number readF32 (v := .int64 m) rfl
    rw [if_pos (Int.lt_add_one_iff.mp m.toInt_lt)] at htype
    exact ⟨u, hu, fun _ => eq_of_integerOf? hn rfl htype, fun _ => trivial⟩
  | uint64 m =>
    obtain ⟨u, hu, hn, htype⟩ := deserialize_of_number readF32 (v := .uint64 m) rfl
    refine ⟨u, hu, fun h => ?_, fun h => ?_⟩
    · rw [if_neg (by change 9223372036854775807 < m.toNat at h; omega)] at htype
      exact eq_of_integerOf? hn rfl htype
    · rw [h] at htype
      split_ifs at htype with hle
      · cases htype
      · change 9223372036854775807 < m.toNat
        omega
  | int8 _ | uint8 _ | int16 _ | uint16 _ | int32 _ | uint32 _ | timestamp _ =>
    exact hnarrow _ rfl (by simp [NGValue.dataType]) (by simp [NGValue.dataType]) id
  | float32 _ | float64 _ => cases hfloat

end NgGateway.NGValueJson
