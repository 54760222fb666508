import NgGateway.OpcUaCoerce
import NgGateway.ResolveWrite

namespace NgGateway.IntegerMapping

open DownlinkCodec OpcUaCoerce Value ValueCasts ValueCodec
open ResolveWrite (sampleCodec)

variable {target : IntegerType}

theorem denotes_of_bounded {box : Int → NGValue}
    (hbox : ∀ {n}, target.lo ≤ n → n ≤ target.hi → integerOf? (box n) = some n)
    (htype : ∀ n, (box n).dataType = dataType)
    (h : (if target.lo ≤ n ∧ n ≤ target.hi then some (box n) else none) = some l) :
    l.dataType = dataType ∧ integerOf? l = some n := by
  obtain ⟨hrange, hl⟩ := Option.ite_none_right_eq_some.mp h
  cases hl
  exact ⟨htype n, hbox hrange.1 hrange.2⟩

theorem denotes_of_boxInteger (htarget : integerType? dataType = some target)
    (h : boxInteger ops n bits dataType = some l) :
    l.dataType = dataType ∧ integerOf? l = some n := by
  cases dataType with
  | int8 => exact denotes_of_bounded integerOf?_int8 (fun _ => rfl) h
  | uint8 => exact denotes_of_bounded integerOf?_uint8 (fun _ => rfl) h
  | int16 => exact denotes_of_bounded integerOf?_int16 (fun _ => rfl) h
  | uint16 => exact denotes_of_bounded integerOf?_uint16 (fun _ => rfl) h
  | int32 => exact denotes_of_bounded integerOf?_int32 (fun _ => rfl) h
  | uint32 => exact denotes_of_bounded integerOf?_uint32 (fun _ => rfl) h
  | int64 => exact denotes_of_bounded integerOf?_int64 (fun _ => rfl) h
  | uint64 => exact denotes_of_bounded integerOf?_uint64 (fun _ => rfl) h
  | _ => cases htarget

theorem exists_boxInteger (ops : FloatOps) (bits : Nat)
    (htarget : integerType? dataType = some target) (hrange : target.lo ≤ n ∧ n ≤ target.hi) :
    ∃ l, boxInteger ops n bits dataType = some l := by
  cases dataType with
  | int8 | uint8 | int16 | uint16 | int32 | uint32 | int64 | uint64 =>
    cases htarget
    exact ⟨_, if_pos hrange⟩
  | _ => cases htarget

theorem inRange_of_integerOf? (htarget : integerType? v.dataType = some target)
    (hv : integerOf? v = some n) : target.lo ≤ n ∧ n ≤ target.hi := by
  cases v with
  | int8 v | int16 v | int32 v | int64 v =>
    cases htarget
    cases hv
    exact ⟨v.le_toInt, Int.lt_add_one_iff.mp v.toInt_lt⟩
  | uint8 v | uint16 v | uint32 v | uint64 v =>
    cases htarget
    cases hv
    exact ⟨Int.natCast_nonneg _, Int.ofNat_le.mpr (Nat.le_of_lt_succ v.toNat_lt)⟩
  | _ => cases htarget

theorem numericIdentity_of_denotes (hl : integerOf? l = some n) (hv : integerOf? v = some n)
    (hne : l.dataType ≠ v.dataType) (htarget : integerType? v.dataType = some target) :
    numericIdentityLogicalToWire rt l l.dataType v.dataType = .ok v := by
  obtain ⟨hlo, hhi⟩ := inRange_of_integerOf? htarget hv
  unfold numericIdentityLogicalToWire
  rw [if_neg hne]
  cases v with
  | int8 v | int16 v | int32 v | int64 v =>
    cases htarget
    cases hv
    exact congrArg (castTo · _ _ _) (map_castInteger hl hlo hhi v.ofInt_toInt)
  | uint8 v | uint16 v | uint32 v | uint64 v =>
    cases htarget
    cases hv
    exact congrArg (castTo · _ _ _) (map_castInteger hl hlo hhi v.ofNat_toNat)
  | _ => cases htarget

theorem isNumeric_of_integerType? (h : integerType? dataType = some target) :
    isNumeric dataType := by
  cases dataType with
  | boolean | string | binary | timestamp => cases h
  | _ => rfl

/-- Without a transform, an integer keeps its number on the way up and comes back, and is refused
exactly if the logical type lacks its number. -/
theorem wireToLogicalValue_exact (rt : CodecRuntime) (t : Transform) (v : NGValue) (n : Int)
    (logicalDt : DataType) (wire logical : IntegerType) (ht : t.isIdentityNumeric)
    (hwire : integerType? v.dataType = some wire) (hlogical : integerType? logicalDt = some logical)
    (hv : integerOf? v = some n) :
    (∀ l, wireToLogicalValue rt v v.dataType logicalDt t = .ok l →
      l.dataType = logicalDt ∧ integerOf? l = some n ∧
        logicalToWireValue rt l logicalDt v.dataType t = .ok v) ∧
      (¬(logical.lo ≤ n ∧ n ≤ logical.hi) →
        ∃ e, wireToLogicalValue rt v v.dataType logicalDt t = .error e) ∧
      (logical.lo ≤ n ∧ n ≤ logical.hi →
        ∃ l, wireToLogicalValue rt v v.dataType logicalDt t = .ok l) := by
  have hnum := isNumeric_of_integerType? hwire
  have hnum' := isNumeric_of_integerType? hlogical
  have hdenotes : ∀ l, wireToLogicalValue rt v v.dataType logicalDt t = .ok l →
      l.dataType = logicalDt ∧ integerOf? l = some n := by
    intro l hl
    by_cases hsame : v.dataType = logicalDt
    · rw [← hsame, wireToLogicalValue_self ht] at hl
      cases hl
      exact ⟨hsame, hv⟩
    · obtain ⟨bits, hiff⟩ := wireToLogicalValue_eq_ok_iff ht hsame hv hnum' hnum
      exact denotes_of_boxInteger hlogical ((hiff l).mp hl)
  refine ⟨?_, ?_, fun hrange => ?_⟩
  · intro l hl
    obtain ⟨rfl, hn⟩ := hdenotes l hl
    refine ⟨rfl, hn, ?_⟩
    rw [logicalToWireValue, if_neg (by simp [validateDatatype])]
    by_cases hsame : l.dataType = v.dataType
    · rw [if_pos ⟨hsame, ht⟩, eq_of_integerOf? hn hv hsame]
    · rw [if_neg fun h => hsame h.1, if_neg (by simp [hnum, hnum']), if_pos ht]
      exact numericIdentity_of_denotes hn hv hsame hwire
  · intro hout
    cases hl : wireToLogicalValue rt v v.dataType logicalDt t with
    | error e => exact ⟨e, rfl⟩
    | ok l =>
      obtain ⟨rfl, hn⟩ := hdenotes l hl
      exact absurd (inRange_of_integerOf? hlogical hn) hout
  · by_cases hsame : v.dataType = logicalDt
    · rw [← hsame]
      exact ⟨v, wireToLogicalValue_self ht⟩
    · obtain ⟨bits, hiff⟩ := wireToLogicalValue_eq_ok_iff ht hsame hv hnum' hnum
      obtain ⟨l, hl⟩ := exists_boxInteger rt.ops bits hlogical hrange
      exact ⟨l, (hiff l).mpr hl⟩

/-- The greatest `Int64` is refused for an `Int32`, and 7 arrives. -/
theorem wireToLogicalValue_int64 :
    (∃ e, wireToLogicalValue sampleCodec (.int64 9223372036854775807) .int64 .int32 .default =
        .error e) ∧
      ∃ l, wireToLogicalValue sampleCodec (.int64 7) .int64 .int32 .default = .ok l ∧
        integerOf? l = some 7 := by
  have hexact (v : Int64) := wireToLogicalValue_exact sampleCodec .default (.int64 v) v.toInt .int32
    _ _ rfl rfl rfl rfl
  obtain ⟨l, hl⟩ := (hexact 7).2.2 (by decide)
  exact ⟨(hexact 9223372036854775807).2.1 (by decide), l, hl, ((hexact 7).1 l hl).2.1⟩

end NgGateway.IntegerMapping
