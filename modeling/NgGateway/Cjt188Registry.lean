import NgGateway.Cjt188Frames

namespace NgGateway.Cjt188Registry

open Cjt188Frames List
open DataIdentifier (ofU16)

structure DISchemaKey where
  di : UInt16
  meterFamily : MeterTypeFamily

def diRange (base count : Nat) : List UInt16 :=
  (List.range count).map fun x => UInt16.ofNat (base + x)

def registerWaterGasSchemas : List DISchemaKey :=
  [⟨0x901F, .water⟩, ⟨0x901F, .gas⟩] ++
    (diRange 0xD120 12 ++ diRange 0xD200 256 ++ diRange 0xD300 256 ++ diRange 0xD400 256).flatMap
      fun di => [⟨di, .water⟩, ⟨di, .gas⟩]

def registerHeatSchemas : List DISchemaKey :=
  [⟨0x901F, .heat⟩, ⟨0x911F, .heat⟩] ++
    (diRange 0xD120 12 ++ diRange 0xD200 256).map fun di => ⟨di, .heat⟩

def registerCommonSchemas : List DISchemaKey :=
  [MeterTypeFamily.water, .heat, .gas, .custom].flatMap fun family =>
    [⟨0x907F, family⟩, ⟨0x8102, family⟩, ⟨0x8103, family⟩, ⟨0x8104, family⟩, ⟨0x8105, family⟩]

/-- The keys of `DI_SCHEMA_REGISTRY`. -/
def diSchemaRegistry : List DISchemaKey :=
  registerWaterGasSchemas ++ registerHeatSchemas ++ registerCommonSchemas

def Registered (di : UInt16) : Prop := ∃ key ∈ diSchemaRegistry, key.di = di

variable {di : UInt16}

theorem bounds_of_mem_diRange {base count : Nat} (hfits : base + count ≤ 65536)
    (h : di ∈ diRange base count) : base ≤ di.toNat ∧ di.toNat < base + count := by
  obtain ⟨x, hx, rfl⟩ := mem_map.mp h
  have hlt := mem_range.mp hx
  rw [UInt16.toNat_ofNat']
  omega

theorem bounds_of_registered (h : Registered di) :
    (di = 0x901F ∨ di = 0x907F) ∨ di.toNat = 0x911F ∨ (0x8102 ≤ di.toNat ∧ di.toNat ≤ 0x8105) ∨
      0xD120 ≤ di.toNat ∧ di.toNat ≤ 0xD4FF := by
  obtain ⟨key, hkey, rfl⟩ := h
  have hranges : ∀ di ∈ diRange 0xD120 12 ++ diRange 0xD200 256 ++ diRange 0xD300 256 ++
      diRange 0xD400 256, 0xD120 ≤ di.toNat ∧ di.toNat ≤ 0xD4FF := by
    intro di hdi
    simp only [mem_append] at hdi
    rcases hdi with ((hdi | hdi) | hdi) | hdi
    all_goals
      have hbnd := bounds_of_mem_diRange (by omega) hdi
      omega
  simp only [diSchemaRegistry, registerWaterGasSchemas, registerHeatSchemas, mem_append,
    mem_flatMap, mem_map] at hkey
  rcases hkey with ((hkey | ⟨di, hdi, hkey⟩) | hkey | ⟨di, hdi, rfl⟩) | hkey
  · left
    left
    simp only [mem_cons, not_mem_nil, or_false] at hkey
    rcases hkey with rfl | rfl
    · rfl
    · rfl
  · have hbnd := hranges di (by simpa only [mem_append] using hdi)
    simp only [mem_cons, not_mem_nil, or_false] at hkey
    rcases hkey with rfl | rfl
    · exact .inr (.inr (.inr hbnd))
    · exact .inr (.inr (.inr hbnd))
  · simp only [mem_cons, not_mem_nil, or_false] at hkey
    rcases hkey with rfl | rfl
    · exact .inl (.inl rfl)
    · exact .inr (.inl rfl)
  · right
    right
    right
    apply hranges di
    simp only [mem_append]
    exact .inl (.inl hdi)
  · simp only [registerCommonSchemas, mem_flatMap, mem_cons, not_mem_nil,
      or_false] at hkey
    obtain ⟨family, -, rfl | rfl | rfl | rfl | rfl⟩ := hkey
    · exact .inl (.inr rfl)
    all_goals
      right
      right
      left
      dsimp only
      decide

theorem ofU16_eq_unknown (h : di.toNat = 0x911F ∨
    (0x8102 ≤ di.toNat ∧ di.toNat ≤ 0x8105) ∨ 0xD120 ≤ di.toNat ∧ di.toNat ≤ 0xD4FF) :
    ofU16 di = .unknown := by
  unfold ofU16
  split
  case h_24 => rfl
  all_goals exact absurd h (by decide)

theorem toU16_ofU16_of_registered (h : Registered di) :
    (ofU16 di).toU16 = if di = 0x901F ∨ di = 0x907F then di else 0xFFFF := by
  rcases bounds_of_registered h with hnamed | hother
  · rcases hnamed with rfl | rfl
    · rfl
    · rfl
  · rw [ofU16_eq_unknown hother, if_neg]
    · rfl
    · rintro (rfl | rfl)
      · exact absurd hother (by decide)
      · exact absurd hother (by decide)

theorem ne_unknown_of_registered (h : Registered di) : di ≠ 0xFFFF := by
  rintro rfl
  exact absurd (bounds_of_registered h) (by decide)

section

variable (version : Cjt188Version) (meterType : MeterType) (address : Cjt188Address)

def readRequest (serial : UInt8) (di : UInt16) : Except ProtocolError (List UInt8) :=
  (buildReadDataFrame meterType address (DataIdentifier.ofU16 di) serial).encodeTo version

def carriedIdentifier (bytes : List UInt8) : Option UInt16 :=
  match bytes.drop 11 with
  | first :: second :: _ => some (getDi version first second)
  | _ => none

def Carries (serial : UInt8) (di : UInt16) : Prop :=
  ∃ bytes, readRequest version meterType address serial di = .ok bytes ∧
    carriedIdentifier version bytes = some di

def requestHead (serial : UInt8) (wireDi : UInt16) : List UInt8 :=
  [0x68, meterType.code] ++ address.bytes ++ [0x01, 0x03] ++ (putDi version wireDi ++ [serial])

theorem readRequest_eq (serial di) :
    readRequest version meterType address serial di =
      .ok (requestHead version meterType address serial (ofU16 di).toU16 ++
        [checksum (requestHead version meterType address serial (ofU16 di).toU16), 0x16]) := by
  have hlen : (putDi version (ofU16 di).toU16 ++ [serial]).length = 3 := by
    cases version with
    | v2004 | v2018 => rfl
  have hhead :
      (buildReadDataFrame meterType address (ofU16 di) serial).head version =
        requestHead version meterType address serial (ofU16 di).toU16 := by
    simp only [Cjt188TypedFrame.head, buildReadDataFrame, Cjt188Body.encodeTo, hlen]
    rfl
  rw [readRequest, Cjt188TypedFrame.encodeTo, if_neg, hhead]
  simp only [buildReadDataFrame, Cjt188Body.encodeTo, hlen]
  decide

theorem carriedIdentifier_requestHead (serial wireDi rest) :
    carriedIdentifier version (requestHead version meterType address serial wireDi ++ rest) =
      some wireDi := by
  obtain ⟨first, second, hput, hget⟩ := getDi_putDi version wireDi
  have hdrop : (requestHead version meterType address serial wireDi ++ rest).drop 11 =
      first :: second :: serial :: rest := by
    have hsize : ([0x68, meterType.code] ++ address.bytes ++ [0x01, 0x03]).length = 11 := by
      simp [address.size]
    rw [requestHead, hput, append_assoc, ← hsize, drop_left]
    rfl
  simp only [carriedIdentifier, hdrop, hget]

theorem carries_iff (serial di) :
    Carries version meterType address serial di ↔ (ofU16 di).toU16 = di := by
  constructor
  · rintro ⟨bytes, hreq, hcarried⟩
    rw [readRequest_eq, Except.ok.injEq] at hreq
    rw [← hreq, carriedIdentifier_requestHead] at hcarried
    exact Option.some.inj hcarried
  · intro hsame
    refine ⟨_, readRequest_eq version meterType address serial di, ?_⟩
    rw [carriedIdentifier_requestHead, hsame]

theorem readRequest_eq_iff (serial di other) :
    readRequest version meterType address serial other =
        readRequest version meterType address serial di ↔
      (ofU16 other).toU16 = (ofU16 di).toU16 := by
  rw [readRequest_eq, readRequest_eq, Except.ok.injEq]
  constructor
  · intro hsame
    have hcarried := congrArg (carriedIdentifier version) hsame
    rw [carriedIdentifier_requestHead, carriedIdentifier_requestHead] at hcarried
    exact Option.some.inj hcarried
  · intro hsame
    rw [hsame]

/-- A request carries a registered identifier exactly when it is one of the two with a name. -/
theorem carries_iff_named {di : UInt16} (hdi : Registered di) (serial : UInt8) :
    (Carries version meterType address serial di ↔ di = 0x901F ∨ di = 0x907F) ∧
      ∀ other, Registered other →
        (readRequest version meterType address serial other =
            readRequest version meterType address serial di ↔
          other = di ∨ ¬(di = 0x901F ∨ di = 0x907F) ∧ ¬(other = 0x901F ∨ other = 0x907F)) := by
  have hwire := toU16_ofU16_of_registered hdi
  constructor
  · rw [carries_iff, hwire]
    split_ifs with hnamed
    · exact iff_of_true rfl hnamed
    · exact iff_of_false (ne_unknown_of_registered hdi).symm hnamed
  · intro other hother
    have hne := ne_unknown_of_registered hdi
    have hne' := ne_unknown_of_registered hother
    rw [readRequest_eq_iff, hwire, toU16_ofU16_of_registered hother]
    by_cases hnamed : di = 0x901F ∨ di = 0x907F
    · rw [if_pos hnamed]
      by_cases hnamed' : other = 0x901F ∨ other = 0x907F
      · rw [if_pos hnamed']
        constructor
        · exact .inl
        · rintro (hsame | ⟨hunnamed, -⟩)
          · exact hsame
          · exact absurd hnamed hunnamed
      · rw [if_neg hnamed']
        refine iff_of_false (fun h => hne h.symm) ?_
        rintro (rfl | ⟨hunnamed, -⟩)
        · exact hnamed' hnamed
        · exact hunnamed hnamed
    · rw [if_neg hnamed]
      by_cases hnamed' : other = 0x901F ∨ other = 0x907F
      · rw [if_pos hnamed']
        refine iff_of_false hne' ?_
        rintro (rfl | ⟨-, hunnamed⟩)
        · exact hnamed hnamed'
        · exact hunnamed hnamed'
      · rw [if_neg hnamed']
        exact iff_of_true rfl (.inr ⟨hnamed, hnamed'⟩)

end

def waterMeter : Cjt188Address := .low 1

theorem registered_of_mem (h : key ∈ registerWaterGasSchemas) :
    Registered key.di :=
  ⟨key, mem_append_left _ (mem_append_left _ h), rfl⟩

theorem registered_month (h : x < 12) : Registered (UInt16.ofNat (0xD120 + x)) := by
  have hmem : UInt16.ofNat (0xD120 + x) ∈ diRange 0xD120 12 := mem_map.mpr ⟨x, mem_range.mpr h, rfl⟩
  refine @registered_of_mem ⟨UInt16.ofNat (0xD120 + x), .water⟩ ?_
  refine mem_append_right _ (mem_flatMap.mpr ⟨_, ?_, mem_cons_self⟩)
  exact mem_append_left _ (mem_append_left _ (mem_append_left _ hmem))

theorem carries_full_reading : Registered 0x901F ∧ Carries .v2004 ⟨0x10⟩ waterMeter 0 0x901F := by
  have hreg : Registered 0x901F := @registered_of_mem ⟨0x901F, .water⟩ mem_cons_self
  exact ⟨hreg, (carries_iff_named .v2004 ⟨0x10⟩ waterMeter hreg 0).1.mpr (.inl rfl)⟩

/-- The requests for two months of history are the same frame, with identifier FFFF. -/
theorem readRequest_history_same : Registered 0xD120 ∧ Registered 0xD121 ∧
    readRequest .v2004 ⟨0x10⟩ waterMeter 0 0xD120 = readRequest .v2004 ⟨0x10⟩ waterMeter 0 0xD121 ∧
    ¬Carries .v2004 ⟨0x10⟩ waterMeter 0 0xD120 := by
  have hfirst : Registered 0xD120 := registered_month (x := 0) (by decide)
  have hsnd : Registered 0xD121 := registered_month (x := 1) (by decide)
  refine ⟨hfirst, hsnd, rfl, ?_⟩
  rintro ⟨bytes, ⟨⟩, hcarried⟩
  exact absurd hcarried (by decide)

end NgGateway.Cjt188Registry
