import NgGateway.Iec104Asdu

namespace NgGateway.Iec104AsduPanics

open ByteReaders CheckedArith Iec104Asdu List Nat

def Panics {β : Type} (x : Except Fault β) : Prop := ∃ p, x = .error (.panic p)

variable {bytes : List UInt8} {ioa : InfoObjAddr} {β γ : Type}

theorem panics_error_iff (fault) :
    Panics (.error fault : Except Fault β) ↔ Panics (.error fault : Except Fault γ) := by
  constructor
  · rintro ⟨p, ⟨⟩⟩
    exact ⟨p, rfl⟩
  · rintro ⟨p, ⟨⟩⟩
    exact ⟨p, rfl⟩

theorem not_panics_ok (b) : ¬Panics (.ok b : Except Fault β) := by
  rintro ⟨p, ⟨⟩⟩

theorem panics_map (f : β → γ) (x) : Panics (x.map f) ↔ Panics x := by
  rcases x with fault | b
  · exact panics_error_iff fault
  · exact iff_of_false (not_panics_ok _) (not_panics_ok _)

theorem not_panics_err (e) : ¬Panics (.error (.err e) : Except Fault β) := by
  rintro ⟨p, hp⟩
  cases hp

variable {tag : TimeTag}

section

def ReadableMinutes (lo hi min : UInt8) : Prop :=
  (min &&& 0x3f).toNat < 60 ∧ (lo.toNat + 256 * hi.toNat) / 1000 < 60

def ReadableTag : TimeTag → List UInt8 → Prop
  | .cp24, [lo, hi, min] => min &&& 0x80 ≠ 0 ∨ ReadableMinutes lo hi min
  | .cp56, [lo, hi, min, hour, day, month, year] =>
    min &&& 0x80 ≠ 0 ∨
      ValidDate (2000 + (year &&& 0x7f).toNat) (month &&& 0x0f).toNat (day &&& 0x1f).toNat ∧
        (hour &&& 0x1f).toNat < 24 ∧ ReadableMinutes lo hi min
  | _, _ => True

variable {D : Type}

theorem run_tagMinutes (time : Nat → Nat → Option D) (lo hi min : UInt8) (rest) :
    (let tag := tagMinutes (UInt16.ofNat (lo.toNat + 256 * hi.toNat)) min
      if tag.invalid then pure none else unwrap (time tag.min tag.sec)).run rest =
      if min &&& 0x80 ≠ 0 then .ok (none, rest)
      else (unwrap (time (min &&& 0x3f).toNat ((lo.toNat + 256 * hi.toNat) / 1000))).run rest := by
  have hlo := lo.toNat_lt
  have hhi := hi.toNat_lt
  dsimp only [tagMinutes]
  rw [UInt16.toNat_ofNat', mod_eq_of_lt (by omega)]
  simp only [decide_eq_true_eq]
  split
  · rfl
  · rfl

theorem readTimeTag_short (env : Env D) (index)
    (h : bytes.length < tag.size) : (readTimeTag env index tag).run bytes = .ok (none, bytes) := by
  cases tag with
  | untimed => exact absurd h (not_lt_zero _)
  | cp24 =>
    have h : bytes.length < 3 := h
    rw [readTimeTag, decodeCp24time2a, get_bind_run, if_pos h]
    rfl
  | cp56 =>
    have h : bytes.length < 7 := h
    rw [readTimeTag, decodeCp56time2a, get_bind_run, if_pos h]
    rfl

def TagOutcome (tag : TimeTag) (bytes : List UInt8) (x : Except Fault (Option D × List UInt8)) :
    Prop :=
  (ReadableTag tag (bytes.take tag.size) ∧ ∃ time, x = .ok (time, bytes.drop tag.size)) ∨
    (¬ReadableTag tag (bytes.take tag.size) ∧ x = .error (.panic .unwrapNone))

theorem tagOutcome_ite [Decidable invalid]
    (hreadable : ReadableTag tag (bytes.take tag.size) ↔ invalid ∨ time.isSome) :
    TagOutcome tag bytes (if invalid then .ok (none, bytes.drop tag.size)
      else (unwrap time).run (bytes.drop tag.size)) := by
  split
  · rename_i hinvalid
    exact .inl ⟨hreadable.mpr (.inl hinvalid), none, rfl⟩
  · rename_i hmarked
    cases time with
    | none => exact .inr ⟨by simp [hreadable, hmarked], rfl⟩
    | some d => exact .inl ⟨hreadable.mpr (.inr rfl), some d, rfl⟩

theorem decodeCp24time2a_cons (chrono : Chrono D) (now lo hi min rest) :
    (decodeCp24time2a chrono now).run (lo :: hi :: min :: rest) =
      if min &&& 0x80 ≠ 0 then .ok (none, rest)
      else (unwrap (chrono.withYmdAndHms now.year now.month now.day now.hour (min &&& 0x3f).toNat
        ((lo.toNat + 256 * hi.toNat) / 1000))).run rest := by
  have hlong : ¬(lo :: hi :: min :: rest).length < 3 := by simp
  rw [decodeCp24time2a, get_bind_run, if_neg hlong, bind_run_of_ok (readU16_cons _ _ _ _),
    bind_run_of_ok (readU8_cons _ _ _)]
  exact run_tagMinutes (chrono.withYmdAndHms _ _ _ _) lo hi min rest

theorem decodeCp56time2a_cons (chrono : Chrono D) (lo hi min hour day month year rest) :
    (decodeCp56time2a chrono).run (lo :: hi :: min :: hour :: day :: month :: year :: rest) =
      if min &&& 0x80 ≠ 0 then .ok (none, rest)
      else (unwrap (chrono.withYmdAndHms (2000 + (year &&& 0x7f).toNat) (month &&& 0x0f).toNat
        (day &&& 0x1f).toNat (hour &&& 0x1f).toNat (min &&& 0x3f).toNat
        ((lo.toNat + 256 * hi.toNat) / 1000))).run rest := by
  have hlong : ¬(lo :: hi :: min :: hour :: day :: month :: year :: rest).length < 7 := by simp
  rw [decodeCp56time2a, get_bind_run, if_neg hlong, bind_run_of_ok (readU16_cons _ _ _ _)]
  iterate 5 rw [bind_run_of_ok (readU8_cons _ _ _)]
  exact run_tagMinutes (chrono.withYmdAndHms _ _ _ _) lo hi min rest

theorem tagOutcome_cp24 (chrono : Chrono D) (now lo hi min rest) :
    TagOutcome .cp24 (lo :: hi :: min :: rest)
      ((decodeCp24time2a chrono now).run (lo :: hi :: min :: rest)) := by
  rw [decodeCp24time2a_cons]
  apply tagOutcome_ite
  refine or_congr_right ?_
  rw [chrono.isSome_iff _ _ _ _ _ _ now.year_ge now.year_le]
  exact ⟨fun hminutes => ⟨now.validDate, now.hour_lt, hminutes⟩, fun hvalid => hvalid.2.2⟩

theorem tagOutcome_cp56 (chrono : Chrono D) (lo hi min hour day month year rest) :
    TagOutcome .cp56 (lo :: hi :: min :: hour :: day :: month :: year :: rest)
      ((decodeCp56time2a chrono).run
        (lo :: hi :: min :: hour :: day :: month :: year :: rest)) := by
  have hyear : (year &&& 0x7f).toNat < 256 := UInt8.toNat_lt _
  rw [decodeCp56time2a_cons]
  apply tagOutcome_ite
  refine or_congr_right ?_
  exact (chrono.isSome_iff _ _ _ _ _ _ (by omega) (by omega)).symm

theorem tagOutcome_readTimeTag (env : Env D) (index) (h : tag.size ≤ bytes.length) :
    TagOutcome tag bytes ((readTimeTag env index tag).run bytes) := by
  cases tag with
  | untimed => exact Or.inl ⟨trivial, none, rfl⟩
  | cp24 =>
    rcases bytes with - | ⟨lo, - | ⟨hi, - | ⟨min, rest⟩⟩⟩
    rotate_right
    · exact tagOutcome_cp24 env.chrono (env.now index) lo hi min rest
    all_goals exact absurd h (by simp [TimeTag.size])
  | cp56 =>
    rcases bytes with - | ⟨lo, - | ⟨hi, - | ⟨min, - | ⟨hour, - | ⟨day, - | ⟨month, - |
      ⟨year, rest⟩⟩⟩⟩⟩⟩⟩
    rotate_right
    · exact tagOutcome_cp56 env.chrono lo hi min hour day month year rest
    all_goals exact absurd h (by simp [TimeTag.size])

end

section

/-- The time tags of the complete objects of `header` address bytes, `size` bytes and a tag can be
read. -/
def TagsReadable (header size : Nat) (tag : TimeTag) (count : Nat) (bytes : List UInt8) : Prop :=
  ∀ k < count, (k + 1) * (header + size + tag.size) ≤ bytes.length →
    ReadableTag tag ((bytes.drop (k * (header + size + tag.size) + header + size)).take tag.size)

theorem tagsReadable_zero (header size tag bytes) : TagsReadable header size tag 0 bytes :=
  fun _ h => absurd h (not_lt_zero _)

variable {header size count : Nat}

theorem tagsReadable_of_short
    (h : bytes.length < header + size + tag.size) : TagsReadable header size tag count bytes := by
  intro k _ hcompl
  rw [succ_mul] at hcompl
  omega

theorem tagsReadable_drop_of_short (h : bytes.length < header + size + tag.size) (k) :
    TagsReadable header size tag count (bytes.drop k) := by
  apply tagsReadable_of_short
  rw [length_drop]
  omega

theorem tagsReadable_succ (h : header + size + tag.size ≤ bytes.length) :
    TagsReadable header size tag (count + 1) bytes ↔
      ReadableTag tag ((bytes.drop (header + size)).take tag.size) ∧
        TagsReadable header size tag count (bytes.drop (header + size + tag.size)) := by
  have hoffset : ∀ k, header + size + tag.size + (k * (header + size + tag.size) + header + size) =
      (k + 1) * (header + size + tag.size) + header + size := by
    intro k
    rw [succ_mul]
    omega
  constructor
  · intro hall
    constructor
    · have hfirst := hall 0 (succ_pos count) (by omega)
      rwa [zero_mul, zero_add] at hfirst
    · intro k hk hcompl
      have hnext := hall (k + 1) (succ_lt_succ hk) (by
        rw [length_drop] at hcompl
        rw [succ_mul]
        omega)
      rwa [drop_drop, hoffset]
  · rintro ⟨hfirst, hrest⟩ k hk hcompl
    rcases k with - | k
    · rwa [zero_mul, zero_add]
    · have hnext := hrest k (lt_of_succ_lt_succ hk) (by
        rw [succ_mul] at hcompl
        rw [length_drop]
        omega)
      rwa [drop_drop, hoffset] at hnext

/-- The objects of a sequence decoded from `len` bytes: those with a tag, and in what is left those
without. -/
def decodable (size tagSize len : Nat) : Nat :=
  len / (size + tagSize) + len % (size + tagSize) / size

variable {size tagSize len : Nat}

theorem decodable_of_lt (h : len < size) : decodable size tagSize len = 0 := by
  rw [decodable, div_eq_of_lt (by omega), mod_eq_of_lt (by omega), div_eq_of_lt h]

theorem decodable_untagged (hsize : 0 < size) (hle : size ≤ len) (hlt : len < size + tagSize) :
    decodable size tagSize len = decodable size tagSize (len - size) + 1 := by
  have hlt' : len - size < size + tagSize := by omega
  rw [decodable, decodable, div_eq_of_lt hlt, div_eq_of_lt hlt', mod_eq_of_lt hlt,
    mod_eq_of_lt hlt', div_eq_sub_div hsize hle]
  omega

theorem decodable_tagged (hsize : 0 < size) (hle : size + tagSize ≤ len) :
    decodable size tagSize len = decodable size tagSize (len - (size + tagSize)) + 1 := by
  rw [decodable, decodable, div_eq_sub_div (by omega) hle, mod_eq_sub_mod hle]
  omega

end

section

variable {α D : Type} {env : Env D}

inductive ObjectOutcome (size : Nat) (tag : TimeTag) (ioa : InfoObjAddr) (bytes : List UInt8) :
    Except Fault (InfoObject α D × List UInt8) → Prop
  | short (h : bytes.length < size) : ObjectOutcome size tag ioa bytes (.error eof)
  | untagged (object : InfoObject α D) (hioa : object.ioa = ioa) (hle : size ≤ bytes.length)
      (hlt : bytes.length < size + tag.size) :
      ObjectOutcome size tag ioa bytes (.ok (object, bytes.drop size))
  | tagged (object : InfoObject α D) (hioa : object.ioa = ioa)
      (hle : size + tag.size ≤ bytes.length)
      (htag : ReadableTag tag ((bytes.drop size).take tag.size)) :
      ObjectOutcome size tag ioa bytes (.ok (object, bytes.drop (size + tag.size)))
  | panic (hle : size + tag.size ≤ bytes.length)
      (htag : ¬ReadableTag tag ((bytes.drop size).take tag.size)) :
      ObjectOutcome size tag ioa bytes (.error (.panic .unwrapNone))

theorem objectOutcome_readObject (env : Env D) (htag : layout.tag typeId = some tag) (index)
    (haddr : address.run bytes = .ok (ioa, rest)) :
    ObjectOutcome (layout.size typeId) tag ioa rest
      ((readObject env layout typeId index address).run bytes) := by
  rw [readObject, bind_run_of_ok haddr]
  rcases lt_or_ge rest.length (layout.size typeId) with hshort | hfull
  · rw [bind_run_of_error ((layout.reads typeId).short rest hshort)]
    exact .short hshort
  · obtain ⟨element, helement⟩ := (layout.reads typeId).full rest hfull
    rw [bind_run_of_ok helement, htag]
    have hlen : (rest.drop (layout.size typeId)).length = rest.length - layout.size typeId :=
      length_drop
    rcases lt_or_ge rest.length (layout.size typeId + tag.size) with hlt | hge
    · have hnone := readTimeTag_short env index
        (show (rest.drop (layout.size typeId)).length < tag.size by omega)
      rw [bind_run_of_ok hnone]
      exact .untagged _ rfl hfull hlt
    · rcases tagOutcome_readTimeTag env index
        (show tag.size ≤ (rest.drop (layout.size typeId)).length by omega) with
        ⟨hreadable, time, htime⟩ | ⟨hunreadable, hpanic⟩
      · rw [drop_drop] at htime
        rw [bind_run_of_ok htime]
        exact .tagged _ rfl hge hreadable
      · rw [bind_run_of_error hpanic]
        exact .panic hge hunreadable

theorem panics_then_pure (r) (f : β → γ) (bytes) :
    Panics ((do let b ← r; pure (f b) : Reader Fault γ).run bytes) ↔ Panics (r.run bytes) := by
  rcases hr : r.run bytes with fault | ⟨b, rest⟩
  · rw [bind_run_of_error hr]
    exact panics_error_iff fault
  · rw [bind_run_of_ok hr]
    exact iff_of_false (not_panics_ok _) (not_panics_ok _)

theorem panics_separate_iff (htag : layout.tag typeId = some tag) (count index previous bytes) :
    Panics ((readObjects env layout typeId false count index previous).run bytes) ↔
      ¬TagsReadable 3 (layout.size typeId) tag count bytes := by
  induction count generalizing index previous bytes with
  | zero => exact iff_of_false (not_panics_ok _) (not_not_intro (tagsReadable_zero _ _ _ _))
  | succ count ih =>
    rw [readObjects_addressed _ _ _ _ _ (.inl rfl)]
    rcases lt_or_ge bytes.length 3 with hshort | haddr
    · have herror : (readObject env layout typeId index readInfoObjAddr).run bytes =
          .error eof := bind_run_of_error (readInfoObjAddr_short hshort)
      rw [bind_run_of_error herror]
      exact iff_of_false (not_panics_err _) (not_not_intro (tagsReadable_of_short (by omega)))
    · have houtcome := objectOutcome_readObject env htag index
        (readInfoObjAddr_full haddr)
      have hlen : (bytes.drop 3).length = bytes.length - 3 := length_drop
      generalize hobj : (readObject env layout typeId index readInfoObjAddr).run bytes = x
        at houtcome
      cases houtcome with
      | short h =>
        rw [bind_run_of_error hobj]
        exact iff_of_false (not_panics_err _) (not_not_intro (tagsReadable_of_short (by omega)))
      | untagged object hioa hle hlt =>
        rw [bind_run_of_ok hobj, panics_then_pure, ih]
        refine iff_of_false (not_not_intro ?_) (not_not_intro ?_)
        · exact tagsReadable_drop_of_short (by omega) _
        · exact tagsReadable_of_short (by omega)
      | tagged object hioa hle hreadable =>
        rw [bind_run_of_ok hobj, panics_then_pure, ih, tagsReadable_succ (by omega)]
        rw [drop_drop] at hreadable ⊢
        rw [← add_assoc]
        constructor
        · rintro hrest ⟨-, hall⟩
          exact hrest hall
        · intro hnot hrest
          exact hnot ⟨hreadable, hrest⟩
      | panic hle hunreadable =>
        rw [bind_run_of_error hobj, tagsReadable_succ (by omega)]
        rw [drop_drop] at hunreadable
        exact iff_of_true ⟨_, rfl⟩ fun hall => hunreadable hall.1

theorem nextAddr_checked_of_lt (h : ioa.addr.toNat + 1 < 65536) (bytes) :
    (nextAddr true ioa).run bytes = .ok (⟨ioa.res, ioa.addr + 1⟩, bytes) := by
  rw [nextAddr, if_pos rfl, checkedAdd16_of_lt h]
  rfl

theorem nextAddr_checked_of_le (h : 65536 ≤ ioa.addr.toNat + 1)
    (bytes) : (nextAddr true ioa).run bytes = .error (.panic .addOverflow) := by
  rw [nextAddr, if_pos rfl, checkedAdd16_of_le h]
  rfl

theorem panics_object_iff {read : Reader Fault (InfoObject α D)} {bytes after : List UInt8}
    {count index : Nat}
    (houtcome : ObjectOutcome (layout.size typeId) tag ioa after (read.run bytes))
    (hrest : ∀ ioa bytes,
      Panics ((readObjects env layout typeId true count index (some ioa)).run bytes) ↔
        ¬(TagsReadable 0 (layout.size typeId) tag count bytes ∧
          ioa.addr.toNat + min count (decodable (layout.size typeId) tag.size bytes.length + 1) <
            65536)) :
    Panics ((do
        let object ← read
        let rest ← readObjects env layout typeId true count index (some object.ioa)
        pure (object :: rest) : Reader Fault (List (InfoObject α D))).run bytes) ↔
      ¬(TagsReadable 0 (layout.size typeId) tag (count + 1) after ∧
        ioa.addr.toNat + min count (decodable (layout.size typeId) tag.size after.length) <
          65536) := by
  have hpos := layout.size_pos typeId
  have haddr := ioa.addr.toNat_lt
  generalize hobj : read.run bytes = x at houtcome
  cases houtcome with
  | short h =>
    rw [bind_run_of_error hobj, decodable_of_lt h]
    refine iff_of_false (not_panics_err _) (not_not_intro ⟨?_, by omega⟩)
    exact tagsReadable_of_short (by omega)
  | untagged object hioa hle hshort =>
    rw [bind_run_of_ok hobj, panics_then_pure]
    refine (hrest _ _).trans ?_
    rw [hioa, length_drop, decodable_untagged hpos hle hshort]
    have hlater : TagsReadable 0 (layout.size typeId) tag count
        (after.drop (layout.size typeId)) :=
      tagsReadable_drop_of_short (by omega) _
    have hall : TagsReadable 0 (layout.size typeId) tag (count + 1) after :=
      tagsReadable_of_short (by omega)
    simp [hlater, hall, true_and]
  | tagged object hioa hle hreadable =>
    rw [bind_run_of_ok hobj, panics_then_pure]
    refine (hrest _ _).trans ?_
    rw [hioa, length_drop, decodable_tagged hpos hle, tagsReadable_succ (by omega)]
    simp [zero_add, hreadable, true_and]
  | panic hle hunreadable =>
    rw [bind_run_of_error hobj, tagsReadable_succ (by omega)]
    simp only [zero_add]
    exact iff_of_true ⟨_, rfl⟩ fun hall => hunreadable hall.1.1

theorem panics_sequence_iff (hchecks : env.overflowChecks = true)
    (htag : layout.tag typeId = some tag) (count index ioa bytes) :
    Panics ((readObjects env layout typeId true count index (some ioa)).run bytes) ↔
      ¬(TagsReadable 0 (layout.size typeId) tag count bytes ∧
        ioa.addr.toNat + min count (decodable (layout.size typeId) tag.size bytes.length + 1) <
          65536) := by
  induction count generalizing index ioa bytes with
  | zero =>
    refine iff_of_false (not_panics_ok _) (not_not_intro ⟨tagsReadable_zero _ _ _ _, ?_⟩)
    have hlt := ioa.addr.toNat_lt
    omega
  | succ count ih =>
    rw [readObjects, hchecks]
    rcases lt_or_ge (ioa.addr.toNat + 1) 65536 with hlt | hge
    · have hnext : (ioa.addr + 1).toNat = ioa.addr.toNat + 1 :=
        @toNat_add16_of_lt ioa.addr 1 hlt
      have houtcome := objectOutcome_readObject env htag index (nextAddr_checked_of_lt hlt bytes)
      refine (panics_object_iff houtcome (ih (index + 1))).trans ?_
      rw [hnext, not_iff_not]
      apply and_congr_right
      intro _
      omega
    · have herror : (readObject env layout typeId index (nextAddr true ioa)).run bytes =
          .error (.panic .addOverflow) := bind_run_of_error (nextAddr_checked_of_le hge bytes)
      rw [bind_run_of_error herror]
      refine iff_of_true ⟨_, rfl⟩ ?_
      rintro ⟨-, hlt⟩
      omega

end

/-- The time tags of the complete objects can be read and, in a sequence, every address reached is
below 65536. -/
def ReadableObjects (size : Nat) (tag : TimeTag) (v : VariableStruct) (raw : List UInt8) : Prop :=
  if v.isSequence then
    TagsReadable 0 size tag v.number (raw.drop 3) ∧
      (3 ≤ raw.length → (baseAddr raw).addr.toNat +
        min (v.number - 1) (decodable size tag.size (raw.length - 3)) < 65536)
  else TagsReadable 3 size tag v.number raw

theorem readObject_mismatch {layout : Layout α} {typeId : TypeID} (htag : layout.tag typeId = none)
    (index bytes) :
    ∃ e, (readObject env layout typeId index readInfoObjAddr).run bytes = .error (.err e) := by
  rcases lt_or_ge bytes.length 3 with hshort | haddr
  · exact ⟨_, bind_run_of_error (readInfoObjAddr_short hshort)⟩
  · rw [readObject, bind_run_of_ok (readInfoObjAddr_full haddr)]
    rcases lt_or_ge (bytes.drop 3).length (layout.size typeId) with hshort | hfull
    · exact ⟨_, bind_run_of_error ((layout.reads typeId).short _ hshort)⟩
    · obtain ⟨element, helement⟩ := (layout.reads typeId).full _ hfull
      rw [bind_run_of_ok helement, htag]
      exact ⟨_, rfl⟩

theorem not_panics_mismatch (env : Env D) {layout : Layout α} (htag : layout.tag typeId = none)
    (isSeq number raw) :
    ¬Panics ((readObjects env layout typeId isSeq number 0 none).run raw) := by
  cases number with
  | zero => exact not_panics_ok _
  | succ count =>
    obtain ⟨e, he⟩ := @readObject_mismatch α D env layout typeId htag 0 raw
    rw [readObjects_addressed _ _ _ _ _ (.inr rfl), bind_run_of_error he]
    exact not_panics_err e

theorem panics_fromFirst_iff (hchecks : env.overflowChecks = true)
    (htag : layout.tag typeId = some tag) (number raw) :
    Panics ((readObjects env layout typeId true number 0 none).run raw) ↔
      ¬(TagsReadable 0 (layout.size typeId) tag number (raw.drop 3) ∧
        (3 ≤ raw.length → (baseAddr raw).addr.toNat +
          min (number - 1) (decodable (layout.size typeId) tag.size (raw.length - 3)) <
            65536)) := by
  have hbase := (baseAddr raw).addr.toNat_lt
  have hpos := layout.size_pos typeId
  have hlen : (raw.drop 3).length = raw.length - 3 := length_drop
  cases number with
  | zero =>
    refine iff_of_false (not_panics_ok _) (not_not_intro ⟨tagsReadable_zero _ _ _ _, ?_⟩)
    intro _
    omega
  | succ count =>
    rw [readObjects_addressed _ _ _ _ _ (.inr rfl)]
    rcases lt_or_ge raw.length 3 with hshort | haddr
    · have herror : (readObject env layout typeId 0 readInfoObjAddr).run raw =
          .error eof := bind_run_of_error (readInfoObjAddr_short hshort)
      rw [bind_run_of_error herror]
      refine iff_of_false (not_panics_err _) (not_not_intro ⟨?_, ?_⟩)
      · exact tagsReadable_of_short (by omega)
      · intro hfull
        omega
    · have houtcome := objectOutcome_readObject env htag 0 (readInfoObjAddr_full haddr)
      refine (panics_object_iff houtcome (panics_sequence_iff hchecks htag count 1)).trans ?_
      rw [hlen, Nat.add_sub_cancel]
      simp [haddr, forall_const]

theorem panics_getObjects_iff (hchecks : env.overflowChecks = true) (layout : Layout α) :
    Panics (getObjects env layout asdu) ↔
      ∃ tag, layout.tag asdu.identifier.typeId = some tag ∧
        ¬ReadableObjects (layout.size asdu.identifier.typeId) tag asdu.identifier.variableStruct
          asdu.raw := by
  rw [getObjects, panics_map]
  rcases htag : layout.tag asdu.identifier.typeId with - | tag
  · refine iff_of_false (not_panics_mismatch env htag _ _ _) ?_
    rintro ⟨tag, htag', -⟩
    cases htag'
  · simp only [Option.some.injEq, exists_eq_left', ReadableObjects]
    rcases hseq : asdu.identifier.variableStruct.isSequence with - | -
    · exact panics_separate_iff htag _ _ _ _
    · exact panics_fromFirst_iff hchecks htag _ _

inductive Decoder where
  | stepPosition
  | bitString
  | packedStatusChange
  | protectionEventTd
  | protectionEventTe
  | protectionEventTf
  | singlePoint
  | doublePoint
  | measuredValueNormal
  | measuredValueScaled
  | measuredValueFloat
  | integratedTotals
  | endOfInitialization

def finished {β : Type} (x : Except Fault β) : Except Fault Unit := x.map fun _ => ()

def Decoder.decode (env : Env D) (asdu : Asdu) : Decoder → Except Fault Unit
  | .stepPosition => finished (getStepPosition env asdu)
  | .bitString => finished (getBitString env asdu)
  | .packedStatusChange => finished (getPackedStatusChange env asdu)
  | .protectionEventTd => finished (getProtectionEventTd env asdu)
  | .protectionEventTe => finished (getProtectionEventTe env asdu)
  | .protectionEventTf => finished (getProtectionEventTf env asdu)
  | .singlePoint => finished (getSinglePoint env asdu)
  | .doublePoint => finished (getDoublePoint env asdu)
  | .measuredValueNormal => finished (getMeasuredValueNormal env asdu)
  | .measuredValueScaled => finished (getMeasuredValueScaled env asdu)
  | .measuredValueFloat => finished (getMeasuredValueFloat env asdu)
  | .integratedTotals => finished (getIntegratedTotals env asdu)
  | .endOfInitialization => finished (getEndOfInitialization asdu)

def shapeOf {α : Type} (layout : Layout α) (typeId : TypeID) : Option (Nat × TimeTag) :=
  (layout.tag typeId).map fun tag => (layout.size typeId, tag)

def Decoder.shape : Decoder → TypeID → Option (Nat × TimeTag)
  | .stepPosition => shapeOf stepPositionLayout
  | .bitString => shapeOf bitStringLayout
  | .packedStatusChange => shapeOf packedStatusChangeLayout
  | .protectionEventTd => shapeOf protectionEventTdLayout
  | .protectionEventTe => shapeOf protectionEventTeLayout
  | .protectionEventTf => shapeOf protectionEventTfLayout
  | .singlePoint => shapeOf singlePointLayout
  | .doublePoint => shapeOf doublePointLayout
  | .measuredValueNormal => shapeOf measuredValueNormalLayout
  | .measuredValueScaled => shapeOf measuredValueScaledLayout
  | .measuredValueFloat => shapeOf measuredValueFloatLayout
  | .integratedTotals => shapeOf integratedTotalsLayout
  | .endOfInitialization => fun _ => none

def Readable (decoder : Decoder) (asdu : Asdu) : Prop :=
  ∀ size tag, decoder.shape asdu.identifier.typeId = some (size, tag) →
    ReadableObjects size tag asdu.identifier.variableStruct asdu.raw

theorem not_panics_of_readsExactly {r : Reader Fault β} (h : ReadsExactly eof r n) (bytes) :
    ¬Panics (r.run bytes) := by
  rcases lt_or_ge bytes.length n with hshort | hfull
  · rw [h.short bytes hshort]
    exact not_panics_err _
  · obtain ⟨b, hb⟩ := h.full bytes hfull
    rw [hb]
    exact not_panics_ok _

theorem not_panics_bind {f : β → Reader Fault γ} (hr : ¬Panics (r.run bytes))
    (hf : ∀ b rest, ¬Panics ((f b).run rest)) : ¬Panics ((r >>= f).run bytes) := by
  rcases hrun : r.run bytes with fault | ⟨b, rest⟩
  · rw [hrun] at hr
    rw [bind_run_of_error hrun]
    exact mt (panics_error_iff fault).mp hr
  · rw [bind_run_of_ok hrun]
    exact hf b rest

theorem not_panics_okOr (e) (b : Option β) (bytes) : ¬Panics ((okOr e b).run bytes) := by
  rcases b with - | b
  · exact not_panics_err e
  · exact not_panics_ok _

theorem not_panics_readIdentifier (bytes) : ¬Panics (readIdentifier.run bytes) := by
  have hu8 : ∀ bytes, ¬Panics ((readU8 eof : Reader Fault UInt8).run bytes) :=
    not_panics_of_readsExactly (readsExactly_readU8 eof)
  apply not_panics_bind (hu8 _)
  intro value _
  apply not_panics_bind (not_panics_okOr _ _ _)
  intro typeId _
  apply not_panics_bind (hu8 _)
  intro variableStruct _
  apply not_panics_bind (hu8 _)
  intro cause _
  apply not_panics_bind (not_panics_okOr _ _ _)
  intro cot _
  apply not_panics_bind (hu8 _)
  intro origAddr _
  exact not_panics_of_readsExactly ((readsExactly_readU16 eof).then_pure _) _

theorem not_panics_endOfInitialization (asdu) : ¬Panics (getEndOfInitialization asdu) := by
  rw [getEndOfInitialization, panics_map]
  apply not_panics_of_readsExactly
  exact ((readsExactly_readLe eof 3).then_pure _).bind fun _ =>
    (readsExactly_readU8 eof).then_pure _

theorem panics_decode_iff (hchecks : env.overflowChecks = true) :
    Panics (decoder.decode env asdu) ↔ ¬Readable decoder asdu := by
  have hlayout : ∀ {α : Type} (layout : Layout α),
      Panics (finished (getObjects env layout asdu)) ↔
        ¬∀ size tag, shapeOf layout asdu.identifier.typeId = some (size, tag) →
          ReadableObjects size tag asdu.identifier.variableStruct asdu.raw := by
    intro α layout
    rw [finished, panics_map, panics_getObjects_iff hchecks]
    rcases htag : layout.tag asdu.identifier.typeId with - | tag
    · simp [shapeOf, htag]
    · simp [shapeOf, htag]
  cases decoder with
  | endOfInitialization =>
    rw [Decoder.decode, finished, panics_map]
    refine iff_of_false (not_panics_endOfInitialization asdu) (not_not_intro ?_)
    intro size tag hshape
    cases hshape
  | _ => exact hlayout _

def decodeBody (env : Env D) (decoder : Decoder) (body : List UInt8) : Except Fault Unit := do
  let asdu ← Asdu.tryFrom body
  decoder.decode env asdu

/-- With overflow checks, a body is decoded without a panic exactly when its header is rejected, its
type is not one of the decoder's, or its objects can be decoded. -/
theorem decodeBody_returns_iff (env : Env D) (decoder : Decoder) (body : List UInt8)
    (hchecks : env.overflowChecks = true) :
    ¬Panics (decodeBody env decoder body) ↔
      ∀ asdu, Asdu.tryFrom body = .ok asdu → Readable decoder asdu := by
  have hhdr : ¬Panics (Asdu.tryFrom body) := by
    rw [Asdu.tryFrom, panics_map]
    exact not_panics_readIdentifier body
  rcases hasdu : Asdu.tryFrom body with fault | asdu
  · rw [decodeBody, hasdu]
    rw [hasdu] at hhdr
    exact iff_of_true (mt (panics_error_iff fault).mp hhdr) nofun
  · rw [decodeBody, hasdu]
    change ¬Panics (decoder.decode env asdu) ↔ _
    rw [panics_decode_iff hchecks, not_not]
    simp [Except.ok.injEq, forall_eq']

def checkedBuild : Env Unit where
  chrono := plainChrono
  now := fun _ => leapDayNoon
  overflowChecks := true

def taggedPoint (day : UInt8) : List UInt8 :=
  [30, 0x01, 3, 0, 1, 0, 0x01, 0x00, 0x00, 0x01, 0x88, 0x13, 10, 11, day, 5, 24]

theorem decodeBody_returns_taggedPoint :
    ¬Panics (decodeBody checkedBuild .singlePoint (taggedPoint 12)) := by
  apply (decodeBody_returns_iff checkedBuild .singlePoint (taggedPoint 12) rfl).mpr
  intro asdu hasdu
  cases hasdu
  rintro _ _ ⟨⟩ k hk -
  have hk : k = 0 := lt_one_iff.mp hk
  subst hk
  exact Or.inr ⟨by decide, by decide, by decide, by decide⟩

/-- Day 0 is unwrapped, and a sequence of two objects from address 65535 on adds one to it. -/
theorem decodeBody_panics :
    decodeBody checkedBuild .singlePoint (taggedPoint 0) = .error (.panic .unwrapNone) ∧
      decodeBody checkedBuild .singlePoint [1, 0x82, 3, 0, 1, 0, 0xFF, 0xFF, 0x00, 0x01, 0x00] =
        .error (.panic .addOverflow) :=
  ⟨rfl, rfl⟩

end NgGateway.Iec104AsduPanics
