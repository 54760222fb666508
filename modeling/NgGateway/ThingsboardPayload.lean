import NgGateway.Chunking
import NgGateway.TextBytes
import NgGateway.Value

namespace NgGateway.ThingsboardPayload

open Chunking List TextBytes Value

/-- The texts `serde_json` writes for names and values, and the decimal text of a time. -/
structure JsonWriter where
  jsonStr : String → List UInt8
  ngValue : NGValue → List UInt8
  tsText : Int64 → List UInt8
  jsonStr_ts : jsonStr "ts" = utf8Bytes "\"ts\""
  jsonStr_values : jsonStr "values" = utf8Bytes "\"values\""
  length_tsText : ∀ ts, (tsText ts).length ≤ 20

abbrev Pair := String × NGValue

def comma : UInt8 := 44

def telArrayOpen : List UInt8 := utf8Bytes ":["

def telEntryOpen : List UInt8 := utf8Bytes "\x7b\"ts\":"

def telValuesOpen : List UInt8 := utf8Bytes ",\"values\":\x7b"

def telEntryClose : List UInt8 := utf8Bytes "\x7d\x7d"

def telSuffix : List UInt8 := utf8Bytes "]\x7d"

def attributesAfterDevice : List UInt8 := utf8Bytes ":\x7b"

def attributesSuffix : List UInt8 := utf8Bytes "\x7d\x7d"

def member (w : JsonWriter) (key : String) (text : List UInt8) : List UInt8 :=
  w.jsonStr key ++ 58 :: text

def JsonWriter.pair (w : JsonWriter) (p : Pair) : List UInt8 := member w p.1 (w.ngValue p.2)

def objectText (members : List (List UInt8)) : List UInt8 := 123 :: joined comma members ++ [125]

def arrayText (texts : List (List UInt8)) : List UInt8 := 91 :: joined comma texts ++ [93]

def buildDevicePrefix (w : JsonWriter) (device : String) : List UInt8 :=
  123 :: w.jsonStr device ++ telArrayOpen

def buildAttributesPrefix (w : JsonWriter) (device : String) : List UInt8 :=
  123 :: w.jsonStr device ++ attributesAfterDevice

structure AttributesChunker where
  maxPayloadBytes : Nat
  devicePrefix : List UInt8
  payload : List UInt8
  wroteAny : Bool

namespace AttributesChunker

def new (w : JsonWriter) (device : String) (maxPayloadBytes : Nat) :
    Except String AttributesChunker :=
  let maxPayloadBytes := max maxPayloadBytes 256
  let start := buildAttributesPrefix w device
  if start.length + attributesSuffix.length > maxPayloadBytes then
    .error ("communication.max_payload_bytes too small: prefix(" ++ toString start.length ++
      ")+suffix(" ++ toString attributesSuffix.length ++ ") > " ++ toString maxPayloadBytes)
  else .ok ⟨maxPayloadBytes, start, start, false⟩

def finish (c : AttributesChunker) : Option (List UInt8) :=
  if c.wroteAny then some (c.payload ++ attributesSuffix) else none

def flush (c : AttributesChunker) : AttributesChunker :=
  if c.wroteAny then { c with payload := c.devicePrefix, wroteAny := false } else c

def commaLen (c : AttributesChunker) : Nat := if c.wroteAny then 1 else 0

def append (entry : List UInt8) (c : AttributesChunker) : AttributesChunker :=
  { c with
    payload := c.payload ++ if c.wroteAny then comma :: entry else entry
    wroteAny := true }

def push (w : JsonWriter) (c : AttributesChunker) (p : Pair) :
    Option (List UInt8) × AttributesChunker :=
  let entryLen := c.commaLen + (w.pair p).length
  if c.payload.length + entryLen + attributesSuffix.length > c.maxPayloadBytes then
    -- the separator stays counted although the flushed payload holds no pair
    if c.flush.payload.length + entryLen + attributesSuffix.length > c.maxPayloadBytes then
      (c.finish, c.flush)
    else (c.finish, c.flush.append (w.pair p))
  else (none, c.append (w.pair p))

end AttributesChunker

def attributesText (w : JsonWriter) (device : String) (pairs : List Pair) : List UInt8 :=
  objectText [member w device (objectText (pairs.map w.pair))]

def IsAttributes (w : JsonWriter) (device : String) (limit : Nat) (chunk : List UInt8)
    (pairs : List Pair) : Prop :=
  chunk = attributesText w device pairs ∧ chunk.length ≤ limit

structure Collects (w : JsonWriter) (device : String) (limit : Nat) (c : AttributesChunker)
    (pairs : List Pair) : Prop where
  maxPayloadBytes : c.maxPayloadBytes = limit
  devicePrefix : c.devicePrefix = buildAttributesPrefix w device
  start : c.devicePrefix.length + 2 ≤ limit
  payload : c.payload = c.devicePrefix ++ joined comma (pairs.map w.pair)
  wroteAny : c.wroteAny = !pairs.isEmpty
  room : c.payload.length + 2 ≤ limit

section Attributes

open AttributesChunker

theorem attributesText_eq :
    attributesText w device pairs = buildAttributesPrefix w device ++
      joined comma (pairs.map w.pair) ++ attributesSuffix := by
  simp [attributesText, objectText, member, joined, buildAttributesPrefix,
    show attributesAfterDevice = [58, 123] from rfl, show attributesSuffix = [125, 125] from rfl]

theorem collects_append (h : Collects w device limit c pairs)
    (hroom : c.payload.length + (c.commaLen + (w.pair p).length) + 2 ≤ limit) :
    Collects w device limit (c.append (w.pair p)) (pairs ++ [p]) := by
  refine ⟨h.maxPayloadBytes, h.devicePrefix, h.start, ?_, by simp [append], ?_⟩
  · rw [map_append, map_singleton, joined_concat, ← append_assoc]
    simp [append, h.wroteAny, h.payload]
  · rw [commaLen] at hroom
    rw [append, length_append]
    split_ifs at hroom ⊢ with hany
    · rw [length_cons]
      omega
    · omega

theorem closes_finish (h : Collects w device limit c pairs) :
    Closes (IsAttributes w device limit) pairs c.finish := by
  rw [finish, h.wroteAny]
  cases pairs with
  | nil => rfl
  | cons p pairs =>
    refine ⟨?_, ?_⟩
    · rw [attributesText_eq, h.payload, h.devicePrefix]
    · rw [length_append]
      exact h.room

theorem collects_flush (h : Collects w device limit c pairs) :
    Collects w device limit c.flush [] := by
  rw [flush]
  split
  · exact ⟨h.maxPayloadBytes, h.devicePrefix, h.start, (append_nil _).symm, rfl, h.start⟩
  · rename_i hnone
    have hpairs : pairs = [] := by simpa [h.wroteAny] using hnone
    exact hpairs ▸ h

theorem packs_push (h : Collects w device limit c pairs) (p) :
    Packs (Collects w device limit) (IsAttributes w device limit)
      (fun p => (attributesText w device [p]).length < limit) pairs p (c.push w p) := by
  have hflush := collects_flush h
  have hstart : c.flush.payload = buildAttributesPrefix w device := by
    rw [hflush.payload, hflush.devicePrefix]
    exact append_nil _
  have hcomma : c.commaLen ≤ 1 := by
    rw [commaLen]
    split <;> decide
  have hsuffix : attributesSuffix.length = 2 := rfl
  rw [push, h.maxPayloadBytes, hsuffix]
  split
  · refine .inr ?_
    split
    · rename_i hlong
      refine ⟨closes_finish h, .inr ⟨?_, hflush⟩⟩
      rw [hstart] at hlong
      rw [decide_eq_false_iff_not, attributesText_eq, length_append, length_append,
        hsuffix, map_singleton, joined, foldl_nil]
      omega
    · refine ⟨closes_finish h, .inl (collects_append hflush ?_)⟩
      rw [commaLen, hflush.wroteAny]
      change _ + (0 + _) + 2 ≤ limit
      omega
  · exact .inl ⟨rfl, collects_append h (by omega)⟩

/-- The attributes sent; the limit is never below 256, and only a pair whose document reaches it is
left out. -/
theorem attributes_carried {w : JsonWriter} {device : String} {maxPayloadBytes : Nat}
    {c : AttributesChunker} (hnew : new w device maxPayloadBytes = .ok c) (pairs : List Pair) :
    Carries (IsAttributes w device (max maxPayloadBytes 256))
      (fun p => (attributesText w device [p]).length < max maxPayloadBytes 256)
      (chunks (push w) finish c pairs) pairs := by
  rw [new] at hnew
  split at hnew
  · cases hnew
  · rename_i hroom
    cases hnew
    have hstart : (buildAttributesPrefix w device).length + 2 ≤ max maxPayloadBytes 256 :=
      Nat.le_of_not_lt hroom
    have hopen : Collects w device (max maxPayloadBytes 256)
        ⟨max maxPayloadBytes 256, buildAttributesPrefix w device, _, false⟩ [] :=
      ⟨rfl, rfl, hstart, (append_nil _).symm, rfl, hstart⟩
    exact exists_groups (fun _ _ p h => packs_push h p) (fun _ _ h => closes_finish h) hopen pairs

def sampleWriter : JsonWriter where
  jsonStr s := utf8Bytes "\"" ++ utf8Bytes s ++ utf8Bytes "\""
  ngValue
    | .boolean true => utf8Bytes "true"
    | _ => utf8Bytes "null"
  tsText ts := (utf8Bytes (toString ts)).take 20
  jsonStr_ts := rfl
  jsonStr_values := rfl
  length_tsText _ := length_take_le _ _

def setPair (length : Nat) : Pair := (String.ofList (List.replicate length 'k'), .boolean true)

theorem attributes_carried_two :
    Carries (IsAttributes sampleWriter "d" 300)
      (fun p => (attributesText sampleWriter "d" [p]).length < 300)
      (chunks (push sampleWriter) finish
        ⟨300, buildAttributesPrefix sampleWriter "d", buildAttributesPrefix sampleWriter "d", false⟩
        [setPair 2, setPair 290]) [setPair 2, setPair 290] :=
  attributes_carried (rfl : new sampleWriter "d" 300 = .ok _) _

/-- The payload limit may be zero, and a pair of just the allowed length is left out after a flush.
-/
theorem small_limit_not_kept :
    (new sampleWriter "d" 0).toOption.map
        (chunks (push sampleWriter) finish · [setPair 1]) =
      some [utf8Bytes "\x7b\"d\":\x7b\"k\":true\x7d\x7d"] ∧
    (attributesText sampleWriter "d" [setPair 241]).length = 256 ∧
    (new sampleWriter "d" 256).toOption.map
        (chunks (push sampleWriter) finish ·
          [setPair 1, setPair 241]) =
      some [attributesText sampleWriter "d" [setPair 1]] := by
  decide +kernel

end Attributes

structure TelemetryChunker where
  maxPayloadBytes : Nat
  devicePrefix : List UInt8
  payload : List UInt8
  entryHasValues : Bool
  chunkHasEntries : Bool
  currentTs : Option Int64

abbrev Triple := Int64 × Pair

abbrev Entry := Int64 × List Pair

namespace TelemetryChunker

def new (w : JsonWriter) (device : String) (maxPayloadBytes : Nat) :
    Except String TelemetryChunker :=
  let maxPayloadBytes := max maxPayloadBytes 256
  let start := buildDevicePrefix w device
  let overhead := start.length + telEntryOpen.length + 20 + telValuesOpen.length +
    telEntryClose.length + telSuffix.length
  if overhead > maxPayloadBytes then
    .error ("communication.max_payload_bytes too small: minimum overhead (" ++ toString overhead ++
      ") > " ++ toString maxPayloadBytes)
  else .ok ⟨maxPayloadBytes, start, start, false, false, none⟩

def openEntry (w : JsonWriter) (tsMs : Int64) (c : TelemetryChunker) : TelemetryChunker :=
  { c with
    payload := c.payload ++ (if c.chunkHasEntries then [comma] else []) ++ telEntryOpen ++
      w.tsText tsMs ++ telValuesOpen
    currentTs := some tsMs
    entryHasValues := false
    chunkHasEntries := true }

def closeEntry (c : TelemetryChunker) : TelemetryChunker :=
  if c.currentTs.isSome then
    { c with payload := c.payload ++ telEntryClose, currentTs := none, entryHasValues := false }
  else c

def appendKv (entry : List UInt8) (c : TelemetryChunker) : TelemetryChunker :=
  { c with
    payload := c.payload ++ (if c.entryHasValues then [comma] else []) ++ entry
    entryHasValues := true }

def finish (c : TelemetryChunker) : Option (List UInt8) :=
  if !c.chunkHasEntries && !c.entryHasValues then none
  else some (c.closeEntry.payload ++ telSuffix)

def flushChunk (c : TelemetryChunker) : Option (List UInt8) × TelemetryChunker :=
  if !c.chunkHasEntries && !c.entryHasValues then (none, c)
  else
    (some (c.closeEntry.payload ++ telSuffix),
      { c with
        payload := c.devicePrefix
        chunkHasEntries := false
        entryHasValues := false
        currentTs := none })

def restart (w : JsonWriter) (c : TelemetryChunker) (x : Triple) :
    Option (List UInt8) × TelemetryChunker :=
  let fresh := c.flushChunk.2
  let freshTotal := telEntryOpen.length + 20 + telValuesOpen.length + (w.pair x.2).length +
    telEntryClose.length + telSuffix.length
  if fresh.payload.length + freshTotal > fresh.maxPayloadBytes then (c.flushChunk.1, fresh)
  else (c.flushChunk.1, (fresh.openEntry w x.1).appendKv (w.pair x.2))

def needsNewEntry (c : TelemetryChunker) (x : Triple) : Bool := c.currentTs != some x.1

/-- A time is given 20 bytes. -/
def totalNeeded (w : JsonWriter) (c : TelemetryChunker) (x : Triple) : Nat :=
  let newEntryOverhead :=
    if c.needsNewEntry x then
      (if c.chunkHasEntries then 1 else 0) + telEntryOpen.length + 20 + telValuesOpen.length
    else 0
  let commaKv := if !c.needsNewEntry x && c.entryHasValues then 1 else 0
  let kvLen := commaKv + (w.pair x.2).length
  let closeOverhead := telEntryClose.length + telSuffix.length
  newEntryOverhead + kvLen + closeOverhead

def place (w : JsonWriter) (c : TelemetryChunker) (x : Triple) :
    Option (List UInt8) × TelemetryChunker :=
  if c.payload.length + c.totalNeeded w x > c.maxPayloadBytes then restart w c x
  else (none, (if c.needsNewEntry x then c.openEntry w x.1 else c).appendKv (w.pair x.2))

def push (w : JsonWriter) (c : TelemetryChunker) (x : Triple) :
    Option (List UInt8) × TelemetryChunker :=
  place w (if c.needsNewEntry x && c.currentTs.isSome then c.closeEntry else c) x

end TelemetryChunker

def entryText (w : JsonWriter) (e : Entry) : List UInt8 :=
  objectText [member w "ts" (w.tsText e.1), member w "values" (objectText (e.2.map w.pair))]

def telemetryText (w : JsonWriter) (device : String) (entries : List Entry) : List UInt8 :=
  objectText [member w device (arrayText (entries.map (entryText w)))]

def triples (entries : List Entry) : List Triple :=
  entries.flatMap fun e => e.2.map (e.1, ·)

def IsTelemetry (w : JsonWriter) (device : String) (limit : Nat) (chunk : List UInt8)
    (xs : List Triple) : Prop :=
  ∃ entries, chunk = telemetryText w device entries ∧ triples entries = xs ∧ chunk.length ≤ limit

def fitsAlone (w : JsonWriter) (device : String) (limit : Nat) (x : Triple) : Bool :=
  (telemetryText w device [(x.1, [x.2])]).length + 20 ≤ limit + (w.tsText x.1).length

def openText (w : JsonWriter) (e : Entry) : List UInt8 :=
  telEntryOpen ++ w.tsText e.1 ++ telValuesOpen ++ joined comma (e.2.map w.pair)

structure Frames (w : JsonWriter) (device : String) (limit : Nat) (c : TelemetryChunker)
    (entries : List Entry) (last : Option Entry) : Prop where
  maxPayloadBytes : c.maxPayloadBytes = limit
  devicePrefix : c.devicePrefix = buildDevicePrefix w device
  start : c.devicePrefix.length + 2 ≤ limit
  payload : c.payload = c.devicePrefix ++
    joined comma (entries.map (entryText w) ++ last.toList.map (openText w))
  currentTs : c.currentTs = last.map (·.1)
  entryHasValues : c.entryHasValues = last.isSome
  chunkHasEntries : c.chunkHasEntries = (!entries.isEmpty || last.isSome)
  values : ∀ e ∈ last, e.2 ≠ []
  room : c.payload.length + (if last.isSome then 4 else 2) ≤ limit

section Telemetry

open TelemetryChunker

theorem entryText_eq : entryText w e = openText w e ++ telEntryClose := by
  simp [entryText, openText, objectText, member, joined, comma, w.jsonStr_ts, w.jsonStr_values, show
    utf8Bytes "\"ts\"" = [34, 116, 115, 34] from rfl, show utf8Bytes "\"values\"" = [34, 118, 97,
    108, 117, 101, 115, 34] from rfl, show telEntryOpen = [123, 34, 116, 115, 34, 58] from rfl, show
    telValuesOpen = [44, 34, 118, 97, 108, 117, 101, 115, 34, 58, 123] from rfl, show telEntryClose
    = [125, 125] from rfl]

theorem telemetryText_eq :
    telemetryText w device entries = buildDevicePrefix w device ++
      joined comma (entries.map (entryText w)) ++ telSuffix := by
  simp [telemetryText, objectText, arrayText, member, joined, buildDevicePrefix,
    show telArrayOpen = [58, 91] from rfl, show telSuffix = [93, 125] from rfl]

theorem frames_closeEntry (h : Frames w device limit c entries last) :
    Frames w device limit c.closeEntry (entries ++ last.toList) none := by
  rw [closeEntry, h.currentTs]
  cases last with
  | none => simpa using h
  | some e =>
    refine ⟨h.maxPayloadBytes, h.devicePrefix, h.start, ?_, rfl, rfl, ?_, by simp, ?_⟩
    · have hpayload := h.payload
      simp [joined_concat, hpayload, entryText_eq]
      split <;> simp
    · cases entries <;> simpa using h.chunkHasEntries
    · change (c.payload ++ telEntryClose).length + 2 ≤ limit
      rw [length_append]
      exact h.room

theorem frames_openEntry (h : Frames w device limit c entries none) {x : Triple}
    (hroom : c.payload.length + ((if c.chunkHasEntries then 1 else 0) + telEntryOpen.length + 20 +
      telValuesOpen.length + (w.pair x.2).length + 4) ≤ limit) :
    Frames w device limit ((c.openEntry w x.1).appendKv (w.pair x.2)) entries
      (some (x.1, [x.2])) := by
  have hts := w.length_tsText x.1
  have hpayload := h.payload
  have hents := h.chunkHasEntries
  refine ⟨h.maxPayloadBytes, h.devicePrefix, h.start, ?_, rfl, rfl, ?_, by simp, ?_⟩
  · simp only [Option.toList, map_cons, map_nil, joined_concat, append_nil] at *
    simp [appendKv, openEntry, openText, joined, hents, hpayload]
    split <;> simp_all
  · simp [appendKv, openEntry]
  · simp [appendKv, openEntry]
    split at hroom <;> simp_all <;> omega

theorem frames_appendKv (h : Frames w device limit c entries (some (ts, pairs))) {p : Pair}
    (hroom : c.payload.length + (1 + (w.pair p).length + 4) ≤ limit) :
    Frames w device limit (c.appendKv (w.pair p)) entries (some (ts, pairs ++ [p])) := by
  have hpairs : pairs ≠ [] := h.values _ rfl
  have hpayload := h.payload
  refine ⟨h.maxPayloadBytes, h.devicePrefix, h.start, ?_, h.currentTs, rfl, h.chunkHasEntries,
    by simp, ?_⟩
  · simp [appendKv, openText, joined_concat, h.entryHasValues, hpayload, hpairs]
    split <;> simp
  · simp [appendKv, h.entryHasValues]
    omega

theorem closes_flushChunk (h : Frames w device limit c entries last) :
    Closes (IsTelemetry w device limit) (triples (entries ++ last.toList)) c.finish ∧
      c.flushChunk.1 = c.finish ∧ Frames w device limit c.flushChunk.2 [] none := by
  have hclosed := frames_closeEntry h
  rw [flushChunk, finish]
  split
  · rename_i hnone
    have hempty : entries = [] ∧ last = none := by
      simpa [h.chunkHasEntries, h.entryHasValues] using hnone
    obtain ⟨rfl, rfl⟩ := hempty
    exact ⟨rfl, rfl, h⟩
  · refine ⟨⟨_, ?_, rfl, ?_⟩, rfl, h.maxPayloadBytes, h.devicePrefix, h.start,
      (append_nil _).symm, rfl, rfl, rfl, by simp, h.start⟩
    · rw [telemetryText_eq, hclosed.payload, hclosed.devicePrefix, Option.toList_none, map_nil,
        append_nil]
    · rw [length_append]
      exact hclosed.room

def Keeps (w : JsonWriter) (device : String) (limit : Nat) (c : TelemetryChunker)
    (xs : List Triple) : Prop :=
  ∃ entries last, Frames w device limit c entries last ∧ triples (entries ++ last.toList) = xs

theorem length_telemetryText (x : Triple) :
    (telemetryText w device [(x.1, [x.2])]).length = (buildDevicePrefix w device).length +
      (w.tsText x.1).length + (w.pair x.2).length + 21 := by
  rw [telemetryText_eq, map_singleton, entryText_eq]
  simp [joined, openText, show telEntryOpen.length = 6 from rfl, show telValuesOpen.length = 11 from
    rfl, show telEntryClose.length = 2 from rfl, show telSuffix.length = 2 from rfl]
  omega

theorem keeps_restart (h : Frames w device limit c entries last) (x) :
    Closes (IsTelemetry w device limit) (triples (entries ++ last.toList)) (c.restart w x).1 ∧
      (Keeps w device limit (c.restart w x).2 [x] ∨
        fitsAlone w device limit x = false ∧ Keeps w device limit (c.restart w x).2 []) := by
  obtain ⟨hcloses, hfinish, hflush⟩ := closes_flushChunk h
  have hstart : c.flushChunk.2.payload = buildDevicePrefix w device := by
    rw [hflush.payload, hflush.devicePrefix]
    exact append_nil _
  rw [restart, hflush.maxPayloadBytes, hfinish, hstart]
  split
  · rename_i hlong
    refine ⟨hcloses, .inr ⟨?_, [], none, hflush, rfl⟩⟩
    change _ + (6 + 20 + 11 + _ + 2 + 2) > limit at hlong
    rw [fitsAlone, decide_eq_false_iff_not, length_telemetryText]
    omega
  · rename_i hroom
    refine ⟨hcloses, .inl ⟨[], _, frames_openEntry hflush ?_, rfl⟩⟩
    rw [hflush.chunkHasEntries, hstart]
    change ¬ _ + (6 + 20 + 11 + _ + 2 + 2) > limit at hroom
    change _ + (0 + 6 + 20 + 11 + _ + 4) ≤ limit
    omega

theorem packs_place (h : Frames w device limit c entries last) (x) (hlast : ∀ e ∈ last, e.1 = x.1) :
    Packs (Keeps w device limit) (IsTelemetry w device limit)
      (fitsAlone w device limit) (triples (entries ++ last.toList)) x (c.place w x) := by
  rw [place, h.maxPayloadBytes]
  split
  · exact .inr (keeps_restart h x)
  · rename_i hroom
    change ¬ _ + (_ + _ + (2 + 2)) > limit at hroom
    cases last with
    | none =>
      have hnew : c.needsNewEntry x = true := by
        rw [needsNewEntry, h.currentTs]
        rfl
      rw [if_pos hnew] at hroom ⊢
      refine .inl ⟨rfl, entries, _, frames_openEntry h ?_, by simp [triples]⟩
      omega
    | some e =>
      obtain ⟨ts, pairs⟩ := e
      obtain rfl : ts = x.1 := hlast _ rfl
      have hold : c.needsNewEntry x = false := by
        simp [needsNewEntry, h.currentTs]
      rw [hold, if_neg Bool.false_ne_true, h.entryHasValues] at hroom
      rw [hold]
      refine .inl ⟨rfl, entries, some (x.1, pairs ++ [x.2]), frames_appendKv h ?_, ?_⟩
      · change ¬ _ + (0 + (1 + _) + _) > limit at hroom
        omega
      · simp [triples]

theorem packs_push_telemetry (h : Keeps w device limit c xs) (x) :
    Packs (Keeps w device limit) (IsTelemetry w device limit)
      (fitsAlone w device limit) xs x (c.push w x) := by
  obtain ⟨entries, last, hframes, rfl⟩ := h
  rw [push]
  split
  · simpa using packs_place (frames_closeEntry hframes) x (by simp)
  · rename_i hsame
    refine packs_place hframes x ?_
    rintro e rfl
    simpa [needsNewEntry, hframes.currentTs] using hsame

/-- The telemetry sent; the limit is never below 256, and only triples that do not fit alone are
left out. -/
theorem telemetry_carried {w : JsonWriter} {device : String} {maxPayloadBytes : Nat}
    {c : TelemetryChunker} (hnew : new w device maxPayloadBytes = .ok c) (xs : List Triple) :
    Carries (IsTelemetry w device (max maxPayloadBytes 256))
      (fitsAlone w device (max maxPayloadBytes 256))
      (chunks (push w) finish c xs) xs := by
  rw [new] at hnew
  split at hnew
  · cases hnew
  · rename_i hroom
    cases hnew
    have hstart : (buildDevicePrefix w device).length + 2 ≤ max maxPayloadBytes 256 := by
      omega
    have hopen : Frames w device (max maxPayloadBytes 256)
        ⟨max maxPayloadBytes 256, buildDevicePrefix w device, _, false, false, none⟩ [] none :=
      ⟨rfl, rfl, hstart, (append_nil _).symm, rfl, rfl, rfl, by simp, hstart⟩
    refine exists_groups (fun _ _ x h => packs_push_telemetry h x) ?_ ⟨[], none, hopen, rfl⟩ xs
    rintro c xs ⟨entries, last, hframes, rfl⟩
    exact (closes_flushChunk hframes).1

theorem telemetry_carried_two :
    Carries (IsTelemetry sampleWriter "d" 300) (fitsAlone sampleWriter "d" 300)
      (chunks (push sampleWriter) finish
        ⟨300, buildDevicePrefix sampleWriter "d", buildDevicePrefix sampleWriter "d", false, false,
          none⟩
        [(5, setPair 2), (7, setPair 290)]) [(5, setPair 2), (7, setPair 290)] :=
  telemetry_carried (rfl : new sampleWriter "d" 300 = .ok _) _

/-- The payload limit may be zero, and a triple that does not fit alone is kept in an entry with a
short time. -/
theorem long_triple_kept :
    (new sampleWriter "d" 0).toOption.map
        (chunks (push sampleWriter) finish · [(5, setPair 1)]) =
      some [telemetryText sampleWriter "d" [(5, [setPair 1])]] ∧
    fitsAlone sampleWriter "d" 256 (5, setPair 205) = false ∧
    (new sampleWriter "d" 256).toOption.map
        (chunks (push sampleWriter) finish ·
          [(5, setPair 1), (5, setPair 205)]) =
      some [telemetryText sampleWriter "d" [(5, [setPair 1, setPair 205])]] := by
  decide +kernel

end Telemetry

end NgGateway.ThingsboardPayload
