import Mathlib.Algebra.Order.Ring.Nat
import Mathlib.Data.List.Forall2

/-!
Topic filters of the MQTT router, matched from their text and from a compiled form. A text is the
list of its characters; `byteLen` is its length in UTF-8.
-/

namespace NgGateway.TopicPatterns

open List

def byteLen (text : List Char) : Nat := (text.map Char.utf8Size).sum

def levels (text : List Char) : List (List Char) := text.splitOn '/'

def stripSuffix (suffix text : List Char) : Option (List Char) :=
  if suffix.isSuffixOf text then some (text.take (text.length - suffix.length)) else none

def matchesPatternParts (patternParts topicParts : List (List Char)) (count : Nat) : Bool :=
  if topicParts.length < count then false
  else
    (List.range count).all fun i =>
      patternParts[i]? = some ['+'] || patternParts[i]? = topicParts[i]?

def matchesWithSingleLevelWildcards (pattern topic : List Char) : Bool :=
  let patternParts := levels pattern
  let topicParts := levels topic
  if patternParts.length ≠ topicParts.length then false
  else matchesPatternParts patternParts topicParts patternParts.length

def matchesMixedWildcards (pattern topic : List Char) : Bool :=
  let patternParts := levels pattern
  let topicParts := levels topic
  if patternParts.getLast? ≠ some ['#'] then false
  else matchesPatternParts patternParts topicParts (patternParts.length - 1)

/-- The character after the stem is looked up at the stem's number of bytes. -/
def mqttPatternMatches (pattern topic : List Char) : Bool :=
  if pattern = topic then true
  else if pattern = ['#'] then true
  else
    match stripSuffix ['/', '#'] pattern with
    | some stem =>
      if '+' ∈ stem then matchesMixedWildcards pattern topic
      else if stem.isPrefixOf topic then
        byteLen topic = byteLen stem || topic[byteLen stem]? = some '/'
      else false
    | none =>
      if '+' ∈ pattern then matchesWithSingleLevelWildcards pattern topic else false

inductive PatternPart where
  | literal (text : List Char)
  | singleWildcard
  | multiWildcard
  deriving DecidableEq

inductive PatternError where
  | emptyPattern
  | multiLevelWildcardNotAtEnd
  | invalidWildcardUsage
  deriving DecidableEq

structure CompiledPattern where
  parts : List PatternPart
  hasMultiLevelWildcard : Bool
  deriving DecidableEq

namespace CompiledPattern

def pushPart (count index : Nat) (compiled : CompiledPattern) (part : List Char) :
    Except PatternError CompiledPattern :=
  if part = ['+'] then .ok { compiled with parts := compiled.parts ++ [.singleWildcard] }
  else if part = ['#'] then
    if index ≠ count - 1 then .error .multiLevelWildcardNotAtEnd
    else .ok ⟨compiled.parts ++ [.multiWildcard], true⟩
  else if '+' ∈ part ∨ '#' ∈ part then .error .invalidWildcardUsage
  else .ok { compiled with parts := compiled.parts ++ [.literal part] }

def pushParts (count : Nat) :
    Nat → List (List Char) → CompiledPattern → Except PatternError CompiledPattern
  | _, [], compiled => .ok compiled
  | index, part :: rest, compiled =>
    match pushPart count index compiled part with
    | .ok next => pushParts count (index + 1) rest next
    | .error e => .error e

def new (pattern : List Char) : Except PatternError CompiledPattern :=
  if pattern.isEmpty then .error .emptyPattern
  else pushParts (levels pattern).length 0 (levels pattern) ⟨[], false⟩

def matchesZip : List (PatternPart × List Char) → Bool
  | [] => true
  | (.literal literal, topicPart) :: rest => if literal ≠ topicPart then false else matchesZip rest
  | (.singleWildcard, _) :: rest => matchesZip rest
  | (.multiWildcard, _) :: _ => true

def matchesWithMultiLevel (compiled : CompiledPattern) (topicParts : List (List Char)) : Bool :=
  let patternPartsWithoutWildcard := compiled.parts.take (compiled.parts.length - 1)
  if topicParts.length < patternPartsWithoutWildcard.length then false
  else matchesZip (patternPartsWithoutWildcard.zip topicParts)

def matchesTopic (compiled : CompiledPattern) (topic : List Char) : Bool :=
  let topicParts := levels topic
  if compiled.hasMultiLevelWildcard then compiled.matchesWithMultiLevel topicParts
  else if compiled.parts.length ≠ topicParts.length then false
  else matchesZip (compiled.parts.zip topicParts)

end CompiledPattern

open CompiledPattern (new pushParts matchesZip)

def Fits (level topicLevel : List Char) : Prop := level = ['+'] ∨ level = topicLevel

/-- A final `#` stands for any number of levels. -/
def LevelsMatch : List (List Char) → List (List Char) → Prop
  | [], topic => topic = []
  | level :: rest, [] => level = ['#'] ∧ rest = []
  | level :: rest, topicLevel :: topic =>
    level = ['#'] ∧ rest = [] ∨ Fits level topicLevel ∧ LevelsMatch rest topic

def FilterMatches (filter topic : List Char) : Prop := LevelsMatch (levels filter) (levels topic)

theorem levelsMatch_iff {filter topic : List (List Char)} (hfilter : ['#'] ∉ filter) :
    LevelsMatch filter topic ↔ List.Forall₂ Fits filter topic := by
  induction filter generalizing topic with
  | nil => exact List.forall₂_nil_left_iff.symm
  | cons level rest ih =>
    rw [mem_cons, not_or] at hfilter
    cases topic with
    | nil =>
      refine iff_of_false (fun h => hfilter.1 h.1.symm) ?_
      rintro ⟨⟩
    | cons topicLevel topic =>
      rw [List.forall₂_cons, ← ih hfilter.2]
      exact or_iff_right fun h => hfilter.1 h.1.symm

theorem levelsMatch_multi_iff (hstem : ['#'] ∉ stem) :
    LevelsMatch (stem ++ [['#']]) topic ↔
      stem.length ≤ topic.length ∧ List.Forall₂ Fits stem (topic.take stem.length) := by
  induction stem generalizing topic with
  | nil =>
    refine iff_of_true ?_ ⟨Nat.zero_le _, .nil⟩
    cases topic with
    | nil => exact ⟨rfl, rfl⟩
    | cons topicLevel topic => exact .inl ⟨rfl, rfl⟩
  | cons level rest ih =>
    rw [mem_cons, not_or] at hstem
    cases topic with
    | nil =>
      refine iff_of_false (fun h => hstem.1 h.1.symm) ?_
      rintro ⟨hle, -⟩
      exact Nat.not_succ_le_zero _ hle
    | cons topicLevel topic =>
      rw [length_cons, length_cons, Nat.add_le_add_iff_right, take_succ_cons,
        List.forall₂_cons, and_left_comm, ← ih hstem.2]
      exact or_iff_right fun h => hstem.1 h.1.symm

/-- `#` is the last level, and a level with a wildcard is nothing else. -/
def WellFormed : List (List Char) → Prop
  | [] => True
  | level :: rest =>
    (level = ['#'] → rest = []) ∧
      (level ≠ ['+'] → level ≠ ['#'] → '+' ∉ level ∧ '#' ∉ level) ∧ WellFormed rest

def partOf (level : List Char) : PatternPart :=
  if level = ['+'] then .singleWildcard
  else if level = ['#'] then .multiWildcard
  else .literal level

theorem pushPart_eq_ok {count index : Nat} {compiled next : CompiledPattern}
    (h : compiled.pushPart count index part = .ok next) :
    next = ⟨compiled.parts ++ [partOf part], compiled.hasMultiLevelWildcard || part = ['#']⟩ ∧
      (part = ['#'] → index = count - 1) ∧
      (part ≠ ['+'] → part ≠ ['#'] → '+' ∉ part ∧ '#' ∉ part) := by
  unfold CompiledPattern.pushPart at h
  unfold partOf
  split_ifs at h ⊢ with hplus hhash hidx hliteral
  · cases h
    have hne : part ≠ ['#'] := by
      rw [hplus]
      decide
    exact ⟨by simp [hne], fun heq => absurd heq hne, fun hnot => absurd hplus hnot⟩
  · cases h
    exact ⟨by simp [hhash], fun _ => not_not.mp hidx, fun _ hnot => absurd hhash hnot⟩
  · cases h
    rw [not_or] at hliteral
    exact ⟨by simp [hhash], fun heq => absurd heq hhash, fun _ _ => hliteral⟩

theorem pushParts_eq_ok {count index : Nat} (hcount : index + parts.length = count)
    (h : pushParts count index parts compiled = .ok result) :
    result.parts = compiled.parts ++ parts.map partOf ∧
      (result.hasMultiLevelWildcard = true ↔
        compiled.hasMultiLevelWildcard = true ∨ ['#'] ∈ parts) ∧ WellFormed parts := by
  induction parts generalizing index compiled with
  | nil =>
    cases h
    exact ⟨by simp, by simp, trivial⟩
  | cons part rest ih =>
    rw [pushParts] at h
    cases hpart : compiled.pushPart count index part with
    | error e =>
      rw [hpart] at h
      cases h
    | ok next =>
      rw [hpart] at h
      obtain ⟨rfl, hlast, hplain⟩ := pushPart_eq_ok hpart
      rw [length_cons] at hcount
      obtain ⟨hparts, hmulti, hwell⟩ := ih (by omega) h
      refine ⟨?_, ?_, ?_, hplain, hwell⟩
      · rw [hparts, append_assoc]
        rfl
      · rw [hmulti, mem_cons, eq_comm (a := ['#'])]
        simp only [Bool.or_eq_true, decide_eq_true_eq]
        exact or_assoc
      · intro hhash
        have hidx := hlast hhash
        exact length_eq_zero_iff.mp (by omega)

theorem new_eq_ok (h : new pattern = .ok compiled) :
    compiled.parts = (levels pattern).map partOf ∧
      (compiled.hasMultiLevelWildcard = true ↔ ['#'] ∈ levels pattern) ∧
      WellFormed (levels pattern) := by
  unfold new at h
  split_ifs at h
  obtain ⟨hparts, hmulti, hwell⟩ := pushParts_eq_ok (Nat.zero_add _) h
  refine ⟨hparts, hmulti.trans ?_, hwell⟩
  simp

theorem exists_stem {filter : List (List Char)} (hwell : WellFormed filter)
    (hmulti : ['#'] ∈ filter) : ∃ stem, filter = stem ++ [['#']] ∧ ['#'] ∉ stem := by
  induction filter with
  | nil => cases hmulti
  | cons level rest ih =>
    obtain ⟨hlast, -, hrest⟩ := hwell
    by_cases hlevel : level = ['#']
    · rw [hlevel, hlast hlevel]
      exact ⟨[], rfl, not_mem_nil⟩
    · have hmem := (mem_cons.mp hmulti).resolve_left (Ne.symm hlevel)
      obtain ⟨stem, rfl, hstem⟩ := ih hrest hmem
      refine ⟨level :: stem, rfl, ?_⟩
      rw [mem_cons, not_or]
      exact ⟨Ne.symm hlevel, hstem⟩

theorem matchesZip_iff (hstem : ['#'] ∉ stem) (hlen : stem.length ≤ topic.length) :
    matchesZip ((stem.map partOf).zip topic) = true ↔
      List.Forall₂ Fits stem (topic.take stem.length) := by
  induction stem generalizing topic with
  | nil => exact iff_of_true rfl .nil
  | cons level rest ih =>
    rw [mem_cons, not_or] at hstem
    cases topic with
    | nil => exact absurd hlen (Nat.not_succ_le_zero _)
    | cons topicLevel topic =>
      have hih := ih hstem.2 (Nat.le_of_succ_le_succ hlen)
      rw [length_cons, take_succ_cons, List.forall₂_cons, ← hih, map_cons, zip_cons_cons, Fits]
      by_cases hplus : level = ['+']
      · rw [partOf, if_pos hplus, matchesZip]
        simp [hplus]
      · rw [partOf, if_neg hplus, if_neg (Ne.symm hstem.1), matchesZip]
        simp [hplus]

variable {filter : List Char}

theorem matchesTopic_iff (h : new filter = .ok compiled) (topic) :
    compiled.matchesTopic topic = true ↔ FilterMatches filter topic := by
  obtain ⟨hparts, hmulti, hwell⟩ := new_eq_ok h
  unfold CompiledPattern.matchesTopic FilterMatches
  by_cases hhash : ['#'] ∈ levels filter
  · obtain ⟨stem, hstem, hnot⟩ := exists_stem hwell hhash
    have htake : compiled.parts.take (compiled.parts.length - 1) = stem.map partOf := by
      rw [hparts, hstem]
      simp
    rw [if_pos (hmulti.mpr hhash), hstem, levelsMatch_multi_iff hnot,
      CompiledPattern.matchesWithMultiLevel]
    simp only [htake, length_map]
    split_ifs with hshort
    · refine iff_of_false not_false ?_
      rintro ⟨hle, -⟩
      exact Nat.not_le.mpr hshort hle
    · have hle := Nat.not_lt.mp hshort
      rw [matchesZip_iff hnot hle]
      exact (and_iff_right hle).symm
  · rw [if_neg fun htrue => hhash (hmulti.mp htrue), levelsMatch_iff hhash, hparts,
      length_map]
    split_ifs with hlen
    · exact iff_of_false not_false fun hall => hlen hall.length_eq
    · have heq := not_not.mp hlen
      rw [matchesZip_iff hhash (Nat.le_of_eq heq), heq, take_length]

theorem matchesPatternParts_iff (stem rest topic) :
    matchesPatternParts (stem ++ rest) topic stem.length = true ↔
      stem.length ≤ topic.length ∧ List.Forall₂ Fits stem (topic.take stem.length) := by
  unfold matchesPatternParts
  split_ifs with hshort
  · refine iff_of_false not_false ?_
    rintro ⟨hle, -⟩
    exact Nat.not_le.mpr hshort hle
  · have hle := Nat.not_lt.mp hshort
    rw [and_iff_right hle, all_eq_true, List.forall₂_iff_get]
    have hlen : stem.length = (topic.take stem.length).length := by
      rw [length_take, Nat.min_eq_left hle]
    simp only [mem_range, Bool.or_eq_true, decide_eq_true_eq]
    constructor
    · intro hall
      refine ⟨hlen, fun i hi htopic => ?_⟩
      have hfits := hall i hi
      rw [getElem?_append_left hi, getElem?_eq_getElem hi,
        getElem?_eq_getElem (Nat.lt_of_lt_of_le hi hle)] at hfits
      simpa [Fits] using hfits
    · rintro ⟨-, hall⟩ i hi
      have hfits := hall i hi (hlen ▸ hi)
      rw [getElem?_append_left hi, getElem?_eq_getElem hi,
        getElem?_eq_getElem (Nat.lt_of_lt_of_le hi hle)]
      simpa [Fits] using hfits

theorem matchesMixedWildcards_iff (hfilter : levels filter = stem ++ [['#']])
    (hstem : ['#'] ∉ stem) :
    matchesMixedWildcards filter topic = true ↔ FilterMatches filter topic := by
  unfold matchesMixedWildcards FilterMatches
  simp only [hfilter, getLast?_concat, ne_eq, not_true_eq_false, if_false, length_append,
    length_singleton, Nat.add_sub_cancel]
  rw [matchesPatternParts_iff, levelsMatch_multi_iff hstem]

theorem matchesWithSingleLevelWildcards_iff (hfilter : ['#'] ∉ levels filter) :
    matchesWithSingleLevelWildcards filter topic = true ↔ FilterMatches filter topic := by
  unfold matchesWithSingleLevelWildcards FilterMatches
  dsimp only
  rw [levelsMatch_iff hfilter]
  split_ifs with hlen
  · exact iff_of_false not_false fun hall => hlen hall.length_eq
  · have heq := not_not.mp hlen
    have hparts := matchesPatternParts_iff (levels filter) [] (levels topic)
    rw [append_nil, and_iff_right (Nat.le_of_eq heq), heq, take_length] at hparts
    rw [heq]
    exact hparts

theorem levels_injective (h : levels first = levels second) : first = second := by
  have hsame := congrArg ['/'].intercalate h
  rwa [levels, levels, intercalate_splitOn, intercalate_splitOn] at hsame

theorem mem_of_mem_levels (hlevel : level ∈ levels text) (hc : c ∈ level) : c ∈ text := by
  induction text generalizing level with
  | nil =>
    rw [mem_singleton.mp hlevel] at hc
    exact hc
  | cons x text ih =>
    rw [levels, splitOn_cons_eq_if_modifyHead] at hlevel
    split_ifs at hlevel
    · obtain rfl | hlevel := mem_cons.mp hlevel
      · cases hc
      · exact mem_cons_of_mem x (ih hlevel hc)
    · rcases hrest : text.splitOn '/' with - | ⟨first, rest⟩
      · exact absurd hrest (splitOn_ne_nil '/' text)
      · rw [hrest, modifyHead_cons] at hlevel
        obtain rfl | hlevel := mem_cons.mp hlevel
        · obtain rfl | hc := mem_cons.mp hc
          · exact mem_cons_self
          · refine mem_cons_of_mem x (ih ?_ hc)
            rw [levels, hrest]
            exact mem_cons_self
        · refine mem_cons_of_mem x (ih ?_ hc)
          rw [levels, hrest]
          exact mem_cons_of_mem first hlevel

theorem forall₂_fits_iff {filter topic : List (List Char)} (hplus : ['+'] ∉ filter) :
    List.Forall₂ Fits filter topic ↔ filter = topic := by
  rw [← List.forall₂_eq_eq_eq]
  constructor
  · intro h
    induction h with
    | nil => exact .nil
    | cons hfits hrest ih =>
      rw [mem_cons, not_or] at hplus
      exact .cons (hfits.resolve_left fun heq => hplus.1 heq.symm) (ih hplus.2)
  · exact List.Forall₂.imp fun _ _ => .inr

theorem levels_stem (stem) : levels (stem ++ ['/', '#']) = levels stem ++ [['#']] :=
  splitOn_append_cons_self stem ['#']

theorem intercalate_append (hfirst : first ≠ []) (hsnd : second ≠ []) :
    ['/'].intercalate (first ++ second) =
      ['/'].intercalate first ++ '/' :: ['/'].intercalate second := by
  induction first with
  | nil => exact absurd rfl hfirst
  | cons level rest ih =>
    cases rest with
    | nil =>
      rw [singleton_append, intercalate_cons_of_ne_nil hsnd, intercalate_singleton, append_assoc]
      rfl
    | cons next rest =>
      have hne : next :: rest ≠ [] := cons_ne_nil next rest
      rw [cons_append, intercalate_cons_of_ne_nil (by simp), ih hne, intercalate_cons_of_ne_nil hne]
      simp [append_assoc]

theorem levels_prefix_iff :
    levels stem <+: levels topic ↔ topic = stem ∨ ∃ rest, topic = stem ++ '/' :: rest := by
  constructor
  · rintro ⟨more, hmore⟩
    cases more with
    | nil =>
      rw [append_nil] at hmore
      exact .inl (levels_injective hmore).symm
    | cons level more =>
      have htext := congrArg ['/'].intercalate hmore
      have hstem : levels stem ≠ [] := splitOn_ne_nil '/' stem
      rw [intercalate_append hstem (cons_ne_nil level more), levels, levels,
        intercalate_splitOn, intercalate_splitOn] at htext
      exact .inr ⟨_, htext.symm⟩
  · rintro (rfl | ⟨rest, rfl⟩)
    · exact prefix_refl _
    · exact ⟨levels rest, (splitOn_append_cons_self stem rest).symm⟩

theorem filterMatches_stem_iff (hplus : '+' ∉ stem) (hhash : ['#'] ∉ levels stem) :
    FilterMatches (stem ++ ['/', '#']) topic ↔
      topic = stem ∨ ∃ rest, topic = stem ++ '/' :: rest := by
  have hnot : ['+'] ∉ levels stem := fun hmem =>
    hplus (mem_of_mem_levels hmem mem_cons_self)
  rw [FilterMatches, levels_stem, levelsMatch_multi_iff hhash, forall₂_fits_iff hnot,
    ← levels_prefix_iff, prefix_iff_eq_take]
  refine and_iff_right_of_imp fun htake => ?_
  have hlen := congrArg List.length htake
  rw [length_take] at hlen
  omega

theorem stripSuffix_eq_some_iff : stripSuffix ending text = some stem ↔ text = stem ++ ending := by
  unfold stripSuffix
  split_ifs with hending
  · obtain ⟨start, rfl⟩ := isSuffixOf_iff_suffix.mp hending
    simp
  · refine iff_of_false (fun h => ?_) ?_
    · cases h
    · rintro rfl
      exact hending (isSuffixOf_iff_suffix.mpr (suffix_append stem ending))

theorem byteLen_append : byteLen (first ++ second) = byteLen first + byteLen second := by
  simp [byteLen]

theorem byteLen_eq_zero_iff : byteLen text = 0 ↔ text = [] := by
  cases text with
  | nil => exact iff_of_true rfl rfl
  | cons c text =>
    refine iff_of_false (fun hzero => ?_) (cons_ne_nil c text)
    have hpos := Char.utf8Size_pos c
    rw [byteLen, map_cons, sum_cons] at hzero
    omega

/-- After a stem without `+`, its number of bytes finds the slash that its number of characters
finds. -/
def StemEndAgrees (filter topic : List Char) : Prop :=
  ∀ stem, filter = stem ++ ['/', '#'] → '+' ∉ stem → stem <+: topic → topic ≠ stem →
    topic ≠ filter → (topic[byteLen stem]? = some '/' ↔ topic[stem.length]? = some '/')

theorem filterMatches_self (hwell : WellFormed (levels filter)) : FilterMatches filter filter := by
  have hrefl : ∀ parts : List (List Char), List.Forall₂ Fits parts parts := fun parts =>
    List.forall₂_same.mpr fun _ _ => .inr rfl
  unfold FilterMatches
  by_cases hhash : ['#'] ∈ levels filter
  · obtain ⟨stem, hstem, hnot⟩ := exists_stem hwell hhash
    rw [hstem, levelsMatch_multi_iff hnot, take_left]
    refine ⟨?_, hrefl stem⟩
    rw [length_append]
    exact Nat.le_add_right _ _
  · exact (levelsMatch_iff hhash).mpr (hrefl (levels filter))

theorem eq_or_stem_of_hash (hwell : WellFormed (levels filter))
    (hhash : ['#'] ∈ levels filter) : filter = ['#'] ∨ ∃ stem, filter = stem ++ ['/', '#'] := by
  obtain ⟨stem, hstem, -⟩ := exists_stem hwell hhash
  have htext := congrArg ['/'].intercalate hstem
  rw [levels, intercalate_splitOn] at htext
  cases stem with
  | nil =>
    exact .inl htext
  | cons level rest =>
    rw [intercalate_append (cons_ne_nil level rest) (cons_ne_nil _ _),
      intercalate_singleton] at htext
    exact .inr ⟨_, htext⟩

theorem slash_after_iff (hstem : stem <+: topic) :
    topic[stem.length]? = some '/' ↔ ∃ rest, topic = stem ++ '/' :: rest := by
  obtain ⟨more, rfl⟩ := hstem
  cases more with
  | nil | cons c more => simp

theorem mqttPatternMatches_self (filter) : mqttPatternMatches filter filter = true := by
  rw [mqttPatternMatches, if_pos rfl]

theorem mqttPatternMatches_stem (hplus : '+' ∉ stem) (hne : topic ≠ stem ++ ['/', '#']) :
    mqttPatternMatches (stem ++ ['/', '#']) topic = true ↔
      stem <+: topic ∧ (topic = stem ∨ topic[byteLen stem]? = some '/') := by
  have hhash : stem ++ ['/', '#'] ≠ ['#'] := fun heq => by
    have hlen := congrArg List.length heq
    exact absurd hlen (by simp)
  rw [mqttPatternMatches, if_neg fun heq => hne heq.symm, if_neg hhash,
    stripSuffix_eq_some_iff.mpr rfl]
  dsimp only
  split_ifs with hpre
  · obtain ⟨more, rfl⟩ := isPrefixOf_iff_prefix.mp hpre
    have hbytes : byteLen (stem ++ more) = byteLen stem ↔ stem ++ more = stem := by
      rw [byteLen_append, Nat.add_eq_left, byteLen_eq_zero_iff, append_right_eq_self]
    rw [and_iff_right (prefix_append stem more), ← hbytes]
    simp [Bool.or_eq_true, decide_eq_true_eq]
  · refine iff_of_false not_false ?_
    rintro ⟨hstem, -⟩
    exact hpre ( isPrefixOf_iff_prefix.mpr hstem)

theorem mqttPatternMatches_stem_iff (hplus : '+' ∉ stem)
    (hhash : ['#'] ∉ levels stem) (hne : topic ≠ stem ++ ['/', '#']) :
    (mqttPatternMatches (stem ++ ['/', '#']) topic = true ↔
        FilterMatches (stem ++ ['/', '#']) topic) ↔
      (stem <+: topic → topic ≠ stem →
        (topic[byteLen stem]? = some '/' ↔ topic[stem.length]? = some '/')) := by
  rw [mqttPatternMatches_stem hplus hne, filterMatches_stem_iff hplus hhash]
  by_cases hpre : stem <+: topic
  · rw [and_iff_right hpre, forall_prop_of_true hpre, slash_after_iff hpre]
    by_cases hstem : topic = stem
    · exact iff_of_true (iff_of_true (.inl hstem) (.inl hstem)) fun hnot => absurd hstem hnot
    · rw [or_iff_right hstem, or_iff_right hstem, forall_prop_of_true hstem]
  · refine iff_of_true (iff_of_false (fun h => hpre h.1) ?_) fun h => absurd h hpre
    rintro (rfl | ⟨rest, rfl⟩)
    · exact hpre (prefix_refl _)
    · exact hpre (prefix_append _ _)

theorem mqttPatternMatches_mixed (hplus : '+' ∈ stem)
    (hhash : ['#'] ∉ levels stem) (hne : topic ≠ stem ++ ['/', '#']) :
    mqttPatternMatches (stem ++ ['/', '#']) topic = true ↔
      FilterMatches (stem ++ ['/', '#']) topic := by
  have hsingle : stem ++ ['/', '#'] ≠ ['#'] := fun heq => by
    rw [append_eq_singleton_iff] at heq
    simp at heq
  rw [mqttPatternMatches, if_neg fun heq => hne heq.symm, if_neg hsingle,
    stripSuffix_eq_some_iff.mpr rfl]
  dsimp only
  rw [if_pos hplus]
  exact matchesMixedWildcards_iff (levels_stem stem) hhash

theorem mqttPatternMatches_plain (hhash : ['#'] ∉ levels filter) (hne : topic ≠ filter) :
    mqttPatternMatches filter topic = true ↔ FilterMatches filter topic := by
  have hsingle : filter ≠ ['#'] := by
    rintro rfl
    exact hhash (by decide)
  have hstrip : stripSuffix ['/', '#'] filter = none := by
    rw [Option.eq_none_iff_forall_ne_some]
    intro stem hstem
    rw [stripSuffix_eq_some_iff.mp hstem, levels_stem] at hhash
    exact hhash (mem_append_right _ mem_cons_self)
  rw [mqttPatternMatches, if_neg fun heq => hne heq.symm, if_neg hsingle, hstrip]
  split_ifs with hplus
  · exact matchesWithSingleLevelWildcards_iff hhash
  · have hnot : ['+'] ∉ levels filter := fun hmem =>
      hplus (mem_of_mem_levels hmem mem_cons_self)
    rw [FilterMatches, levelsMatch_iff hhash, forall₂_fits_iff hnot]
    exact iff_of_false not_false fun heq => hne (levels_injective heq).symm

theorem mqttPatternMatches_iff (hwell : WellFormed (levels filter)) :
    (mqttPatternMatches filter topic = true ↔ FilterMatches filter topic) ↔
      StemEndAgrees filter topic := by
  by_cases hself : topic = filter
  · subst hself
    exact iff_of_true (iff_of_true (mqttPatternMatches_self topic) (filterMatches_self hwell))
      fun stem _ _ _ _ hne => absurd rfl hne
  by_cases hhash : ['#'] ∈ levels filter
  · obtain ⟨parts, hparts, hnot⟩ := exists_stem hwell hhash
    obtain rfl | ⟨stem, rfl⟩ := eq_or_stem_of_hash hwell hhash
    · have hall : FilterMatches ['#'] topic :=
        (levelsMatch_multi_iff (not_mem_nil (a := ['#']))).mpr ⟨Nat.zero_le _, .nil⟩
      refine iff_of_true (iff_of_true ?_ hall) fun stem hstem => ?_
      · rw [mqttPatternMatches, if_neg fun heq => hself heq.symm, if_pos rfl]
      · rw [eq_comm, append_eq_singleton_iff] at hstem
        simp at hstem
    · rw [levels_stem] at hparts
      rw [← append_cancel_right hparts] at hnot
      by_cases hplus : '+' ∈ stem
      · refine iff_of_true (mqttPatternMatches_mixed hplus hnot hself) ?_
        intro other hother hplain
        rw [append_cancel_right hother] at hplus
        exact absurd hplus hplain
      · rw [mqttPatternMatches_stem_iff hplus hnot hself]
        constructor
        · intro hagree other hother _ hpre hne _
          rw [← append_cancel_right hother] at hpre hne ⊢
          exact hagree hpre hne
        · intro hagree hpre hne
          exact hagree stem rfl hplus hpre hne hself
  · refine iff_of_true (mqttPatternMatches_plain hhash hself) fun stem hstem => ?_
    rw [hstem, levels_stem] at hhash
    exact absurd (mem_append_right _ mem_cons_self) hhash

theorem stemEndAgrees_of_ascii (hascii : ∀ c ∈ filter, c.utf8Size = 1) :
    StemEndAgrees filter topic := by
  rintro stem rfl _ _ _ _
  have hbytes : byteLen stem = stem.length := by
    rw [byteLen, map_congr_left fun c hc => hascii c (mem_append_left _ hc)]
    simp
  rw [hbytes]

/-- The compiled filter has the level-wise meaning; the matcher on texts agrees unless the stem
before `/#` has characters of several bytes. -/
theorem matchers_agree_iff {filter : List Char} {compiled : CompiledPattern}
    (h : CompiledPattern.new filter = .ok compiled) (topic : List Char) :
    (compiled.matchesTopic topic = mqttPatternMatches filter topic ∧
        (compiled.matchesTopic topic = true ↔ FilterMatches filter topic) ∧
        (mqttPatternMatches filter topic = true ↔ FilterMatches filter topic)) ↔
      StemEndAgrees filter topic := by
  have hcompiled := matchesTopic_iff h topic
  rw [← mqttPatternMatches_iff (new_eq_ok h).2.2]
  constructor
  · rintro ⟨-, -, htext⟩
    exact htext
  · intro htext
    exact ⟨Bool.eq_iff_iff.mpr (hcompiled.trans htext.symm), hcompiled, htext⟩

theorem matchers_agree_on_ascii :
    CompiledPattern.new ['a', '/', '#'] =
        .ok ⟨[.literal ['a'], .multiWildcard], true⟩ ∧
      (CompiledPattern.mk [.literal ['a'], .multiWildcard] true).matchesTopic ['a', '/', 'x'] =
        mqttPatternMatches ['a', '/', '#'] ['a', '/', 'x'] := by
  have hnew : new ['a', '/', '#'] = .ok ⟨[.literal ['a'], .multiWildcard], true⟩ := by decide
  have hascii : ∀ c ∈ ['a', '/', '#'], c.utf8Size = 1 := by
    rw [forall_mem_cons, forall_mem_cons, forall_mem_singleton]
    decide
  exact ⟨hnew, ((matchers_agree_iff hnew _).mpr (stemEndAgrees_of_ascii hascii)).1⟩

/-- The stem `é` has one character and two bytes, so the slash after it is not found. -/
theorem matchers_differ_on_wide_stem :
    CompiledPattern.new ['é', '/', '#'] = .ok ⟨[.literal ['é'], .multiWildcard], true⟩ ∧
      (CompiledPattern.mk [.literal ['é'], .multiWildcard] true).matchesTopic ['é', '/', 'x'] =
        true ∧
      mqttPatternMatches ['é', '/', '#'] ['é', '/', 'x'] = false := by
  decide

end NgGateway.TopicPatterns
