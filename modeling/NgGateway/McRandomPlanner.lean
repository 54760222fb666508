import Mathlib.Data.List.Basic

namespace NgGateway.McRandomPlanner

open List Nat

inductive McSeries where
  | a
  | qnA
  | ql
  | iqr
  deriving DecidableEq

def McSeries.deviceRandomReadInWordPointsMax : McSeries → Nat
  | .a => 0
  | .qnA => 96
  | .ql => 192
  | .iqr => 96

def McSeries.deviceRandomWriteInWordPointsMax : McSeries → Nat
  | .a => 10
  | .qnA => 960
  | .ql => 1920
  | .iqr => 960

/-- The four counters of `bi_loop_execute`, which are also what it hands to its consumer. -/
structure Cursor where
  wOff : Nat
  wLen : Nat
  dOff : Nat
  dLen : Nat

section

variable (wordTotal dwordTotal : Nat) (predicate : Nat → Nat → Bool)

def biStep (c : Cursor) : Option Cursor × Cursor :=
  if c.wOff < wordTotal ∧ c.wOff + c.wLen < wordTotal then
    if predicate c.wLen c.dLen then (some c, { c with wOff := c.wOff + c.wLen, wLen := 0 })
    else (none, { c with wLen := c.wLen + 1 })
  else if c.wOff < wordTotal ∧ ¬c.wOff + c.wLen < wordTotal ∧ c.dOff + c.dLen < dwordTotal then
    if predicate c.wLen c.dLen then (some c, ⟨wordTotal, 0, c.dOff + c.dLen, 0⟩)
    else (none, { c with dLen := c.dLen + 1 })
  else if c.dOff < dwordTotal ∧ c.dOff + c.dLen < dwordTotal then
    if predicate c.wLen c.dLen then (some c, { c with dOff := c.dOff + c.dLen, dLen := 0 })
    else (none, { c with dLen := c.dLen + 1 })
  else (none, { c with dLen := c.dLen + 1 })

def biLoopExecute {β : Type} (consumer : Cursor → Option β) : Nat → Cursor → Option (List β)
  | 0, _ => none
  | fuel + 1, c =>
    if c.wOff + c.wLen < wordTotal ∨ c.dOff + c.dLen < dwordTotal then
      let (consumed, next) := biStep wordTotal dwordTotal predicate c
      (biLoopExecute consumer fuel next).map ((consumed.bind consumer).toList ++ ·)
    else if c.wOff < wordTotal ∨ c.dOff < dwordTotal then
      some (consumer ⟨c.wOff, wordTotal - c.wOff, c.dOff, dwordTotal - c.dOff⟩).toList
    else some []

end

structure RandomBatchSpec (α : Type) where
  wordEntries : List α
  dwordEntries : List α
  deriving DecidableEq

variable {α : Type}

def batchOf (words dwords : List α) (c : Cursor) : Option (RandomBatchSpec α) :=
  if c.wLen = 0 ∧ c.dLen = 0 then none
  else some ⟨(words.drop c.wOff).take c.wLen, (dwords.drop c.dOff).take c.dLen⟩

def planRandomBatches (maxLen : Nat) (weight : Nat → Nat → Nat) (words dwords : List α)
    (fuel : Nat) : Option (List (RandomBatchSpec α)) :=
  if words.isEmpty && dwords.isEmpty then some []
  else
    biLoopExecute words.length dwords.length
      (fun w d => if maxLen = 0 then false else maxLen ≤ weight w d) (batchOf words dwords) fuel
      ⟨0, 0, 0, 0⟩

def planRandomReadBatches (series : McSeries) :
    List α → List α → Nat → Option (List (RandomBatchSpec α)) :=
  planRandomBatches series.deviceRandomReadInWordPointsMax fun w d => w + d

def planRandomWriteBatches (series : McSeries) :
    List α → List α → Nat → Option (List (RandomBatchSpec α)) :=
  planRandomBatches series.deviceRandomWriteInWordPointsMax fun w d => w * 12 + d * 14

structure Counts (words dwords : List α) (c : Cursor) : Prop where
  word_le : c.wOff + c.wLen ≤ words.length
  dword_le : c.dOff + c.dLen ≤ dwords.length
  order : c.dOff + c.dLen = 0 ∨ c.wOff + c.wLen = words.length

abbrev More (words dwords : List α) (c : Cursor) : Prop :=
  c.wOff + c.wLen < words.length ∨ c.dOff + c.dLen < dwords.length

def grown (words : List α) (c : Cursor) : Cursor :=
  if c.wOff + c.wLen < words.length then { c with wLen := c.wLen + 1 }
  else { c with dLen := c.dLen + 1 }

def closed (c : Cursor) : Cursor := ⟨c.wOff + c.wLen, 0, c.dOff + c.dLen, 0⟩

variable {predicate : Nat → Nat → Bool}

theorem biStep_eq (hcounts : Counts words dwords c) (hmore : More words dwords c) :
    biStep words.length dwords.length predicate c =
      if predicate c.wLen c.dLen then (some c, closed c) else (none, grown words c) := by
  obtain ⟨hword, hdword, horder⟩ := hcounts
  obtain ⟨wOff, wLen, dOff, dLen⟩ := c
  dsimp only at *
  rw [biStep, grown, closed]
  dsimp only
  by_cases hw : wOff + wLen < words.length
  · obtain ⟨rfl, rfl⟩ : dOff = 0 ∧ dLen = 0 := by omega
    rw [if_pos ⟨by omega, hw⟩, if_pos hw]
  · have hd : dOff + dLen < dwords.length := hmore.resolve_left hw
    rw [if_neg fun h => hw h.2, if_neg hw]
    by_cases hleft : wOff < words.length
    · rw [if_pos ⟨hleft, hw, hd⟩, show wOff + wLen = words.length by omega]
    · obtain ⟨rfl, rfl⟩ : wLen = 0 ∧ wOff = words.length := by omega
      rw [if_neg fun h => hleft h.1, if_pos ⟨by omega, hd⟩]
      rfl

theorem len_grown (words : List α) (c) :
    (grown words c).wLen + (grown words c).dLen = c.wLen + c.dLen + 1 := by
  rw [grown]
  split
  · exact Nat.add_right_comm _ _ _
  · rfl

section

variable (words dwords : List α)

/-- The batches take what is left at a cursor of both lists in order, and none is empty. -/
structure Parts (c : Cursor) (batches : List (RandomBatchSpec α)) : Prop where
  words_eq : batches.flatMap RandomBatchSpec.wordEntries = words.drop c.wOff
  dwords_eq : batches.flatMap RandomBatchSpec.dwordEntries = dwords.drop c.dOff
  nonempty : ∀ batch ∈ batches, ¬(batch.wordEntries.length = 0 ∧ batch.dwordEntries.length = 0)

variable {words dwords}

theorem length_batchOf (hcounts : Counts words dwords c) (h : batch ∈ batchOf words dwords c) :
    ¬(c.wLen = 0 ∧ c.dLen = 0) ∧ batch.wordEntries.length = c.wLen ∧
      batch.dwordEntries.length = c.dLen := by
  have hword := hcounts.word_le
  have hdword := hcounts.dword_le
  unfold batchOf at h
  split_ifs at h with hsize
  · cases h
  · cases h
    dsimp only
    rw [length_take, length_drop, length_take, length_drop]
    omega

theorem Parts.close (hcounts : Counts words dwords c) (h : Parts words dwords (closed c) batches) :
    Parts words dwords c ((batchOf words dwords c).toList ++ batches) := by
  obtain ⟨hw, hd, hne⟩ := h
  by_cases hsize : c.wLen = 0 ∧ c.dLen = 0
  · rw [batchOf, if_pos hsize]
    exact ⟨by simpa [closed, hsize] using hw, by simpa [closed, hsize] using hd, hne⟩
  · have hbatch : batchOf words dwords c = some _ := if_neg hsize
    obtain ⟨-, hword, hdword⟩ := length_batchOf hcounts hbatch
    rw [hbatch, Option.toList_some, singleton_append]
    refine ⟨?_, ?_, forall_mem_cons.mpr ⟨by rwa [hword, hdword], hne⟩⟩
    · rw [flatMap_cons, hw, closed, ← drop_drop, take_append_drop]
    · rw [flatMap_cons, hd, closed, ← drop_drop, take_append_drop]

def Sized (Q : Nat → Nat → Prop) (batches : List (RandomBatchSpec α)) : Prop :=
  ∀ batch ∈ batches, Q batch.wordEntries.length batch.dwordEntries.length

variable (predicate) in
def Ends (words dwords : List α) (c : Cursor) (batches : List (RandomBatchSpec α)) : Prop :=
  ∃ n, ∀ fuel, n < fuel → biLoopExecute words.length dwords.length predicate
    (batchOf words dwords) fuel c = some batches

theorem Ends.turn {next : Cursor} (hmore : More words dwords c)
    (hstep : biStep words.length dwords.length predicate c = (consumed, next))
    (h : Ends predicate words dwords next batches) :
    Ends predicate words dwords c ((consumed.bind (batchOf words dwords)).toList ++ batches) := by
  obtain ⟨n, hn⟩ := h
  refine ⟨n + 1, fun fuel hfuel => ?_⟩
  obtain ⟨fuel, rfl⟩ : ∃ m, fuel = m + 1 := ⟨fuel - 1, by omega⟩
  rw [biLoopExecute, if_pos hmore, hstep]
  exact congrArg (Option.map _) (hn fuel (by omega))

theorem Ends.last (hw : c.wOff + c.wLen = words.length) (hd : c.dOff + c.dLen = dwords.length) :
    Ends predicate words dwords c (batchOf words dwords c).toList := by
  refine ⟨0, fun fuel hfuel => ?_⟩
  obtain ⟨fuel, rfl⟩ : ∃ m, fuel = m + 1 := ⟨fuel - 1, by omega⟩
  rw [biLoopExecute, if_neg (by omega), ← hw, ← hd, Nat.add_sub_cancel_left,
    Nat.add_sub_cancel_left]
  split
  · rfl
  · rw [batchOf, if_pos (by omega)]
    rfl

variable {C : Cursor → Prop} {Q : Nat → Nat → Prop} (hQ : Q 0 0)
  (hzero : predicate 0 0 = false)
  (hgrow : ∀ c, Counts words dwords c → More words dwords c → predicate c.wLen c.dLen = false →
    (C (grown words c) ↔ C c))
  (hclose : ∀ c, Counts words dwords c → More words dwords c → predicate c.wLen c.dLen = true →
    (Q c.wLen c.dLen ∧ C (closed c) ↔ C c))
  (hend : ∀ c, c.wOff + c.wLen = words.length → c.dOff + c.dLen = dwords.length →
    (Q c.wLen c.dLen ↔ C c))

include hQ in
theorem sized_close (hcounts : Counts words dwords c) :
    Sized Q ((batchOf words dwords c).toList ++ batches) ↔ Q c.wLen c.dLen ∧ Sized Q batches := by
  rw [Sized, forall_mem_append]
  cases hbatch : batchOf words dwords c with
  | none =>
    rw [batchOf] at hbatch
    split_ifs at hbatch with hsize
    simp [Sized, hsize, hQ]
  | some batch =>
    obtain ⟨-, hw, hd⟩ := length_batchOf hcounts hbatch
    simp [Sized, hw, hd]

include hQ hzero hgrow hclose hend

theorem exists_ends (c) (hcounts : Counts words dwords c) :
    ∃ batches, Ends predicate words dwords c batches ∧ Parts words dwords c batches ∧
      (Sized Q batches ↔ C c) := by
  -- a turn makes a counter grow, or takes a batch that is not empty off what is left
  induction hn : 2 * (words.length - c.wOff + (dwords.length - c.dOff)) - (c.wLen + c.dLen)
    using Nat.strongRecOn generalizing c with
  | _ n ih =>
    obtain ⟨hword, hdword, horder⟩ := id hcounts
    by_cases hmore : More words dwords c
    · cases hp : predicate c.wLen c.dLen with
      | false =>
        have hstep : biStep words.length dwords.length predicate c = (none, grown words c) := by
          rw [biStep_eq hcounts hmore, hp]
          rfl
        have hlen := len_grown words c
        obtain ⟨hw, hd, hcounts'⟩ : (grown words c).wOff = c.wOff ∧ (grown words c).dOff = c.dOff ∧
            Counts words dwords (grown words c) := by
          rw [grown]
          split
          · exact ⟨rfl, rfl, by dsimp only; omega, hdword, by dsimp only; omega⟩
          · exact ⟨rfl, rfl, hword, by dsimp only; omega, by dsimp only; omega⟩
        obtain ⟨batches, hends, ⟨hwords, hdwords, hne⟩, hall⟩ :=
          ih _ (by rw [← hn, hw, hd, hlen]; omega) _ hcounts' rfl
        rw [hw] at hwords
        rw [hd] at hdwords
        exact ⟨batches, hends.turn hmore hstep, ⟨hwords, hdwords, hne⟩,
          hall.trans (hgrow c hcounts hmore hp)⟩
      | true =>
        have hstep : biStep words.length dwords.length predicate c = (some c, closed c) := by
          rw [biStep_eq hcounts hmore, hp]
          rfl
        have hsize : ¬(c.wLen = 0 ∧ c.dLen = 0) := by
          rintro ⟨hw, hd⟩
          rw [hw, hd, hzero] at hp
          cases hp
        obtain ⟨batches, hends, hparts, hall⟩ := ih _ (by rw [← hn]; dsimp only [closed]; omega)
          (closed c) ⟨hword, hdword, horder⟩ rfl
        exact ⟨_, hends.turn hmore hstep, hparts.close hcounts,
          (sized_close hQ hcounts).trans
            ((and_congr_right' hall).trans (hclose c hcounts hmore hp))⟩
    · have hw : c.wOff + c.wLen = words.length := by omega
      have hd : c.dOff + c.dLen = dwords.length := by omega
      have hparts : Parts words dwords (closed c) [] :=
        ⟨by rw [closed, hw, drop_length]; rfl, by rw [closed, hd, drop_length]; rfl,
          forall_mem_nil _⟩
      refine ⟨_, Ends.last hw hd, ?_, ?_⟩
      · simpa using hparts.close hcounts
      · rw [← hend c hw hd, ← append_nil (batchOf words dwords c).toList, sized_close hQ hcounts]
        exact and_iff_left (forall_mem_nil _)

/-- The plan is the same for all fuel from some point on, and it divides both lists. -/
def Plans (plan : Nat → Option (List (RandomBatchSpec α))) (words dwords : List α)
    (batches : List (RandomBatchSpec α)) : Prop :=
  (∃ n, ∀ fuel, n < fuel → plan fuel = some batches) ∧ Parts words dwords ⟨0, 0, 0, 0⟩ batches

variable (words dwords C Q) in
theorem exists_plan (maxLen weight)
    (hpredicate : predicate = fun w d => if maxLen = 0 then false else maxLen ≤ weight w d) :
    ∃ batches, Plans (planRandomBatches maxLen weight words dwords) words dwords batches ∧
      (Sized Q batches ↔ C ⟨0, 0, 0, 0⟩) := by
  obtain ⟨batches, ⟨n, hends⟩, hparts, hall⟩ := exists_ends hQ hzero hgrow hclose hend
    ⟨0, 0, 0, 0⟩ ⟨zero_le _, zero_le _, .inl rfl⟩
  refine ⟨batches, ⟨⟨n, fun fuel hfuel => ?_⟩, hparts⟩, hall⟩
  rw [planRandomBatches, ← hpredicate]
  split_ifs with hempty
  · obtain ⟨rfl, rfl⟩ : words = [] ∧ dwords = [] := by simpa using hempty
    refine congrArg some (eq_nil_iff_forall_not_mem.mpr fun batch hbatch => ?_).symm
    refine hparts.nonempty batch hbatch ⟨?_, ?_⟩
    · rw [flatMap_eq_nil_iff.mp hparts.words_eq batch hbatch, length_nil]
    · rw [flatMap_eq_nil_iff.mp hparts.dwords_eq batch hbatch, length_nil]
  · exact hends fuel hfuel

end

theorem planRandomReadBatches_bounded (series : McSeries)
    (hseries : series.deviceRandomReadInWordPointsMax ≠ 0) (words dwords : List α) :
    ∃ batches, Plans (planRandomReadBatches series words dwords) words dwords batches ∧
      ∀ batch ∈ batches, batch.wordEntries.length + batch.dwordEntries.length ≤
        series.deviceRandomReadInWordPointsMax := by
  unfold planRandomReadBatches
  generalize series.deviceRandomReadInWordPointsMax = maxLen at hseries ⊢
  have hless : ∀ c : Cursor,
      (if maxLen = 0 then false else decide (maxLen ≤ c.wLen + c.dLen)) = false →
      c.wLen + c.dLen + 1 ≤ maxLen := by
    intro c hp
    rwa [if_neg hseries, decide_eq_false_iff_not, Nat.not_le] at hp
  obtain ⟨batches, hplans, hall⟩ := exists_plan words dwords (fun c => c.wLen + c.dLen ≤ maxLen)
    (fun w d => w + d ≤ maxLen) (zero_le _) (by simp)
    (fun c _ _ hp => iff_of_true (Nat.le_trans (Nat.le_of_eq (len_grown words c)) (hless c hp))
      (le_of_succ_le (hless c hp)))
    (fun c _ _ _ => and_iff_left (zero_le _)) (fun c _ _ => Iff.rfl) maxLen
    (fun w d => w + d) rfl
  exact ⟨batches, hplans, hall.mpr (zero_le _)⟩

theorem planRandomReadBatches_qnA :
    McSeries.qnA.deviceRandomReadInWordPointsMax ≠ 0 ∧
      ∃ batches,
        Plans (planRandomReadBatches .qnA (range 90) (range 9)) (range 90) (range 9) batches ∧
        ∀ batch ∈ batches, batch.wordEntries.length + batch.dwordEntries.length ≤ 96 :=
  ⟨by decide, planRandomReadBatches_bounded .qnA (by decide) _ _⟩

def lastWords (maxLen m : Nat) : Nat :=
  if m = 0 then 0 else (m - 1) % (maxLen / 12) + 1

/-- With `load` in the batch that the first dword comes to, `n` dwords never overshoot it. -/
def Fitting (maxLen load n : Nat) : Prop :=
  load + 14 * n ≤ maxLen ∨ load ≤ maxLen ∧ 14 ∣ maxLen - load ∧ load + 14 * n ≤ 2 * maxLen

theorem planRandomWriteBatches_bounded_iff (series : McSeries) (hseries : series ≠ .a)
    (words dwords : List α) :
    ∃ batches, Plans (planRandomWriteBatches series words dwords) words dwords batches ∧
      ((∀ batch ∈ batches, 12 * batch.wordEntries.length + 14 * batch.dwordEntries.length ≤
        series.deviceRandomWriteInWordPointsMax) ↔
        Fitting series.deviceRandomWriteInWordPointsMax
          (12 * lastWords series.deviceRandomWriteInWordPointsMax words.length) dwords.length) := by
  have hmax : series.deviceRandomWriteInWordPointsMax = 960 ∨
      series.deviceRandomWriteInWordPointsMax = 1920 := by
    cases series with
    | a => exact absurd rfl hseries
    | ql => exact .inr rfl
    | qnA | iqr => exact .inl rfl
  unfold planRandomWriteBatches
  generalize series.deviceRandomWriteInWordPointsMax = maxLen at hmax ⊢
  have hpos : maxLen ≠ 0 := by omega
  have hshort : ∀ m, 12 * m ≤ maxLen → lastWords maxLen m = m := by
    intro m hm
    obtain rfl | rfl := hmax <;> simp only [lastWords, Nat.reduceDiv] <;> split <;> omega
  have hlong : ∀ m k, maxLen = 12 * k → k < m → lastWords maxLen (m - k) = lastWords maxLen m := by
    intro m k hk hm
    obtain rfl | rfl := hmax <;> simp only [lastWords, Nat.reduceDiv] <;> split <;> split <;> omega
  refine (exists_plan words dwords
    (fun c => 12 * c.wLen ≤ maxLen ∧
      Fitting maxLen (12 * lastWords maxLen (words.length - c.wOff) + 14 * c.dLen)
        (dwords.length - c.dOff - c.dLen))
    (fun w d => 12 * w + 14 * d ≤ maxLen) (zero_le _) (by simp) ?_ ?_ ?_ maxLen
    (fun w d => w * 12 + d * 14) rfl).imp
    fun batches h => ⟨h.1, h.2.trans (and_iff_right (zero_le _))⟩
  · rintro c ⟨hword, hdword, horder⟩ hmore hp
    rw [if_neg hpos, decide_eq_false_iff_not] at hp
    rw [grown]
    split
    · exact and_congr_left fun _ => by dsimp only; omega
    · have hlast := hshort (words.length - c.wOff) (by omega)
      dsimp only
      rw [hlast]
      unfold Fitting
      omega
  · rintro c ⟨hword, hdword, horder⟩ hmore hp
    rw [if_neg hpos, decide_eq_true_iff] at hp
    dsimp only [closed]
    by_cases hpre : 12 * c.wLen ≤ maxLen
    · by_cases hw : c.wOff + c.wLen < words.length
      · rw [sub_add_eq, hlong _ c.wLen (by omega) (by omega)]
        unfold Fitting
        omega
      · have hlast := hshort (words.length - c.wOff) (by omega)
        have hnil := hshort (words.length - (c.wOff + c.wLen)) (by omega)
        rw [hlast, hnil]
        unfold Fitting
        omega
    · exact iff_of_false (fun h => hpre (by omega)) fun h => hpre h.1
  · intro c hw hd
    by_cases hpre : 12 * c.wLen ≤ maxLen
    · have hlast := hshort (words.length - c.wOff) (by omega)
      rw [hlast]
      unfold Fitting
      omega
    · exact iff_of_false (fun h => hpre (by omega)) fun h => hpre h.1

theorem planRandomWriteBatches_iqr :
    McSeries.iqr ≠ .a ∧
      ∃ batches,
        Plans (planRandomWriteBatches .iqr (range 3) (range 60)) (range 3) (range 60) batches ∧
        ((∀ batch ∈ batches,
          12 * batch.wordEntries.length + 14 * batch.dwordEntries.length ≤ 960) ↔
          Fitting 960 (12 * lastWords 960 3) 60) :=
  ⟨by decide, planRandomWriteBatches_bounded_iff .iqr (by decide) _ _⟩

/-- 69 dwords weigh 966 in one batch. -/
theorem planRandomWriteBatches_overshoot :
    planRandomWriteBatches .qnA ([] : List Nat) (range 69) 70 = some [⟨[], range 69⟩] ∧
      ¬12 * 0 + 14 * 69 ≤ McSeries.qnA.deviceRandomWriteInWordPointsMax := by
  decide +kernel

end NgGateway.McRandomPlanner
