import NgGateway.FiniteMaps
import NgGateway.Interleavings

namespace NgGateway.LogOverrides

open FiniteMaps Interleavings

inductive LogLevel where
  | error
  | warn
  | info
  | debug
  | trace

def LogLevel.toU8 : LogLevel → UInt8
  | .error => 0
  | .warn => 1
  | .info => 2
  | .debug => 3
  | .trace => 4

def LogLevel.ofU8 (v : UInt8) : LogLevel :=
  if v = 0 then .error else if v = 1 then .warn else if v = 2 then .info
  else if v = 3 then .debug else .trace

inductive Scope where
  | global
  | channel (id : Int32)
  | app (id : Int32)
  deriving DecidableEq

structure Lease where
  level : LogLevel
  expiresAtMs : Int

/-- `levels` has the cached levels of channels and apps. A new lease replaces the one of its scope.
-/
structure Manager where
  baseLevel : UInt8
  globalLevel : UInt8
  levels : AssocMap Scope UInt8
  leases : AssocMap Scope Lease

namespace Manager

def new : Manager := ⟨LogLevel.info.toU8, LogLevel.info.toU8, .empty, .empty⟩

variable (s : Manager) (scope : Scope)

def effectiveGlobalLevel : LogLevel := .ofU8 s.globalLevel

def effectiveLevel : LogLevel :=
  match s.levels.lookup scope with
  | some v => .ofU8 v
  | none => s.effectiveGlobalLevel

def effectiveChannelLevel (channelId : Int32) : LogLevel := s.effectiveLevel (.channel channelId)

def effectiveAppLevel (appId : Int32) : LogLevel := s.effectiveLevel (.app appId)

def chosen : Option UInt8 := (s.leases.lookup scope).map fun lease => lease.level.toU8

def leasedGlobal : UInt8 := (s.chosen .global).elim s.baseLevel (max s.baseLevel)

def recomputeGlobal : Manager := { s with globalLevel := s.leasedGlobal }

def recomputeLocal : Manager :=
  let level := (s.chosen scope).getD s.globalLevel
  { s with
    levels := if level = s.globalLevel then s.levels.erase scope else s.levels.insert scope level }

def recomputeChannel (channelId : Int32) : Manager := s.recomputeLocal (.channel channelId)

def recomputeApp (appId : Int32) : Manager := s.recomputeLocal (.app appId)

def recomputeScope (s : Manager) : Scope → Manager
  | .global => s.recomputeGlobal
  | .channel id => s.recomputeChannel id
  | .app id => s.recomputeApp id

def clearAll : Manager := { s with leases := .empty, levels := .empty }.recomputeGlobal

/-- The channels with a lease are recomputed after the global level, and then the apps. -/
def setBaseLevel (level : LogLevel) : Manager :=
  let scopes := s.leases.entries.map Prod.fst
  (scopes.filter (· matches .channel _) ++ scopes.filter (· matches .app _)).foldl recomputeScope
    { s with baseLevel := level.toU8 }.recomputeGlobal

def setTemporaryOverride (level : LogLevel) (ttlMs now : Int) : Manager :=
  { s with leases := s.leases.insert scope ⟨level, now + ttlMs⟩ }.recomputeScope scope

def clearScope : Manager := { s with leases := s.leases.erase scope }.recomputeScope scope

def cleanupExpired (now : Int) : Manager :=
  ((s.leases.entries.filter (·.2.expiresAtMs ≤ now)).map Prod.fst).foldl recomputeScope
    { s with leases := s.leases.retain fun _ lease => ¬lease.expiresAtMs ≤ now }

end Manager

inductive Op where
  | setBaseLevel (level : LogLevel)
  | setTemporaryOverride (scope : Scope) (level : LogLevel) (ttlMs now : Int)
  | clearScope (scope : Scope)
  | clearAll
  | cleanupExpired (now : Int)

def step (s : Manager) : Op → Option Manager
  | .setBaseLevel level => some (s.setBaseLevel level)
  | .setTemporaryOverride scope level ttlMs now =>
    some (s.setTemporaryOverride scope level ttlMs now)
  | .clearScope scope => some (s.clearScope scope)
  | .clearAll => some s.clearAll
  | .cleanupExpired now => some (s.cleanupExpired now)

def leasedLevel (s : Manager) (scope : Scope) : LogLevel :=
  match s.leases.lookup scope with
  | some lease => lease.level
  | none => s.effectiveGlobalLevel

def Effective (s : Manager) : Prop :=
  ∀ id, s.effectiveChannelLevel id = leasedLevel s (.channel id) ∧
    s.effectiveAppLevel id = leasedLevel s (.app id)

def Apart (s : Manager) : Prop := ∀ scope ≠ .global, s.chosen scope ≠ some s.globalLevel

/-- The global leases change only while no other lease is at the global level. -/
def KeepsApart (s : Manager) : Op → Prop
  | .setBaseLevel _ | .clearAll => True
  | .setTemporaryOverride scope _ _ _ | .clearScope scope => scope = .global → Apart s
  | .cleanupExpired now =>
    (∃ lease, s.leases.lookup .global = some lease ∧ lease.expiresAtMs ≤ now) → Apart s

def Cached (s : Manager) (scope : Scope) : Prop :=
  s.levels.lookup scope = s.chosen scope ∨
    s.levels.lookup scope = none ∧ s.chosen scope = some s.globalLevel

def Free (s : Manager) (scope : Scope) : Prop :=
  s.leasedGlobal = s.globalLevel ∨ s.chosen scope ≠ some s.globalLevel

variable {s : Manager} {scope x : Scope} {changed : List Scope}

theorem ofU8_toU8 (level) : LogLevel.ofU8 level.toU8 = level := by
  cases level <;> rfl

theorem effectiveLevel_eq (hcached : Cached s scope) :
    s.effectiveLevel scope = leasedLevel s scope := by
  rw [Cached, Manager.chosen] at hcached
  rw [Manager.effectiveLevel, leasedLevel]
  cases hlease : s.leases.lookup scope with
  | none =>
    simp only [hlease, Option.map_none] at hcached
    rw [hcached.resolve_right fun h => by cases h.2]
  | some lease =>
    rw [hlease] at hcached
    rcases hcached with hcached | ⟨hnone, hglobal⟩
    · rw [hcached]
      exact ofU8_toU8 lease.level
    · rw [hnone, Manager.effectiveGlobalLevel, ← Option.some.inj hglobal]
      exact ofU8_toU8 lease.level

theorem cached_recomputeLocal (s : Manager) (scope) : Cached (s.recomputeLocal scope) scope := by
  have hchosen : (s.recomputeLocal scope).chosen scope = s.chosen scope := rfl
  rw [Cached, hchosen]
  simp only [Manager.recomputeLocal]
  cases s.chosen scope with
  | none => simp [lookup_erase]
  | some v =>
    by_cases hglobal : v = s.globalLevel
    · simp [hglobal, lookup_erase]
    · simp [hglobal, lookup_insert]

theorem recomputeScope_of_local (hlocal : x ≠ .global) :
    s.recomputeScope x = s.recomputeLocal x := by
  cases x with
  | global => exact absurd rfl hlocal
  | channel id | app id => rfl

theorem cached_recomputeScope (hfree : x = .global → Free s scope)
    (h : scope = x ∧ x ≠ .global ∨ Cached s scope) : Cached (s.recomputeScope x) scope := by
  by_cases hx : x = .global
  · subst hx
    rcases h.resolve_left fun h => h.2 rfl with hcached | ⟨hnone, hglobal⟩
    · exact .inl hcached
    · have hsame := (hfree rfl).resolve_right fun h => h hglobal
      exact .inr ⟨hnone, hglobal.trans (congrArg some hsame.symm)⟩
  · rw [recomputeScope_of_local hx]
    by_cases hscope : scope = x
    · exact hscope ▸ cached_recomputeLocal s x
    · have hget : (s.recomputeLocal x).levels.lookup scope = s.levels.lookup scope := by
        simp only [Manager.recomputeLocal]
        split
        · rw [lookup_erase, if_neg hscope]
        · rw [lookup_insert, if_neg hscope]
      rw [Cached, hget]
      exact h.resolve_left fun h => hscope h.1

theorem free_recomputeScope (x) (h : Free s scope) : Free (s.recomputeScope x) scope := by
  cases x with
  | global => exact .inl rfl
  | channel id | app id => exact h

section

variable (hlocal : scope ≠ .global)

include hlocal

theorem cached_foldl (hfree : .global ∈ changed → Free s scope)
    (h : scope ∈ changed ∨ Cached s scope) :
    Cached (changed.foldl Manager.recomputeScope s) scope := by
  induction changed generalizing s with
  | nil => exact h.resolve_left List.not_mem_nil
  | cons x changed ih =>
    have hfirst : x = .global → Free s scope := fun hx => hfree (hx ▸ List.mem_cons_self ..)
    refine ih (fun hglobal => free_recomputeScope x (hfree (List.mem_cons_of_mem x hglobal))) ?_
    rcases h with hmem | hcached
    · rcases List.mem_cons.mp hmem with rfl | hmem
      · exact .inr (cached_recomputeScope hfirst (.inl ⟨rfl, hlocal⟩))
      · exact .inl hmem
    · exact .inr (cached_recomputeScope hfirst (.inr hcached))

theorem cached_change (h : Cached s scope) (hapart : x = .global → Apart s)
    (hsame : scope ≠ x → leases.lookup scope = s.leases.lookup scope) :
    Cached (Manager.recomputeScope { s with leases } x) scope := by
  by_cases hscope : scope = x
  · refine cached_recomputeScope (fun hx => ?_) (.inl ⟨hscope, hscope ▸ hlocal⟩)
    exact absurd (hscope.trans hx) hlocal
  · have hchosen : Manager.chosen { s with leases } scope = s.chosen scope :=
      congrArg _ (hsame hscope)
    refine cached_recomputeScope (fun hx => .inr ?_) (.inr ?_)
    · rw [hchosen]
      exact hapart hx scope hlocal
    · rw [Cached, hchosen]
      exact h

theorem cached_setBaseLevel (h : Cached s scope) (level) : Cached (s.setBaseLevel level) scope := by
  refine cached_foldl hlocal (fun hglobal => by simp at hglobal) ?_
  cases hlease : s.leases.lookup scope with
  | none =>
    have hchosen : s.chosen scope = none := congrArg _ hlease
    exact .inr (.inl ((h.resolve_right fun h => by cases hchosen.symm.trans h.2)))
  | some lease =>
    have hmem : scope ∈ s.leases.entries.map Prod.fst :=
      List.mem_map_of_mem (lookup_eq_some_iff.mp hlease)
    cases scope with
    | global => exact absurd rfl hlocal
    | channel id => exact .inl (List.mem_append_left _ (List.mem_filter.mpr ⟨hmem, rfl⟩))
    | app id => exact .inl (List.mem_append_right _ (List.mem_filter.mpr ⟨hmem, rfl⟩))

theorem cached_cleanupExpired (h : Cached s scope) (hapart : KeepsApart s (.cleanupExpired now)) :
    Cached (s.cleanupExpired now) scope := by
  have hexpired : ∀ {x}, x ∈ (s.leases.entries.filter (·.2.expiresAtMs ≤ now)).map Prod.fst ↔
      ∃ lease, s.leases.lookup x = some lease ∧ lease.expiresAtMs ≤ now := by
    intro x
    simp [← lookup_eq_some_iff]
  refine cached_foldl hlocal (fun hglobal => .inr fun hchosen => ?_) ?_
  · obtain ⟨lease, hlease, hlevel⟩ := Option.map_eq_some_iff.mp hchosen
    have hbefore := (lookup_retain_eq_some_iff.mp hlease).1
    exact hapart (hexpired.mp hglobal) scope hlocal
      (Option.map_eq_some_iff.mpr ⟨lease, hbefore, hlevel⟩)
  · refine or_iff_not_imp_left.mpr fun hmem => ?_
    have hkept : (s.leases.retain fun _ lease => ¬lease.expiresAtMs ≤ now).lookup scope =
        s.leases.lookup scope := by
      apply Option.ext
      intro lease
      rw [lookup_retain_eq_some_iff]
      exact and_iff_left_of_imp fun hlease =>
        decide_eq_true fun h => hmem (hexpired.mpr ⟨lease, hlease, h⟩)
    rw [Cached, Manager.chosen, hkept]
    exact h

end

theorem cached_step {next : Manager} (h : ∀ scope ≠ .global, Cached s scope)
    (hkeeps : KeepsApart s op) (hstep : step s op = some next) :
    ∀ scope ≠ .global, Cached next scope := by
  intro scope hlocal
  have hscope := h scope hlocal
  cases op with
  | setBaseLevel level =>
    cases hstep
    exact cached_setBaseLevel hlocal hscope level
  | setTemporaryOverride x level ttlMs now =>
    cases hstep
    refine cached_change hlocal hscope hkeeps fun hne => ?_
    rw [lookup_insert, if_neg hne]
  | clearScope x =>
    cases hstep
    refine cached_change hlocal hscope hkeeps fun hne => ?_
    rw [lookup_erase, if_neg hne]
  | clearAll =>
    cases hstep
    exact .inl rfl
  | cleanupExpired now =>
    cases hstep
    exact cached_cleanupExpired hlocal hscope hkeeps

/-- In every run, channels and apps have the level of their lease. -/
theorem always_effective {ops : List Op} (h : EveryStep step KeepsApart .new ops) :
    Always step Effective .new ops :=
  always_of_everyStep (fun _ _ _ hs hkeeps hstep => cached_step hs hkeeps hstep)
    (fun _ hs _ => ⟨effectiveLevel_eq (hs _ (by simp)), effectiveLevel_eq (hs _ (by simp))⟩)
    (fun _ _ => .inl rfl) h

def leaseChannel (level : LogLevel) : Op := .setTemporaryOverride (.channel 1) level 60000 0

def leaseGlobal : Op := .setTemporaryOverride .global .debug 60000 0

theorem effective_beside_error_channel :
    Always step Effective .new [leaseChannel .error, leaseGlobal] := by
  refine always_effective ?_
  rintro _ ⟨⟩
  refine ⟨(by intro h; cases h), ?_⟩
  rintro _ ⟨⟩
  refine ⟨fun _ scope _ hchosen => ?_, trivial⟩
  obtain ⟨lease, hlease, hlevel⟩ := Option.map_eq_some_iff.mp hchosen
  cases List.mem_singleton.mp (lookup_eq_some_iff.mp hlease)
  cases hlevel

/-- A channel that is leased at the global level follows the next global override. -/
theorem leased_channel_follows_global :
    ∃ s, [leaseChannel .info, leaseGlobal].foldlM step Manager.new = some s ∧
      (s.leases.lookup (.channel 1)).map Lease.level = some .info ∧
      s.effectiveChannelLevel 1 = .debug := by
  exact ⟨_, rfl, rfl, rfl⟩

end NgGateway.LogOverrides
