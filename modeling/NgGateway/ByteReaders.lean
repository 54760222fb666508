import Mathlib.Data.UInt

namespace NgGateway.ByteReaders

variable {φ α β : Type}

abbrev Reader (φ α : Type) := StateT (List UInt8) (Except φ) α

def ofLeBytes : List UInt8 → Nat
  | [] => 0
  | b :: bytes => b.toNat + 256 * ofLeBytes bytes

def readBytes (eof : φ) (n : Nat) : Reader φ (List UInt8) := fun bytes =>
  if bytes.length < n then .error eof else .ok (bytes.take n, bytes.drop n)

def readLe (eof : φ) (n : Nat) : Reader φ Nat := do
  let bytes ← readBytes eof n
  pure (ofLeBytes bytes)

def readU8 (eof : φ) : Reader φ UInt8 := do
  let n ← readLe eof 1
  pure (UInt8.ofNat n)

def readU16 (eof : φ) : Reader φ UInt16 := do
  let n ← readLe eof 2
  pure (UInt16.ofNat n)

def readU32 (eof : φ) : Reader φ UInt32 := do
  let n ← readLe eof 4
  pure (UInt32.ofNat n)

variable {r : Reader φ α} {f : α → Reader φ β} {bytes rest : List UInt8}

theorem bind_run_of_ok
    (h : r.run bytes = .ok (a, rest)) : (r >>= f).run bytes = (f a).run rest := by
  rw [StateT.run_bind, h]
  rfl

theorem bind_run_of_error (h : r.run bytes = .error e) : (r >>= f).run bytes = .error e := by
  rw [StateT.run_bind, h]
  rfl

theorem bind_run_eq_ok_iff :
    (r >>= f).run bytes = .ok (b, rest) ↔
      ∃ a mid, r.run bytes = .ok (a, mid) ∧ (f a).run mid = .ok (b, rest) := by
  rcases hr : r.run bytes with e | ⟨a, mid⟩
  · rw [bind_run_of_error hr]
    constructor
    · intro h
      cases h
    · rintro ⟨a, mid, h, -⟩
      cases h
  · rw [bind_run_of_ok hr]
    constructor
    · intro h
      exact ⟨a, mid, rfl, h⟩
    · rintro ⟨a', mid', h, hf⟩
      cases h
      exact hf

theorem get_bind_run (f : List UInt8 → Reader φ β) (bytes) :
    (do let remaining ← get; f remaining : Reader φ β).run bytes = (f bytes).run bytes := rfl

theorem readBytes_run (h : n ≤ bytes.length) :
    (readBytes eof n).run bytes = .ok (bytes.take n, bytes.drop n) :=
  if_neg (Nat.not_lt.mpr h)

@[simp] theorem readU8_cons (eof : φ) (b rest) :
    (readU8 eof).run (b :: rest) = .ok (b, rest) := by
  have hread : (readBytes eof 1).run (b :: rest) = .ok ([b], rest) := readBytes_run (by simp)
  change Except.ok (UInt8.ofNat (b.toNat + 256 * 0), rest) = _
  rw [Nat.mul_zero, Nat.add_zero, UInt8.ofNat_toNat]

@[simp] theorem readU16_cons (eof : φ) (lo hi rest) :
    (readU16 eof).run (lo :: hi :: rest) =
      .ok (UInt16.ofNat (lo.toNat + 256 * hi.toNat), rest) := by
  have hread : (readBytes eof 2).run (lo :: hi :: rest) = .ok ([lo, hi], rest) :=
    readBytes_run (by simp)
  rfl

structure ReadsExactly (eof : φ) (r : Reader φ α) (n : Nat) : Prop where
  short : ∀ bytes : List UInt8, bytes.length < n → r.run bytes = .error eof
  full : ∀ bytes : List UInt8, n ≤ bytes.length → ∃ a, r.run bytes = .ok (a, bytes.drop n)

theorem readsExactly_pure (eof : φ) (a : α) : ReadsExactly eof (pure a) 0 where
  short := fun _ h => absurd h (Nat.not_lt_zero _)
  full := fun _ _ => ⟨a, rfl⟩

theorem readsExactly_readBytes (eof : φ) (n) : ReadsExactly eof (readBytes eof n) n where
  short := fun _ h => if_pos h
  full := fun bytes h => ⟨bytes.take n, readBytes_run h⟩

theorem ReadsExactly.bind (hr : ReadsExactly eof r n) (hf : ∀ a, ReadsExactly eof (f a) m) :
    ReadsExactly eof (r >>= f) (n + m) where
  short := by
    intro bytes hshort
    rcases Nat.lt_or_ge bytes.length n with hlt | hge
    · exact bind_run_of_error (hr.short bytes hlt)
    · obtain ⟨a, ha⟩ := hr.full bytes hge
      rw [bind_run_of_ok ha]
      apply (hf a).short
      rw [List.length_drop]
      omega
  full := by
    intro bytes hfull
    obtain ⟨a, ha⟩ := hr.full bytes (by omega)
    obtain ⟨b, hb⟩ := (hf a).full (bytes.drop n) (by rw [List.length_drop]; omega)
    refine ⟨b, ?_⟩
    rw [bind_run_of_ok ha, hb, List.drop_drop]

theorem ReadsExactly.then_pure (hr : ReadsExactly eof r n)
    (f : α → β) : ReadsExactly eof (do let a ← r; pure (f a)) n :=
  hr.bind fun a => readsExactly_pure eof (f a)

theorem readsExactly_readLe (eof : φ) (n) : ReadsExactly eof (readLe eof n) n :=
  (readsExactly_readBytes eof n).then_pure ofLeBytes

theorem readsExactly_readU8 (eof : φ) : ReadsExactly eof (readU8 eof) 1 :=
  (readsExactly_readLe eof 1).then_pure UInt8.ofNat

theorem readsExactly_readU16 (eof : φ) : ReadsExactly eof (readU16 eof) 2 :=
  (readsExactly_readLe eof 2).then_pure UInt16.ofNat

theorem readsExactly_readU32 (eof : φ) : ReadsExactly eof (readU32 eof) 4 :=
  (readsExactly_readLe eof 4).then_pure UInt32.ofNat

end NgGateway.ByteReaders
