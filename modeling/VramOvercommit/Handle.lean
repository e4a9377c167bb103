set_option autoImplicit false

/-! Handles: a slot and the generation of the slot, packed into one word for other programs. -/

namespace VramOvercommit

/-- Names an entry of a priority list. A slot is reused under a new generation, so a handle of a
removed entry resolves to nothing. -/
structure Handle where
  index : Nat
  generation : UInt32
  deriving DecidableEq, Repr

namespace Handle

/-- The low half is the slot number plus one, so that no handle is packed into zero. -/
def toRaw (handle : Handle) : Nat :=
  handle.generation.toNat * 0x100000000 + (handle.index + 1)

def ofRaw? (raw : Nat) : Option Handle :=
  match raw % 0x100000000 with
  | 0 => none
  | index + 1 => some ⟨index, UInt32.ofNat (raw / 0x100000000)⟩

theorem toRaw_ne_zero (handle : Handle) : handle.toRaw ≠ 0 := by
  rw [toRaw]
  omega

/-- A word unpacks to a handle exactly if it is the packed form of one whose slot fits. -/
theorem ofRaw?_eq_some_iff {raw : Nat} {handle : Handle} (word : raw < 0x10000000000000000) :
    ofRaw? raw = some handle ↔ handle.index + 1 < 0x100000000 ∧ raw = handle.toRaw := by
  obtain ⟨index, generation⟩ := handle
  have bound := generation.toNat_lt
  constructor
  · intro unpacked
    rw [ofRaw?] at unpacked
    split at unpacked
    · exact nomatch unpacked
    · rename_i low
      cases unpacked
      simp only [toRaw, UInt32.toNat_ofNat']
      omega
  · rintro ⟨(small : index + 1 < 0x100000000), rfl⟩
    have low : toRaw ⟨index, generation⟩ % 0x100000000 = index + 1 := by
      change (generation.toNat * 0x100000000 + (index + 1)) % 0x100000000 = index + 1
      omega
    have high : toRaw ⟨index, generation⟩ / 0x100000000 = generation.toNat := by
      change (generation.toNat * 0x100000000 + (index + 1)) / 0x100000000 = generation.toNat
      omega
    rw [ofRaw?, low]
    simp only [high, UInt32.ofNat_toNat]

/-- The text of a handle in a message. -/
def term (handle : Handle) : String :=
  "VbarHandle(EntryHandle \x7b index: " ++ toString handle.index ++ ", generation: " ++
    toString handle.generation.toNat ++ " \x7d)"

end Handle

end VramOvercommit
