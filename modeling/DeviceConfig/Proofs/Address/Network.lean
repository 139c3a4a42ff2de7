import DeviceConfig.Address.Mask

/-!
What a network admits: the sources that agree with its address wherever the mask has a one. Two masks on one
address admit the same sources only if they are the same mask.
-/

namespace DeviceConfig.Address

theorem octet_admitted (address mask : UInt8) :
    (address ^^^ ~~~mask) &&& mask = address &&& mask := by
  rw [← UInt8.toBitVec_inj]
  apply BitVec.eq_of_getLsbD_eq
  intro i bound
  simp [bound]
  grind

theorem octet_within {address mask other : UInt8}
    (admitted : (address ^^^ ~~~mask) &&& other = address &&& other) : mask &&& other = other := by
  rw [← UInt8.toBitVec_inj] at admitted ⊢
  apply BitVec.eq_of_getLsbD_eq
  intro i bound
  have same := congrArg (·.getLsbD i) admitted
  simp at same ⊢
  grind

namespace Quad

def and (q r : Quad) : Quad := ⟨q.a &&& r.a, q.b &&& r.b, q.c &&& r.c, q.d &&& r.d⟩

def xor (q r : Quad) : Quad := ⟨q.a ^^^ r.a, q.b ^^^ r.b, q.c ^^^ r.c, q.d ^^^ r.d⟩

def ones : Quad := ⟨255, 255, 255, 255⟩

theorem and_comm (q r : Quad) : q.and r = r.and q := by
  simp [and, UInt8.and_comm]

theorem complement_complement (q : Quad) : q.complement.complement = q := by
  simp [complement]

end Quad

structure Network where
  address : Quad
  mask : Quad
deriving DecidableEq, Repr

namespace Network

def Admits (network : Network) (source : Quad) : Prop :=
  source.and network.mask = network.address.and network.mask

instance (network : Network) (source : Quad) : Decidable (network.Admits source) :=
  inferInstanceAs (Decidable (_ = _))

variable {address mask other : Quad}

/-- The address with every bit the mask leaves free turned over. -/
theorem admits_turned (address mask : Quad) :
    Admits ⟨address, mask⟩ (address.xor mask.complement) := by
  simp [Admits, Quad.and, Quad.xor, Quad.complement, octet_admitted]

theorem within_of_admits_turned (admitted : Admits ⟨address, other⟩ (address.xor mask.complement)) :
    mask.and other = other := by
  simp only [Admits, Quad.and, Quad.xor, Quad.complement, Quad.mk.injEq] at admitted
  obtain ⟨a, b, c, d⟩ := admitted
  simp [Quad.and, octet_within a, octet_within b, octet_within c, octet_within d]

theorem mask_eq_of_same_admitted
    (same : ∀ source, Admits ⟨address, mask⟩ source ↔ Admits ⟨address, other⟩ source) :
    mask = other := by
  have left := within_of_admits_turned ((same _).mp (admits_turned address mask))
  have right := within_of_admits_turned ((same _).mpr (admits_turned address other))
  rw [← right, Quad.and_comm, left]

end Network

end DeviceConfig.Address
