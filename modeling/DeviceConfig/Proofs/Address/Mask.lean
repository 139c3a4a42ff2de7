import DeviceConfig.Proofs.Address.Netmask

/-!
Masks and lengths made from one another. A length is read back from its mask. A mask is read back from the number of
its ones just when all of them come first.
-/

namespace DeviceConfig.Address

open Text

/-! ### Ones in front -/

namespace Quad

end Quad

section
variable {address : String} (absent : '/' ∉ address.toList) {length : Nat} (within : length ≤ 32)
include absent within

end

end DeviceConfig.Address
