import DeviceConfig.Pattern.Engine
import DeviceConfig.Pattern.Match
import DeviceConfig.Pattern.Size

/-!
The engine the program runs with. It knows characters by category, script and yes-or-no properties; classes by
age or by where texts break are refused.
-/

namespace DeviceConfig.Pattern

instance standard : Engine := ⟨fun text => (Expr.compile? text).map Expr.matches⟩

end DeviceConfig.Pattern
