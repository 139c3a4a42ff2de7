/-!
Interpolated texts are put together with `toString`, which does nothing to a text.
-/

namespace DeviceConfig.Text

@[simp] theorem toString_text (text : String) : toString text = text := rfl

end DeviceConfig.Text
