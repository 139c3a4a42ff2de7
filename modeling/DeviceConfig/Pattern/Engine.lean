/-!
What is asked of an engine for regular expressions: which texts it takes for patterns, and which texts they match.
-/

namespace DeviceConfig.Pattern

class Engine where
  /-- The texts that a pattern matches, unless the engine refuses it. -/
  compile? : String → Option (String → Bool)

end DeviceConfig.Pattern
