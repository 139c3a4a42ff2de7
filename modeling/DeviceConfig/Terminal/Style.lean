import DeviceConfig.Text.Split

/-!
Styled text for terminals. A style opens with a sequence of its codes and closes with a reset. A reset
inside a styled text would end the style too early, so the style opens anew behind it.
-/

namespace DeviceConfig.Terminal

inductive Color where
  | red
  | green
  | yellow
  | cyan
deriving DecidableEq, Repr

def Color.code : Color → String
  | .red => "31"
  | .green => "32"
  | .yellow => "33"
  | .cyan => "36"

structure Style where
  bold : Bool := false
  color : Option Color := none
deriving DecidableEq, Repr

namespace Style

def bolded : Style := { bold := true }

def ofColor (color : Color) : Style := { color := some color }

def codes (style : Style) : List String :=
  (if style.bold then ["1"] else []) ++ (style.color.map Color.code).toList

/-- The sequence that turns the style on. -/
def opening (style : Style) : String := "\x1b[" ++ Text.join ";" style.codes ++ "m"

end Style

/-- The sequence that turns all styles off. -/
def reset : String := "\x1b[0m"

/-- Adds a text behind every reset. -/
def afterResets (added : List Char) : List Char → List Char
  | '\x1b' :: '[' :: '0' :: 'm' :: rest => reset.toList ++ added ++ afterResets added rest
  | c :: rest => c :: afterResets added rest
  | [] => []

/-- A text in a style, or as it is where styles are off. -/
def paint (styled : Bool) (style : Style) (text : String) : String :=
  if styled && !style.codes.isEmpty then
    style.opening ++ String.ofList (afterResets style.opening.toList text.toList) ++ reset
  else text

end DeviceConfig.Terminal
