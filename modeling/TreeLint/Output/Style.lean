import TreeLint.Text.Piece

/-!
# Terminal styles

Text is styled by a control sequence in front of it and one behind it that ends all styles. Where
such an end stands inside the text, the style is taken up again.
-/

namespace TreeLint
namespace Output

/-- A style of text on a terminal. -/
inductive Style where
  | bold
  | dimmed
  | underline
  | red
  | yellow
  | blue
  | cyan
  | boldRed
  | boldYellow
deriving DecidableEq, Repr

namespace Style

/-- The parameters of the control sequence of a style. -/
def parameters : Style → String
  | bold => "1"
  | dimmed => "2"
  | underline => "4"
  | red => "31"
  | yellow => "33"
  | blue => "34"
  | cyan => "36"
  | boldRed => "1;31"
  | boldYellow => "1;33"

/-- The control sequence with given parameters. -/
def sequence (parameters : String) : String :=
  "\x1b[" ++ parameters ++ "m"

/-- The control sequence that ends all styles. -/
def reset : String :=
  sequence "0"

/-- A text in a style, if styles are used. -/
def paint (styled : Bool) (style : Style) (text : String) : String :=
  if styled then
    let start := sequence style.parameters
    let inner := Text.replace reset.toList (reset ++ start).toList text.toList
    start ++ String.ofList inner ++ reset
  else text

end Style
end Output
end TreeLint
