/-!
# Styled text

Text for a terminal is a sequence of spans, each in one style. With colours switched off a span is
its plain text.
-/

namespace FixtureProbe
namespace Terminal

/-!
# Styles
-/

inductive Colour where
  | red
  | green
  | yellow
  | cyan
  | white
  deriving DecidableEq

def Colour.code : Colour -> String
  | .red => "31"
  | .green => "32"
  | .yellow => "33"
  | .cyan => "36"
  | .white => "37"

inductive Weight where
  | normal
  | bold
  | dimmed
  deriving DecidableEq

def Weight.code? : Weight -> Option String
  | .normal => none
  | .bold => some "1"
  | .dimmed => some "2"

structure Style where
  weight : Weight
  colour : Option Colour
  deriving DecidableEq

def Style.codes (style : Style) : List String :=
  style.weight.code?.toList ++ (style.colour.map Colour.code).toList

/-!
# Spans
-/

structure Span where
  style : Style
  text : String
  deriving DecidableEq

namespace Span

def plain (text : String) : Span := ⟨⟨.normal, none⟩, text⟩

def bold (text : String) : Span := ⟨⟨.bold, none⟩, text⟩

def dimmed (text : String) : Span := ⟨⟨.dimmed, none⟩, text⟩

def coloured (colour : Colour) (text : String) : Span := ⟨⟨.normal, some colour⟩, text⟩

def boldColoured (colour : Colour) (text : String) : Span := ⟨⟨.bold, some colour⟩, text⟩

def reset : String := "\x1b[0m"

/--
A span on a terminal. Where the text itself ends all styles, the style of the span is begun again,
so that the rest of the text keeps it.
-/
def render (colours : Bool) (span : Span) : String :=
  match colours, span.style.codes with
  | true, code :: codes =>
      let start := "\x1b[" ++ String.intercalate ";" (code :: codes) ++ "m"
      start ++ span.text.replace reset (reset ++ start) ++ reset
  | _, _ => span.text

end Span

end Terminal
end FixtureProbe
