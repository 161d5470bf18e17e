/-
  This file defines the styles of a terminal and the text that
  is drawn in them.

  Key definitions include:
    * `Paint`
    * `Style`, `Style.onto`
    * `Span`, `Line`
-/

namespace TracePlayer

------------------------------------------------------------
-- Styles
------------------------------------------------------------

/- The colours of a terminal. -/
inductive Paint where
| reset
| black
| white
| rgb (red green blue : Nat)
deriving DecidableEq, Repr

/- A style sets some of the colours, and may make text bold. -/
structure Style where
  fg : Option Paint
  bg : Option Paint
  bold : Bool
deriving DecidableEq, Repr

namespace Style

/- The style that changes nothing. -/
def plain : Style :=
  ⟨none, none, false⟩

/- The style of a text colour. -/
def colour (paint : Paint) : Style :=
  { plain with fg := some paint }

def on
    (style : Style)
    (paint : Paint) : Style :=
  { style with bg := some paint }

def strong (style : Style) : Style :=
  { style with bold := true }

/-
  A style on top of another: its colours win where it sets
  them, and text is bold when either says so.
-/
def onto (top base : Style) : Style :=
  { fg := top.fg.or base.fg
    bg := top.bg.or base.bg
    bold := base.bold || top.bold }

end Style

------------------------------------------------------------
-- Text
------------------------------------------------------------

/- Text of one style. -/
structure Span where
  text : String
  style : Style
deriving DecidableEq, Repr

/- A line of spans over a style of its own. -/
structure Line where
  style : Style
  spans : List Span
deriving DecidableEq, Repr

namespace Line

/- Spans over no style. -/
def ofSpans (spans : List Span) : Line :=
  ⟨Style.plain, spans⟩

/- One text in the style of the line. -/
def styled
    (text : String)
    (style : Style) : Line :=
  ⟨style, [⟨text, Style.plain⟩]⟩

/- A line without text. -/
def blank : Line :=
  ofSpans []

/- The text of a line. -/
def text (line : Line) : String :=
  String.join (line.spans.map Span.text)

end Line

end TracePlayer
