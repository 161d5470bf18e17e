import TracePlayer.Screen.Style

/-
  This file defines the colours of the viewer by their use.

  Key definitions include:
    * `Theme.text`, `Theme.primary`, `Theme.muted` and others
-/

namespace TracePlayer

namespace Theme

def text : Paint :=
  .rgb 205 214 244

def primary : Paint :=
  .rgb 137 180 250

def secondary : Paint :=
  .rgb 250 179 135

/- Comments, separators, captions and unfocused borders. -/
def muted : Paint :=
  .rgb 108 112 134

def success : Paint :=
  .rgb 166 227 161

def failure : Paint :=
  .rgb 243 139 168

def keyword : Paint :=
  .rgb 137 180 250

def string : Paint :=
  .rgb 250 179 135

def number : Paint :=
  .rgb 250 179 135

def focusedBorder : Paint :=
  .rgb 249 226 175

/- The background of the current line and the status bar. -/
def bar : Paint :=
  .rgb 50 50 70

def function : Paint :=
  .rgb 249 226 175

def name : Paint :=
  .rgb 148 226 213

/- New values and nodes. -/
def newest : Paint :=
  .rgb 255 224 130

def pointer : Paint :=
  .rgb 245 194 231

def redNode : Paint :=
  .rgb 243 139 168

def blackNode : Paint :=
  .rgb 147 153 178

/- The border of a pane. -/
def border (focused : Bool) : Style :=
  if focused then (Style.colour focusedBorder).strong
  else Style.colour muted

end Theme

end TracePlayer
