import TracePlayer.Screen.Columns
import TracePlayer.Text.Grapheme

/-
  This file splits text into the clusters that are drawn as
  one: the graphemes with the columns that they take.

  Key definitions include:
    * `Cluster`
    * `clusters`
-/

namespace TracePlayer

/- Text that is drawn as one, and the columns it takes. -/
structure Cluster where
  text : List Char
  width : Nat
deriving DecidableEq, Repr

/- A grapheme as a cluster. -/
def Cluster.ofText (text : List Char) : Cluster :=
  ⟨text, textColumns text⟩

/- The clusters of a text. -/
def clusters (text : List Char) : List Cluster :=
  (graphemes text).map Cluster.ofText

end TracePlayer
