import Mathlib.Data.List.Basic
import Mathlib.Data.List.Induction
import TracePlayer.Pane.StructureLines
import TracePlayer.Proofs.Trace.Walk

/-
  This file proves what the drawing of a tree tells: it has a
  line for each node in pre-order, and what stands in front of
  the lines determines the shape of the tree. The drawing
  keeps the trees still to be drawn on a list; each of its
  lines is that of a place in the tree.

  Main declarations:
    * `Tree.places`, `Tree.subtreeAt`
    * `Hanging.follow`, `treeLinesFrom_eq`
    * `Tree.SameShape`, `Tree.sameShape_of_marks`
    * `Tree.HasLaterSibling`, `Hanging.bar_iff`
    * `drawing_determines`
-/

namespace TracePlayer

------------------------------------------------------------
-- Places
------------------------------------------------------------

namespace Tree

/-
  The places of the nodes in pre-order; a place is the way
  that leads to it from the root.
-/
def places : Tree → List (List Side)
| empty => []
| node _ _ _ left right =>
    [] ::
      (left.places.map (.left :: ·) ++
        right.places.map (.right :: ·))

/- The subtree at a place. -/
def subtreeAt
    (tree : Tree)
    (place : List Side) : Tree :=
  place.foldl child tree

theorem subtreeAt_concat
    (tree : Tree)
    (place : List Side)
    (side : Side) :
    tree.subtreeAt (place ++ [side]) =
      (tree.subtreeAt place).child side := by
  simp [subtreeAt]

/- The subtrees in pre-order are those at the places. -/
theorem subtrees_eq (tree : Tree) :
    tree.subtrees = tree.places.map tree.subtreeAt := by
  induction tree with
  | empty => rfl
  | node id value color left right ihLeft ihRight =>
      rw [subtrees, places, ihLeft, ihRight, List.map_cons,
        List.map_append, List.map_map, List.map_map]
      rfl

theorem length_places (tree : Tree) :
    tree.places.length = tree.count := by
  rw [count_eq, ← length_subtrees, subtrees_eq,
    List.length_map]

/- Whether the child at a place is followed by another one. -/
def HasLaterSibling
    (tree : Tree)
    (place : List Side) : Prop :=
  ∃ parent,
    place = parent ++ [.left] ∧
      tree.subtreeAt (parent ++ [.right]) ≠ .empty

end Tree

------------------------------------------------------------
-- Lines
------------------------------------------------------------

namespace Hanging

/- What hangs at the end of a way. -/
def follow
    (start : Hanging)
    (way : List Side) : Hanging :=
  way.foldl child start

theorem follow_concat
    (start : Hanging)
    (way : List Side)
    (side : Side) :
    start.follow (way ++ [side]) =
      (start.follow way).child side := by
  simp [follow]

theorem tree_follow
    (start : Hanging)
    (way : List Side) :
    (start.follow way).tree = start.tree.subtreeAt way := by
  induction way generalizing start with
  | nil => rfl
  | cons side rest ih => exact ih (start.child side)

/- The lines of a tree that hangs somewhere. -/
def lines
    (isNew : Tree → Bool)
    (start : Hanging) : List Line :=
  start.tree.places.map fun way => (start.follow way).line isNew

/- The line of a root comes before those of its children. -/
theorem lines_of_full
    (isNew : Tree → Bool)
    {start : Hanging}
    (hFull : start.tree.isEmpty = false) :
    start.lines isNew =
      start.line isNew ::
        start.children.flatMap (lines isNew) := by
  have hChildren :
      start.children.flatMap (lines isNew) =
        (start.child .left).lines isNew ++
          (start.child .right).lines isNew := by
    have hNone :
        ∀ place : Hanging, place.tree.isEmpty = true →
          place.lines isNew = [] := by
      intro place hEmpty
      rw [lines]
      cases hTree : place.tree with
      | empty => rfl
      | node => rw [hTree] at hEmpty; cases hEmpty
    cases hLeft : (start.child .left).tree.isEmpty <;>
      cases hRight : (start.child .right).tree.isEmpty <;>
      simp [children, hLeft, hRight, hNone]
  rw [hChildren]
  rcases start with ⟨tree, indent, branch, side⟩
  cases tree with
  | empty => cases hFull
  | node id value color left right =>
      rw [lines, Tree.places, List.map_cons, List.map_append,
        List.map_map, List.map_map]
      rfl

end Hanging

/- Pending trees that have nodes are drawn in their order. -/
theorem treeLinesFrom_eq
    (isNew : Tree → Bool)
    (pending : List Hanging)
    (reversed : List Line)
    (hFull : ∀ next ∈ pending, next.tree.isEmpty = false) :
    treeLinesFrom isNew pending reversed =
      reversed.reverse ++
        pending.flatMap (Hanging.lines isNew) := by
  induction pending, reversed
    using treeLinesFrom.induct isNew with
  | case1 reversed => simp [treeLinesFrom]
  | case2 reversed next rest ih =>
      have hRest :
          ∀ later ∈ next.children ++ rest,
            later.tree.isEmpty = false := by
        intro later hMem
        rcases List.mem_append.mp hMem with hChild | hLater
        · simpa using (List.mem_filter.mp hChild).2
        · exact hFull later (List.mem_cons_of_mem _ hLater)
      rw [treeLinesFrom, ih hRest, List.flatMap_append,
        List.flatMap_cons,
        Hanging.lines_of_full isNew
          (hFull next List.mem_cons_self)]
      simp

/- The lines of a tree are those of its places. -/
theorem treeLines_eq
    (isNew : Tree → Bool)
    (tree : Tree) :
    treeLines isNew tree =
      tree.places.map fun place =>
        ((Hanging.root tree).follow place).line isNew := by
  cases hEmpty : tree.isEmpty with
  | true =>
      cases tree with
      | empty => rfl
      | node => cases hEmpty
  | false =>
      rw [treeLines, hEmpty]
      have hLines :=
        treeLinesFrom_eq isNew [Hanging.root tree] []
          (by simpa [Hanging.root] using hEmpty)
      simpa [Hanging.lines, Hanging.root] using hLines

------------------------------------------------------------
-- Indentation
------------------------------------------------------------

namespace Hanging

/-
  The branch at a place below the root is a middle one when
  another child follows, else a last one.
-/
theorem branch_follow_concat
    (tree : Tree)
    (parent : List Side)
    (side : Side) :
    ((root tree).follow (parent ++ [side])).branch = .middle ∧
        tree.HasLaterSibling (parent ++ [side]) ∨
      ((root tree).follow (parent ++ [side])).branch = .last ∧
        ¬ tree.HasLaterSibling (parent ++ [side]) := by
  have hLater :
      tree.HasLaterSibling (parent ++ [side]) ↔
        side = .left ∧
          (tree.subtreeAt parent).child .right ≠ .empty := by
    rw [← Tree.subtreeAt_concat]
    constructor
    · rintro ⟨other, hSame, hRight⟩
      rcases List.append_inj' hSame rfl with ⟨rfl, hSide⟩
      exact ⟨List.head_eq_of_cons_eq hSide, hRight⟩
    · rintro ⟨rfl, hRight⟩
      exact ⟨parent, rfl, hRight⟩
  have hTree : (root tree).tree = tree := rfl
  rw [hLater, follow_concat, child, tree_follow, hTree]
  cases side with
  | right => exact .inr ⟨rfl, by simp⟩
  | left =>
      cases (tree.subtreeAt parent).child .right with
      | empty => exact .inr ⟨rfl, by simp⟩
      | node => exact .inl ⟨rfl, by simp⟩

/- The side at a place below the root is the last one. -/
theorem side_follow_concat
    (tree : Tree)
    (parent : List Side)
    (side : Side) :
    ((root tree).follow (parent ++ [side])).side =
      [side.letter] := by
  rw [follow_concat]
  rfl

theorem length_branch_indent
    (tree : Tree)
    (parent : List Side)
    (side : Side) :
    ((root tree).follow
      (parent ++ [side])).branch.indent.length = 2 := by
  rcases branch_follow_concat tree parent side with
    ⟨hBranch, _⟩ | ⟨hBranch, _⟩ <;> rw [hBranch] <;> rfl

/-
  A place is indented by two columns for each place on the
  way to it below the root, and by two more.
-/
theorem length_indent
    (tree : Tree)
    (place : List Side) :
    ((root tree).follow place).indent.length =
      2 * max place.length 1 := by
  induction place using List.reverseRecOn with
  | nil => rfl
  | append_singleton parent side ih =>
      rw [follow_concat, child, List.length_append, ih]
      rcases List.eq_nil_or_concat' parent with
        rfl | ⟨above, last, rfl⟩
      · rfl
      · rw [length_branch_indent]
        simp only [List.length_append, List.length_singleton]
        omega

/- Only the indentation below a middle branch has a bar. -/
theorem bar_below_iff
    (branch : Branch)
    (column : Nat) :
    branch.indent[column]? = some '│' ↔
      branch = .middle ∧ column = 0 := by
  rcases column with _ | _ | column <;>
    cases branch <;> simp [Branch.indent]

/- A bar at a place below the root goes down to its sibling. -/
theorem bar_below_place_iff
    (tree : Tree)
    (parent : List Side)
    (side : Side)
    (column : Nat) :
    ((root tree).follow
        (parent ++ [side])).branch.indent[column]? =
          some '│' ↔
      tree.HasLaterSibling (parent ++ [side]) ∧ column = 0 := by
  rw [bar_below_iff]
  rcases branch_follow_concat tree parent side with
    ⟨hBranch, hLater⟩ | ⟨hBranch, hLater⟩ <;>
    simp [hBranch, hLater]

/-
  The bars in front of a place stand for the places on the way
  to it, below the root, that another child follows.
-/
theorem bar_iff
    (tree : Tree)
    (place : List Side)
    (column : Nat) :
    ((root tree).follow place).indent[column]? = some '│' ↔
      ∃ depth,
        0 < depth ∧ depth < place.length ∧
          column = 2 * depth ∧
          tree.HasLaterSibling (place.take depth) := by
  induction place using List.reverseRecOn with
  | nil =>
      have hNone : [' ', ' '][column]? ≠ some '│' := by
        rcases column with _ | _ | column <;> simp
      exact ⟨fun hBar => absurd hBar hNone, by simp⟩
  | append_singleton parent side ih =>
      rw [follow_concat, child, List.length_append,
        List.length_singleton]
      rcases List.eq_nil_or_concat' parent with
        rfl | ⟨above, last, hParent⟩
      case inl =>
        have hNone : [' ', ' '][column]? ≠ some '│' := by
          rcases column with _ | _ | column <;> simp
        refine ⟨fun hBar => absurd hBar hNone, ?_⟩
        rintro ⟨depth, hPos, hLess, _⟩
        simp only [List.length_nil] at hLess
        omega
      case inr =>
        have hLength := length_indent tree parent
        have hPos : 0 < parent.length := by
          simp [hParent]
        have hTake :
            ∀ depth ≤ parent.length,
              (parent ++ [side]).take depth =
                parent.take depth :=
          fun depth hLe => List.take_append_of_le_length hLe
        by_cases hColumn : column < 2 * parent.length
        case pos =>
          rw [List.getElem?_append_left (by omega), ih]
          constructor
          · rintro ⟨depth, hDepth, hLess, hSame, hLater⟩
            refine ⟨depth, hDepth, by omega, hSame, ?_⟩
            rwa [hTake depth (by omega)]
          · rintro ⟨depth, hDepth, hLess, hSame, hLater⟩
            refine ⟨depth, hDepth, by omega, hSame, ?_⟩
            rwa [hTake depth (by omega)] at hLater
        case neg =>
          have hBelow :=
            bar_below_place_iff tree above last
              (column - 2 * parent.length)
          rw [← hParent] at hBelow
          rw [List.getElem?_append_right (by omega), hLength,
            Nat.max_eq_left hPos, hBelow]
          constructor
          · rintro ⟨hLater, hSame⟩
            refine
              ⟨parent.length, hPos, by omega, by omega, ?_⟩
            rwa [hTake _ (Nat.le_refl _), List.take_length]
          · rintro ⟨depth, hDepth, hLess, hSame, hLater⟩
            have hWhole : depth = parent.length := by omega
            rw [hWhole, hTake _ (Nat.le_refl _),
              List.take_length] at hLater
            exact ⟨hLater, by omega⟩

/- Neither a branch nor the letter of a side has a bar. -/
theorem bar_not_mem_branch
    (tree : Tree)
    (place : List Side) :
    '│' ∉ ((root tree).follow place).branch.guide ++
      ((root tree).follow place).side := by
  rcases List.eq_nil_or_concat' place with
    rfl | ⟨parent, side, rfl⟩
  · exact List.not_mem_nil
  · rw [side_follow_concat]
    rcases branch_follow_concat tree parent side with
      ⟨hBranch, _⟩ | ⟨hBranch, _⟩ <;>
      rw [hBranch] <;> cases side <;> decide

/- All bars in front of a place are in its indentation. -/
theorem bar_guide_iff
    (tree : Tree)
    (place : List Side)
    (column : Nat) :
    ((root tree).follow place).guide[column]? = some '│' ↔
      ((root tree).follow place).indent[column]? =
        some '│' := by
  rw [guide, List.append_assoc]
  by_cases hColumn :
      column < ((root tree).follow place).indent.length
  case pos => rw [List.getElem?_append_left hColumn]
  case neg =>
    have hNone :
        ((root tree).follow place).indent[column]? = none :=
      List.getElem?_eq_none (by omega)
    rw [List.getElem?_append_right (by omega), hNone]
    constructor
    · intro hBar
      exact absurd (List.mem_of_getElem? hBar)
        (bar_not_mem_branch tree place)
    · intro hBar
      cases hBar

/-
  The branch to a place below the root is behind its
  indentation; it goes on down when another child follows.
-/
theorem branch_guide
    (tree : Tree)
    (parent : List Side)
    (side : Side) :
    let place := parent ++ [side]
    let drawn :=
      ((root tree).follow place).guide[2 * place.length]?
    (drawn = some '├' ∧ tree.HasLaterSibling place) ∨
      (drawn = some '└' ∧ ¬ tree.HasLaterSibling place) := by
  intro place drawn
  have hDrawn :
      drawn =
        ((root tree).follow place).branch.guide.head? := by
    have hLength := length_indent tree place
    have hPos : 0 < place.length := by simp [place]
    rw [Nat.max_eq_left hPos] at hLength
    rcases branch_follow_concat tree parent side with
      ⟨hBranch, _⟩ | ⟨hBranch, _⟩ <;>
      simp only [drawn, place] at hLength hBranch ⊢ <;>
      simp [guide, hBranch, hLength, Branch.guide]
  rcases branch_follow_concat tree parent side with
    ⟨hBranch, hLater⟩ | ⟨hBranch, hLater⟩
  · exact .inl ⟨by rw [hDrawn, hBranch]; rfl, hLater⟩
  · exact .inr ⟨by rw [hDrawn, hBranch]; rfl, hLater⟩

end Hanging

------------------------------------------------------------
-- Marks
------------------------------------------------------------

/-
  What is read off the text in front of a node: how deep it
  is, and the side on which it hangs.
-/
structure NodeMark where
  depth : Nat
  side : Option Side
deriving DecidableEq, Repr

namespace NodeMark

/- The mark of a place. -/
def ofPlace (place : List Side) : NodeMark :=
  ⟨place.length, place.getLast?⟩

/- The side with a letter. -/
def sideOf? (c : Char) : Option Side :=
  if c = 'L' then some .left
  else if c = 'R' then some .right
  else none

/- The mark that a text in front of a node shows. -/
def ofGuide (guide : List Char) : NodeMark :=
  ⟨(guide.length - 3) / 2, guide.getLast?.bind sideOf?⟩

/- The text in front of a place shows the mark of the place. -/
theorem ofGuide_follow
    (tree : Tree)
    (place : List Side) :
    ofGuide ((Hanging.root tree).follow place).guide =
      ofPlace place := by
  rcases List.eq_nil_or_concat' place with
    rfl | ⟨parent, side, rfl⟩
  · change ofGuide [' ', ' '] = ofPlace []
    decide
  · have hLength :=
      Hanging.length_indent tree (parent ++ [side])
    have hGuide :
        ((Hanging.root tree).follow
          (parent ++ [side])).branch.guide.length = 2 := by
      rcases Hanging.branch_follow_concat tree parent side with
        ⟨hBranch, _⟩ | ⟨hBranch, _⟩ <;> rw [hBranch] <;> rfl
    have hLetter : sideOf? side.letter = some side := by
      cases side <;> rfl
    rw [ofGuide, ofPlace, Hanging.guide,
      Hanging.side_follow_concat]
    simp only [List.length_append, List.length_singleton,
      hLength, hGuide, List.getLast?_concat, Option.bind_some,
      hLetter, NodeMark.mk.injEq, and_true]
    omega

end NodeMark

------------------------------------------------------------
-- Shapes
------------------------------------------------------------

namespace Tree

/- Trees with the same children present at every node. -/
inductive SameShape : Tree → Tree → Prop where
| empty : SameShape empty empty
| node
    {id other : NodeId}
    {value otherValue : Json}
    {color otherColor : Option Color}
    {left right otherLeft otherRight : Tree} :
    SameShape left otherLeft →
      SameShape right otherRight →
        SameShape (node id value color left right)
          (node other otherValue otherColor otherLeft otherRight)

/- The marks of the nodes of a tree that hangs at a place. -/
def marks
    (place : List Side)
    (tree : Tree) : List NodeMark :=
  tree.places.map fun way => NodeMark.ofPlace (place ++ way)

theorem marks_node
    (place : List Side)
    (id : NodeId)
    (value : Json)
    (color : Option Color)
    (left right : Tree) :
    (node id value color left right).marks place =
      NodeMark.ofPlace place ::
        (left.marks (place ++ [.left]) ++
          right.marks (place ++ [.right])) := by
  simp [marks, places, Function.comp_def]

/-
  Whether marks can follow those of a tree at a place: they go
  on no deeper, and not with another child at the place.
-/
def Resumes
    (place : List Side)
    (rest : List NodeMark) : Prop :=
  ∀ mark ∈ rest.head?,
    mark.depth ≤ place.length ∧ mark ≠ NodeMark.ofPlace place

/- A tree that follows another one is not behind its marks. -/
theorem not_resumes
    (place : List Side)
    (rest : List NodeMark) :
    ¬ Resumes place (NodeMark.ofPlace place :: rest) :=
  fun hResumes => (hResumes _ rfl).2 rfl

theorem Resumes.right
    {place : List Side}
    {rest : List NodeMark}
    (hRest : Resumes place rest) :
    Resumes (place ++ [.right]) rest := by
  intro mark hMark
  have hDepth := (hRest mark hMark).1
  rw [List.length_append, List.length_singleton]
  refine ⟨by omega, ?_⟩
  rintro rfl
  simp only [NodeMark.ofPlace, List.length_append,
    List.length_singleton] at hDepth
  omega

theorem Resumes.left
    {place : List Side}
    {rest : List NodeMark}
    (hRest : Resumes place rest)
    (right : Tree) :
    Resumes (place ++ [.left])
      (right.marks (place ++ [.right]) ++ rest) := by
  cases right with
  | empty =>
      intro mark hMark
      have hDepth := (hRest mark hMark).1
      rw [List.length_append, List.length_singleton]
      refine ⟨by omega, ?_⟩
      rintro rfl
      simp only [NodeMark.ofPlace, List.length_append,
        List.length_singleton] at hDepth
      omega
  | node =>
      rw [marks_node]
      rintro mark ⟨rfl⟩
      simp [NodeMark.ofPlace]

/-
  The marks of a tree determine its shape, and where they end
  among marks that can follow them.
-/
theorem sameShape_of_marks
    {place : List Side}
    {tree other : Tree}
    {rest otherRest : List NodeMark}
    (hRest : Resumes place rest)
    (hOtherRest : Resumes place otherRest)
    (hMarks :
      tree.marks place ++ rest = other.marks place ++ otherRest) :
    SameShape tree other ∧ rest = otherRest := by
  induction tree generalizing place other rest otherRest with
  | empty =>
      cases other with
      | empty => exact ⟨.empty, hMarks⟩
      | node =>
          rw [marks_node] at hMarks
          change rest = _ :: _ at hMarks
          exact absurd (hMarks ▸ hRest) (not_resumes place _)
  | node id value color left right ihLeft ihRight =>
      cases other with
      | empty =>
          rw [marks_node] at hMarks
          change _ :: _ = otherRest at hMarks
          exact absurd (hMarks ▸ hOtherRest)
            (not_resumes place _)
      | node _ _ _ otherLeft otherRight =>
          rw [marks_node, marks_node, List.cons_append,
            List.cons_append, List.append_assoc,
            List.append_assoc] at hMarks
          rcases ihLeft (hRest.left right)
              (hOtherRest.left otherRight)
              (List.cons.inj hMarks).2 with ⟨hLeft, hBehind⟩
          rcases ihRight hRest.right hOtherRest.right hBehind
            with ⟨hRight, hSame⟩
          exact ⟨.node hLeft hRight, hSame⟩

end Tree

------------------------------------------------------------
-- Drawings
------------------------------------------------------------

/- What stands in front of the content of a line. -/
def Line.guideText (line : Line) : String :=
  (line.spans.head?.map Span.text).getD ""

/- Texts in front of the nodes show the marks of the tree. -/
theorem marks_of_treeLines
    (isNew : Tree → Bool)
    (tree : Tree) :
    ((treeLines isNew tree).map fun line =>
        NodeMark.ofGuide line.guideText.toList) =
      tree.marks [] := by
  rw [treeLines_eq, List.map_map]
  refine List.map_congr_left fun place _ => ?_
  have hMark := NodeMark.ofGuide_follow tree place
  simpa [Hanging.line, Line.ofSpans, Line.guideText] using hMark

/- A node is drawn in the style of a new one if it is new. -/
theorem nodeStyle_eq_iff
    (color : Option Color)
    (isNew : Bool) :
    nodeStyle color isNew = cellStyle true ↔ isNew = true := by
  cases isNew <;> rcases color with _ | _ | _ <;> decide

/- The line of a place is the one that it has in the drawing. -/
theorem treeLines_getElem?
    (isNew : Tree → Bool)
    (tree : Tree)
    {n : Nat}
    {place : List Side}
    (hPlace : tree.places[n]? = some place) :
    (treeLines isNew tree)[n]? =
      some (((Hanging.root tree).follow place).line isNew) := by
  rw [treeLines_eq, List.getElem?_map, hPlace]
  rfl

/- The subtrees stand at the places in their order. -/
theorem Tree.subtrees_getElem?
    (tree : Tree)
    {n : Nat}
    {place : List Side}
    (hPlace : tree.places[n]? = some place) :
    tree.subtrees[n]? = some (tree.subtreeAt place) := by
  rw [subtrees_eq, List.getElem?_map, hPlace]
  rfl

/-
  The drawing of a tree has a line for each node in pre-order,
  with its value, drawn as a new one exactly if it is new.
  Trees with the same texts in front of the nodes have the
  same shape. In such a text, the branch to the node stands in
  the column of its depth and tells whether another child
  follows; a bar stands exactly in the columns of the nodes on
  the way to it, below the root, that another child follows.
-/
theorem drawing_determines
    (isNew : Tree → Bool)
    (tree : Tree) :
    ((treeLines isNew tree).length = tree.count ∧
      ∀ (n : Nat) (node : Tree),
        tree.subtrees[n]? = some node →
          ∃ guide,
            (treeLines isNew tree)[n]? =
                some
                  (Line.ofSpans
                    [ ⟨guide, muted⟩,
                      ⟨spaced (scalarText node.value).toList,
                        nodeStyle node.color (isNew node)⟩ ]) ∧
              (nodeStyle node.color (isNew node) =
                  cellStyle true ↔
                isNew node = true)) ∧
    (∀ (isNew' : Tree → Bool) (other : Tree),
      (treeLines isNew tree).map Line.guideText =
          (treeLines isNew' other).map Line.guideText →
        tree.SameShape other) ∧
    (∀ (n : Nat) (place : List Side),
      tree.places[n]? = some place →
        tree.subtrees[n]? = some (tree.subtreeAt place) ∧
          ∃ guide : List Char,
            (treeLines isNew tree)[n]?.map Line.guideText =
                some (String.ofList guide) ∧
              (place ≠ [] →
                guide[2 * place.length]? = some '├' ∧
                    tree.HasLaterSibling place ∨
                  guide[2 * place.length]? = some '└' ∧
                    ¬ tree.HasLaterSibling place) ∧
              ∀ column,
                guide[column]? = some '│' ↔
                  ∃ depth,
                    0 < depth ∧ depth < place.length ∧
                      column = 2 * depth ∧
                      tree.HasLaterSibling
                        (place.take depth)) := by
  refine ⟨⟨?_, fun n node hNode => ?_⟩,
    fun isNew' other hGuides => ?_,
    fun n place hPlace =>
      ⟨tree.subtrees_getElem? hPlace, ?_⟩⟩
  · rw [treeLines_eq, List.length_map, Tree.length_places]
  · rw [Tree.subtrees_eq, List.getElem?_map] at hNode
    rcases Option.map_eq_some_iff.mp hNode with
      ⟨place, hPlace, rfl⟩
    have hTree :=
      Hanging.tree_follow (Hanging.root tree) place
    change _ = tree.subtreeAt place at hTree
    refine
      ⟨String.ofList ((Hanging.root tree).follow place).guide,
        ?_, nodeStyle_eq_iff _ _⟩
    rw [treeLines_getElem? isNew tree hPlace, Hanging.line, hTree]
  · have hMarks :
        tree.marks [] = other.marks [] := by
      rw [← marks_of_treeLines isNew tree,
        ← marks_of_treeLines isNew' other]
      have hMapped :=
        congrArg
          (List.map fun text : String =>
            NodeMark.ofGuide text.toList)
          hGuides
      simpa only [List.map_map, Function.comp_def] using hMapped
    have hEnd : Tree.Resumes [] [] := nofun
    exact
      (Tree.sameShape_of_marks hEnd hEnd
        (congrArg (· ++ []) hMarks)).1
  · refine
      ⟨((Hanging.root tree).follow place).guide, ?_, ?_, ?_⟩
    · rw [treeLines_getElem? isNew tree hPlace]
      rfl
    · intro hBelow
      rcases List.eq_nil_or_concat' place with
        rfl | ⟨parent, side, rfl⟩
      · exact absurd rfl hBelow
      · exact Hanging.branch_guide tree parent side
    · intro column
      rw [Hanging.bar_guide_iff, Hanging.bar_iff]

end TracePlayer
