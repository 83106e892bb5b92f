import TypedPath.Query

/-! Parse trees and the expressions built from them. Read back part by part, an expression gives the
tree it was built from, but for the bare literals in paths: these are indexes and come back as
operations of their own. The expression is written as that tree is. -/

namespace TypedPath

mutual

def Expr.toTree : Expr → Tree
  | .literal parts => .operation .literal (toTrees parts)
  | .operator parts => .operation .operator (toTrees parts)
  | .path parts => .operation .path (toTrees parts)
  | .call parts => .operation .call (toTrees parts)

def Part.toTree : Part → Tree
  | .literal value => .literal value
  | .null => .null
  | .operator op => .operator op
  | .segment name => .segment name
  | .method name => .method name
  | .expr expr => expr.toTree

def toTrees : List Part → List Tree
  | [] => []
  | part :: parts => part.toTree :: toTrees parts

end

mutual

/-- The tree with an operation around each bare literal that is a step of a path, at every depth. -/
def Tree.indexed : Tree → Tree
  | .operation kind children => .operation kind (indexedChildren (kind == .path) children)
  | leaf => leaf

def indexedChildren (inPath : Bool) : List Tree → List Tree
  | [] => []
  | .literal value :: rest =>
    (if inPath then .value value else .literal value) :: indexedChildren inPath rest
  | child :: rest => child.indexed :: indexedChildren inPath rest

end

mutual

def Tree.isIndexed : Tree → Bool
  | .operation kind children => childrenIndexed (kind == .path) children
  | _ => true

def childrenIndexed (inPath : Bool) : List Tree → Bool
  | [] => true
  | .literal _ :: rest => !inPath && childrenIndexed inPath rest
  | child :: rest => child.isIndexed && childrenIndexed inPath rest

end

theorem Expr.toTree_ofKind (kind : ExprKind) (parts : List Part) :
    (Expr.ofKind kind parts).toTree = .operation kind (toTrees parts) := by
  cases kind <;> rfl

theorem Expr.toTree_eq (expr : Expr) :
    expr.toTree = .operation expr.kind (toTrees expr.parts) := by
  cases expr <;> rfl

mutual

theorem Tree.toTree_toPart : (tree : Tree) → tree.toPart.toTree = tree.indexed
  | .literal _ | .null | .operator _ | .segment _ | .method _ => rfl
  | .operation kind children => by
      rw [Tree.toPart, Part.toTree, Expr.toTree_ofKind, Tree.indexed,
        toTrees_toParts (kind == .path) children]

theorem toTrees_toParts (inPath : Bool) : (children : List Tree) →
    toTrees (toParts inPath children) = indexedChildren inPath children
  | [] => rfl
  | .literal value :: rest => by
      rw [toParts, toTrees, indexedChildren, toTrees_toParts inPath rest]
      cases inPath <;> rfl
  | .null :: rest | .operator _ :: rest | .segment _ :: rest | .method _ :: rest => by
      rw [toParts, toTrees, indexedChildren, toTrees_toParts inPath rest]
      · rfl
      · simp
      · simp
  | .operation kind children :: rest => by
      rw [toParts, toTrees, indexedChildren, toTrees_toParts inPath rest,
        Tree.toTree_toPart (.operation kind children)]
      · simp
      · simp

end

mutual

theorem Tree.toPart_indexed : (tree : Tree) → tree.indexed.toPart = tree.toPart
  | .literal _ | .null | .operator _ | .segment _ | .method _ => rfl
  | .operation kind children => by
      rw [Tree.indexed, Tree.toPart, Tree.toPart, toParts_indexed (kind == .path) children]

theorem toParts_indexed (inPath : Bool) : (children : List Tree) →
    toParts inPath (indexedChildren inPath children) = toParts inPath children
  | [] => rfl
  | .literal value :: rest => by
      have later := toParts_indexed inPath rest
      cases inPath with
      | true => simpa [indexedChildren, toParts, Tree.value, Tree.toPart, Expr.ofKind] using later
      | false => simpa [indexedChildren, toParts] using later
  | .null :: rest | .operator _ :: rest | .segment _ :: rest | .method _ :: rest => by
      have later := toParts_indexed inPath rest
      simpa [indexedChildren, Tree.indexed, toParts] using later
  | .operation kind children :: rest => by
      have here := Tree.toPart_indexed (.operation kind children)
      have later := toParts_indexed inPath rest
      rw [Tree.indexed] at here
      simp [indexedChildren, Tree.indexed, toParts, here, later]

end

mutual

theorem Tree.indexed_of_isIndexed : (tree : Tree) → tree.isIndexed = true → tree.indexed = tree
  | .literal _, _ | .null, _ | .operator _, _ | .segment _, _ | .method _, _ => rfl
  | .operation kind children, given => by
      rw [Tree.isIndexed] at given
      rw [Tree.indexed, indexedChildren_of_indexed (kind == .path) children given]

theorem indexedChildren_of_indexed (inPath : Bool) : (children : List Tree) →
    childrenIndexed inPath children = true → indexedChildren inPath children = children
  | [], _ => rfl
  | .literal value :: rest, given => by
      rw [childrenIndexed, Bool.and_eq_true] at given
      obtain rfl : inPath = false := by simpa using given.1
      rw [indexedChildren, indexedChildren_of_indexed false rest given.2]
      rfl
  | .null :: rest, given | .operator _ :: rest, given | .segment _ :: rest, given
  | .method _ :: rest, given => by
      have others : childrenIndexed inPath rest = true := by
        simpa [childrenIndexed, Tree.isIndexed] using given
      simp [indexedChildren, Tree.indexed, indexedChildren_of_indexed inPath rest others]
  | .operation kind children :: rest, given => by
      rw [childrenIndexed, Bool.and_eq_true] at given
      · rw [indexedChildren, Tree.indexed_of_isIndexed _ given.1,
          indexedChildren_of_indexed inPath rest given.2]
        simp
      · simp

end

mutual

theorem Expr.text_toTree : (expr : Expr) → expr.toTree.text = expr.text
  | .literal parts => by rw [Expr.toTree, Tree.text, Expr.text, texts_toTrees parts]
  | .operator parts => by rw [Expr.toTree, Tree.text, Expr.text, texts_toTrees parts]
  | .path parts => by rw [Expr.toTree, Tree.text, Expr.text, stepTexts_toTrees true parts]
  | .call [] => rfl
  | .call (name :: arguments) => by
      rw [Expr.toTree, toTrees, Tree.text, Expr.text, Part.text_toTree name,
        texts_toTrees arguments]

theorem Part.text_toTree : (part : Part) → part.toTree.text = part.text
  | .literal _ | .null | .operator _ | .segment _ | .method _ => rfl
  | .expr expr => by rw [Part.toTree, Part.text, Expr.text_toTree expr]

theorem texts_toTrees : (parts : List Part) → Tree.texts (toTrees parts) = partTexts parts
  | [] => rfl
  | part :: parts => by
      rw [toTrees, Tree.texts, partTexts, Part.text_toTree part, texts_toTrees parts]

theorem stepTexts_toTrees (first : Bool) : (parts : List Part) →
    Tree.stepTexts first (toTrees parts) = pathText first parts
  | [] => rfl
  | .expr expr :: rest => by
      rw [toTrees, Part.toTree, expr.toTree_eq, Tree.stepTexts, ← expr.toTree_eq, pathText,
        Expr.text_toTree expr, stepTexts_toTrees false rest]
  | .literal _ :: rest | .null :: rest | .operator _ :: rest | .segment _ :: rest
  | .method _ :: rest => by
      simp [toTrees, Part.toTree, Tree.stepTexts, Tree.text, pathText, Part.text,
        stepTexts_toTrees false rest]

end

/-- From a tree with an operation at its root an expression is built, and the same one from the tree
with operations around its bare indexes. The expression reads back as that tree and is written like
it, so it is written like the tree it was built from where that has no bare indexes. -/
theorem building_loses_nothing (kind : ExprKind) (children : List Tree) :
    ∃ expr, (Tree.operation kind children).toExpr = .ok expr ∧
      (Tree.operation kind children).indexed.toExpr = .ok expr ∧
      expr.toTree = (Tree.operation kind children).indexed ∧
      expr.text = (Tree.operation kind children).indexed.text ∧
      ((Tree.operation kind children).isIndexed = true →
        expr.text = (Tree.operation kind children).text) := by
  have back : (Expr.ofKind kind (toParts (kind == .path) children)).toTree =
      (Tree.operation kind children).indexed := (Tree.operation kind children).toTree_toPart
  have written := congrArg Tree.text back
  rw [Expr.text_toTree] at written
  refine ⟨_, rfl, ?_, back, written, ?_⟩
  · rw [Tree.indexed, Tree.toExpr, Tree.toExpr?, toParts_indexed]
  · intro given
    rw [written, Tree.indexed_of_isIndexed _ given]

/-- The label behind a place on a shelf: `shelf[row + 1]/label`. -/
def shelfLabel : Tree :=
  .operation .path [.segment "shelf",
    .operation .operator [.path ["row"], .operator .add, .literal (.integer 1)], .segment "label"]

theorem building_loses_nothing_shelfLabel :
    shelfLabel.isIndexed = true ∧
      ∃ expr, shelfLabel.toExpr = .ok expr ∧ expr.text = "shelf[row + 1]/label" := by
  have given : shelfLabel.isIndexed = true := rfl
  obtain ⟨expr, built, _, _, _, same⟩ := building_loses_nothing .path
    [.segment "shelf", .operation .operator [.path ["row"], .operator .add, .literal (.integer 1)],
      .segment "label"]
  exact ⟨given, expr, built, same given⟩

/-- A bare index is written as a step in a tree and in brackets in its expression. -/
example :
    (Tree.operation .path [.segment "shelf", .literal (.integer 1)]).text = "shelf/1" ∧
      (Tree.operation .path [.segment "shelf", .literal (.integer 1)]).indexed.text = "shelf[1]" :=
  ⟨rfl, rfl⟩

end TypedPath
