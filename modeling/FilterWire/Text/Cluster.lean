import FilterWire.Text.Width

/-!
# Clusters

A text is cut only between its clusters: a character that takes cells, with the marks, selectors
and joined characters after it.  What takes no cell at the beginning of a text is a cluster too.
`flatMap_clusters` says that the clusters, put together, are the text.
-/

namespace FilterWire

/-- Characters that stay together, and the cells they take. -/
structure Cluster where
  text : Text
  cells : Nat

namespace Text

/-- `back` holds the open cluster backwards, `cells` its width, and `last` the character that a
selector would act on. -/
def clustersFrom (back : Text) (cells : Nat) (last : Option Char) : Text → List Cluster
  | [] => [⟨back.reverse, cells⟩]
  | c :: r =>
    if c = zeroWidthJoiner then
      match r with
      | [] => [⟨(c :: back).reverse, cells⟩]
      | d :: r => clustersFrom (d :: c :: back) cells last r
    else if c = emojiSelector then clustersFrom (c :: back) (cells + emojiCells last) none r
    else
      match cellsOf c with
      | 0 => clustersFrom (c :: back) cells last r
      | n + 1 => ⟨back.reverse, cells⟩ :: clustersFrom [c] (n + 1) (some c) r

/-- The clusters of a text.  A joiner at the very beginning has nothing to join to and stands for
itself. -/
def clusters : Text → List Cluster
  | [] => []
  | c :: r =>
    match cellsOf c with
    | 0 => clustersFrom [c] 0 none r
    | n + 1 => clustersFrom [c] (n + 1) (some c) r

theorem flatMap_clustersFrom (back : Text) (cells : Nat) (last : Option Char) (t : Text) :
    (clustersFrom back cells last t).flatMap Cluster.text = back.reverse ++ t := by
  fun_induction clustersFrom back cells last t <;> simp_all

/-- Cutting a text into clusters loses and adds nothing. -/
theorem flatMap_clusters (t : Text) : t.clusters.flatMap Cluster.text = t := by
  fun_cases clusters t <;> simp [flatMap_clustersFrom]

end Text

end FilterWire
