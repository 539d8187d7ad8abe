/-!
# Similar words

How alike two words are, and which of some words are close to a given one. Two words share their
longest common block, and to the left and to the right of it what they share there in the same way;
the likeness of the words is the share of their characters that they have in common.
-/

set_option autoImplicit false

namespace Enclosure.Similarity

/-- A block that two texts share: where it starts in each of them, and its length. -/
structure Block where
  first : Nat
  second : Nat
  length : Nat

/-- The number of characters with which two texts start alike. -/
def commonStart : List Char → List Char → Nat
  | a :: as, b :: bs => if a = b then commonStart as bs + 1 else 0
  | _, _ => 0

/-- The longer of two blocks, the first one if they are equally long. -/
def longer (a b : Block) : Block :=
  if a.length < b.length then b else a

/-- The longest block that two texts share; among equally long ones the one that starts first in the
first text, and of those the first one in the second text. -/
def longestBlock (as bs : List Char) : Block :=
  let blocks := (List.range as.length).flatMap fun i => (List.range bs.length).map fun j =>
    (⟨i, j, commonStart (as.drop i) (bs.drop j)⟩ : Block)
  blocks.foldl longer ⟨0, 0, 0⟩

/-- The number of characters that two texts share. Every block takes at least one character of the
first text, so its length bounds the depth of the search. -/
def sharedWithin : Nat → List Char → List Char → Nat
  | 0, _, _ => 0
  | depth + 1, as, bs =>
    let block := longestBlock as bs
    if block.length = 0 then 0
    else
      sharedWithin depth (as.take block.first) (bs.take block.second) + block.length
        + sharedWithin depth (as.drop (block.first + block.length))
          (bs.drop (block.second + block.length))

/-- How alike two words are, as a fraction. -/
structure Likeness where
  shared : Nat
  total : Nat

namespace Likeness

/-- The likeness of two words. -/
def of (a b : String) : Likeness :=
  ⟨2 * sharedWithin a.length a.toList b.toList, a.length + b.length⟩

/-- Whether words are close: at least three fifths of their characters are shared. -/
def isClose (l : Likeness) : Bool :=
  3 * l.total ≤ 5 * l.shared

/-- Whether a likeness is less than another one. -/
def isLess (l m : Likeness) : Bool :=
  l.shared * m.total < m.shared * l.total

end Likeness

/-- Whether a word with its likeness comes before another one: more alike, or as alike and later in
the alphabet. -/
def comesFirst (a b : Likeness × String) : Bool :=
  if Likeness.isLess a.1 b.1 then false
  else if Likeness.isLess b.1 a.1 then true
  else !(a.2 < b.2)

/-- The words that are close to a given one, at most three of them, in the order of the alphabet. -/
def closest (words : List String) (word : String) : List String :=
  let close := (words.map fun w => (Likeness.of w word, w)).filter fun w => w.1.isClose
  (((close.mergeSort comesFirst).take 3).map Prod.snd).mergeSort fun a b => !(b < a)

end Enclosure.Similarity
