import Throttle.Binary64.Basic

/-! # Jaro similarity of words

The Jaro similarity of two words says how alike they are, from 0 (nothing shared) to 1
(equal). A character of the first word matches the first free equal character of the
second that lies within a window around its position: half the longer length, less one.
With `m` matches, of which `t` pairs stand in a different order, the similarity is
`(m / |a| + m / |b| + (m - t) / m) / 3`, computed in binary64 in that order. Two empty
words are equal; an empty word shares nothing with another.

`closest?` picks, among candidate words, the one most like a given word, provided it is
more than 0.7 alike; of equally alike candidates it takes the last.
-/

namespace Throttle

namespace Text

/-- Match each character of `a`, in turn, with the first free equal character of `b` within
`range` of its position: the flags of the characters of `a` and of `b` that matched. -/
def jaroMatches (a b : List Char) (range : Nat) : List Bool × List Bool :=
  let step (acc : List Bool × List Bool) (p : Char × Nat) : List Bool × List Bool :=
    let (fa, fb) := acc
    let (c, i) := p
    let lo := i - range
    let hi := min b.length (i + range + 1)
    let free := (b.zipIdx.zip fb).find? fun ((d, j), taken) =>
      decide (lo ≤ j) && decide (j < hi) && d == c && !taken
    match free with
    | some ((_, j), _) => (fa ++ [true], fb.set j true)
    | none => (fa ++ [false], fb)
  a.zipIdx.foldl step ([], b.map fun _ => false)

/-- The characters whose flag is set, in order. -/
def flagged (cs : List Char) (flags : List Bool) : List Char :=
  (cs.zip flags).filterMap fun (c, f) => if f then some c else none

/-- Half the number of places where the matched characters of the two words differ. -/
def jaroTranspositions (a b : List Char) (fa fb : List Bool) : Nat :=
  ((flagged a fa).zip (flagged b fb)).countP (fun (x, y) => x != y) / 2

/-- The Jaro similarity of two words. -/
def jaro (a b : String) : Binary64 :=
  let a := a.toList
  let b := b.toList
  if a.isEmpty && b.isEmpty then 1
  else if a.isEmpty || b.isEmpty then 0
  else
    let (fa, fb) := jaroMatches a b (max a.length b.length / 2 - 1)
    let m := fa.count true
    if m = 0 then 0
    else
      let t := jaroTranspositions a b fa fb
      let f := Binary64.ofNat
      (f m / f a.length + f m / f b.length + f (m - t) / f m) / 3

/-- The candidate most like `word`, if one is more than 0.7 alike; the last of equals. -/
def closest? (word : String) (candidates : List String) : Option String :=
  let best := candidates.foldl (fun (best : Option (String × Binary64)) c =>
    let s := jaro word c
    if Binary64.lt 0.7 s then
      match best with
      | some (_, bs) => if Binary64.le bs s then some (c, s) else best
      | none => some (c, s)
    else best) none
  best.map (·.1)

end Text

end Throttle
