/-! # Jaro similarity of words

A mistyped subcommand or option name is answered with the known names that resemble it.
Resemblance is the Jaro similarity: characters of the two words match when they are equal
and no further apart than half the longer length less one, each character matching at most
once; with `m` matches and `t` half the number of matched pairs that are out of order, the
similarity is `(m / |a| + m / |b| + (m - t) / m) / 3`. It is computed in binary floating
point, as the tie between two names and the threshold 0.7 are decided on that value.
-/

namespace SealedMail.Cli

/-- The positions of `b` matched by the characters of `a`, greedily from the left: the
flags of `a` and the flags of `b`. -/
def jaroFlags (a b : Array Char) : Array Bool × Array Bool :=
  let window := max a.size b.size / 2 - 1
  (List.range a.size).foldl (fun (acc : Array Bool × Array Bool) i =>
    let (fa, fb) := acc
    let lo := i - window
    let hi := min b.size (i + window + 1)
    match (List.range' lo (hi - lo)).find? (fun j => a[i]! == b[j]! && !fb[j]!) with
    | some j => (fa.set! i true, fb.set! j true)
    | none => (fa, fb)) (Array.replicate a.size false, Array.replicate b.size false)

/-- The matched characters of a word, in order. -/
def matchedChars (w : Array Char) (flags : Array Bool) : List Char :=
  ((w.toList.zip flags.toList).filter (·.2)).map (·.1)

/-- The Jaro similarity of two words, between 0 and 1. -/
def jaro (a b : String) : Float :=
  let a := a.toList.toArray
  let b := b.toList.toArray
  if a.size == 0 && b.size == 0 then 1.0
  else if a.size == 0 || b.size == 0 then 0.0
  else
    let (fa, fb) := jaroFlags a b
    let ma := matchedChars a fa
    let mb := matchedChars b fb
    let m := ma.length
    let t := ((ma.zip mb).filter (fun p => p.1 != p.2)).length / 2
    if m == 0 then 0.0
    else
      let mf := m.toFloat
      (mf / a.size.toFloat + mf / b.size.toFloat + (m - t).toFloat / mf) / 3.0

/-- The names that resemble a word (similarity above 0.7), least similar first; names of
equal similarity keep their order. -/
def similarNames (word : String) (names : List String) : List String :=
  let scored := (names.map (fun n => (jaro word n, n))).filter (fun p => p.1 > 0.7)
  (scored.mergeSort (fun p q => p.1 ≤ q.1)).map (·.2)

/-- The name most like a word, if one resembles it; of equal ones, the last. -/
def closestName? (word : String) (names : List String) : Option String :=
  (similarNames word names).getLast?

end SealedMail.Cli
