/-!
# Similar words

How similar two words are, from the characters that they share at about the same
place and the order of those characters: the similarity of Jaro. It is what a
mistyped name is compared by with the names that exist.
-/

namespace StreamPlot

/-- How far apart two places may be at which words of these lengths share a character. -/
def sharingReach (first second : Nat) : Nat :=
  max first second / 2 - 1

/-- The first place at or behind `place`, and before `bound`, that holds `letter` and
is not taken yet. -/
def freePlace? (letter : Char) (bound place : Nat) : List (Char × Bool) → Option Nat
  | [] => none
  | (other, taken) :: rest =>
      if bound ≤ place then none
      else if other = letter && !taken then some place
      else freePlace? letter bound (place + 1) rest

/-- Mark for every character of the first word, in order, the first free place within
reach where the second word has it too. The result tells which characters of
either word are shared. -/
def markShared (reach : Nat) : (place : Nat) → (first : List Char) →
    (second : List (Char × Bool)) → List (Char × Bool) × List (Char × Bool)
  | _, [], second => ([], second)
  | place, letter :: first, second =>
      let start := place - reach
      match freePlace? letter (place + reach + 1) start (second.drop start) with
      | some found =>
          let (marked, second) :=
            markShared reach (place + 1) first (second.set found (letter, true))
          ((letter, true) :: marked, second)
      | none =>
          let (marked, second) := markShared reach (place + 1) first second
          ((letter, false) :: marked, second)

def markedLetters (letters : List (Char × Bool)) : List Char :=
  letters.filterMap fun (letter, marked) => if marked then some letter else none

/-- The similarity of two words: 1 for equal words and 0 for words that share nothing. -/
def similarity (first second : String) : Float :=
  let one := first.toList
  let two := second.toList
  if one.isEmpty && two.isEmpty then 1.0
  else
    let (one, two) := markShared (sharingReach one.length two.length) 0 one
      (two.map fun letter => (letter, false))
    let sharedOne := markedLetters one
    let sharedTwo := markedLetters two
    let shared := sharedOne.length
    let moved := ((sharedOne.zip sharedTwo).countP fun (a, b) => a != b) / 2
    if shared = 0 then 0.0
    else
      (shared.toFloat / one.length.toFloat + shared.toFloat / two.length.toFloat
        + (shared - moved).toFloat / shared.toFloat) / 3.0

/-- The word of a list that is most similar to a word, the last of several, if any is
similar enough to be what was meant. -/
def mostSimilar? (word : String) (names : List String) : Option String :=
  let better (best : Option (Float × String)) (name : String) :=
    let degree := similarity word name
    match best with
    | none => if degree > 0.7 then some (degree, name) else none
    | some (most, kept) => if degree > 0.7 && degree ≥ most then some (degree, name)
        else some (most, kept)
  (names.foldl better none).map Prod.snd

end StreamPlot
