import Conform.Regex.Automaton.Bytes
import Conform.Regex.Automaton.Tally
/-!
# States for sets and literals

The states with which an automaton takes the bytes of a character of a set, or of one of several
literals. Encodings that begin alike share states, or in an automaton that reads backwards, those
that end alike.
-/

namespace Conform.Regex

open Unicode (Range)

/-! ## Sets -/

namespace Tally

/-- Groups encodings that follow each other and begin with the same range. -/
def grouped : List (List Range) → List (Range × List (List Range))
  | [] => []
  | [] :: encodings => grouped encodings
  | (r :: rest) :: encodings =>
    match grouped encodings with
    | (s, rests) :: groups =>
      if r = s then (s, rest :: rests) :: groups else (r, [rest]) :: (s, rests) :: groups
    | [] => [(r, [rest])]

mutual

/-- Counts the states that take encodings of at most `length` bytes and lead to `target` then. -/
def addEncodings (target : Nat) : (length : Nat) → List (List Range) → Count Nat
  | 0, _ => return target
  | length + 1, encodings =>
    if encodings.all (·.isEmpty) then return target
    else do
      let links ← addGroups target length (grouped encodings)
      addShared 10000 links links.length

/-- Counts the states behind ranges of first bytes, and gives the links to them. -/
def addGroups (target length : Nat) :
    List (Range × List (List Range)) → Count (List Link)
  | [] => return []
  | (r, rests) :: groups => do
    let state ← addEncodings target length rests
    let links ← addGroups target length groups
    return (r.first, r.last, state) :: links

end

/-- Counts the states that take an encoding backwards. -/
def addBackwards (target : Nat) (encoding : List Range) : Count Nat :=
  encoding.foldlM (fun state r => addShared 1000 [(state, r.first, r.last)] 0) target

/-- Counts the states that take a character of a set. The answer is whether the last one forks. -/
def addSet (backwards : Bool) (ranges : List Range) : Count Bool := do
  if ranges.all (·.last < 0x80) then
    let _ ← addState 0
    let _ ← addState ranges.length
    return false
  let encodings := ranges.flatMap byteSequences
  if backwards then
    let _ ← addState 0
    let target ← addState 0
    for encoding in encodings do
      let _ ← addBackwards target encoding
      addForks 1
    return false
  let target ← addState 0
  let _ ← addEncodings target 4 encodings
  return false

/-! ## Literals -/

/-- Splits words at those that are empty. -/
def splitAtEnds : List (List Nat) → List (List (List Nat))
  | [] => [[]]
  | [] :: words => [] :: splitAtEnds words
  | word :: words =>
    match splitAtEnds words with
    | segment :: segments => (word :: segment) :: segments
    | [] => [[word]]

/-- The segments of the words that can follow in a place. A word that ends in the place comes after
those before it and before those behind it; at the front, it does not matter how many end. -/
def segments (words : List (List Nat)) : List (List (List Nat)) :=
  splitAtEnds ((words.takeWhile (·.isEmpty)).take 1 ++ words.dropWhile (·.isEmpty))

/-- The first bytes of words, with what may follow each of them. -/
def branches (words : List (List Nat)) : List (List (List Nat)) :=
  let bytes := (words.filterMap List.head?).eraseDups
  bytes.map fun byte => (words.filter (·.head? = some byte)).map List.tail

/-- Counts the states that take one of some words of at most `length` bytes each. -/
def addWords : (length : Nat) → List (List Nat) → Count Unit
  | 0, _ => return ()
  | length + 1, words => do
    if words.all (·.isEmpty) then return ()
    let segments := segments words
    for segment in segments do
      let branches := branches segment
      for rests in branches do
        addWords length rests
      match branches.length with
      | 0 => pure ()
      | 1 => let _ ← addState 0
      | n => let _ ← addState n
    let forks := (segments.filter (!·.isEmpty)).length + (segments.length - 1)
    if forks ≠ 1 then
      let _ ← addState 0
      addForks forks

/-- Counts the states that take one of some literals. -/
def addLiterals (backwards : Bool) (literals : List (List Char)) : Count Unit := do
  let _ ← addState 0
  let words := literals.map fun text => text.flatMap fun c => utf8 c.toNat
  let words := if backwards then words.map List.reverse else words
  addWords (words.foldl (fun n word => max n word.length) 0) words

end Tally

end Conform.Regex
