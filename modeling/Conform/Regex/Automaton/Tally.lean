import Std.Data.HashMap
/-!
# Room for states

The automaton of a pattern is not built but only sized up: its states are counted, and the room that
they and the links between them take up. Counting ends when there is too much.
-/

namespace Conform.Regex

/-- A link of a state: the first and the last byte that it takes, and the state it leads to; or, in
an automaton that reads backwards, that state first. -/
abbrev Link := Nat × Nat × Nat

structure Tally where
  /-- The number of states so far, which is also the number of the next state. -/
  states : Nat := 0
  /-- The bytes that the states take up. -/
  room : Nat := 0
  /-- States with their links, which can serve again. Each has a slot, and a slot has room for one
  of them. -/
  known : Std.HashMap Nat (List Link × Nat) := ∅

/-- Counts, unless there is too much. -/
abbrev Count := StateT Tally Option

namespace Tally

/-- The room there is for states. -/
def limit : Nat := 10485760

/-- Counts states and the room for further bytes. -/
def add (states bytes : Nat) : Count Unit := fun tally =>
  let room := tally.room + 32 * states + bytes
  if limit < room then none
  else some ((), { tally with states := tally.states + states, room })

/-- Counts a state with `links` links of its own, of any bytes each. It is the number of the
state. -/
def addState (links : Nat) : Count Nat := do
  let tally ← get
  add 1 (8 * links)
  return tally.states

/-- Counts links of a state that forks. -/
def addForks (links : Nat) : Count Unit := add 0 (4 * links)

/-- The slot of a state among a number of them: a hash of its links. -/
def slot (slots : Nat) (links : List Link) : Nat :=
  let mix (h : UInt64) (n : Nat) : UInt64 := (h ^^^ n.toUInt64) * 1099511628211
  let hash := links.foldl (fun h (a, b, c) => mix (mix (mix h a) b) c) 14695981039346656037
  hash.toNat % slots

/-- Counts a state with links, unless the last one in its slot has the same links. -/
def addShared (slots : Nat) (links : List Link) (ownLinks : Nat) : Count Nat := do
  let slot := slot slots links
  match (← get).known[slot]? with
  | some (known, state) => if known = links then return state
  | none => pure ()
  let state ← addState ownLinks
  modify fun tally => { tally with known := tally.known.insert slot (links, state) }
  return state

end Tally

end Conform.Regex
