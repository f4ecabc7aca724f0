import Conform.Unicode.Age
import Conform.Unicode.Break
import Conform.Unicode.Folding
import Conform.Unicode.Property
import Conform.Unicode.ScriptExtension
/-!
# Sets of characters

The sets of characters that a pattern can name, built from ranges and character properties with the
operations of sets. To decide whether a character is in a set, `contains` need not list it; `ranges`
lists it.
-/

namespace Conform.Regex

inductive CharSet where
  | range (first last : Char)
  | category (categories : List Unicode.Category)
  | script (code : String)
  /-- The characters that a script uses. -/
  | scriptUse (code : String)
  | breakPart (kind : Unicode.Break) (code : String)
  /-- The characters of a version and of all earlier ones. -/
  | since (version : Nat)
  | property (property : Unicode.Property)
  | union (s t : CharSet)
  | inter (s t : CharSet)
  | diff (s t : CharSet)
  | compl (s : CharSet)
  /-- The characters that agree with one of the set when case is ignored; without `unicode` only
  those of ASCII. -/
  | folded (unicode : Bool) (s : CharSet)
deriving DecidableEq, Repr

namespace CharSet

def contains : CharSet → Char → Bool
  | range first last, c => first ≤ c && c ≤ last
  | category categories, c => categories.contains (Unicode.category c)
  | script code, c => Unicode.script c = code
  | scriptUse code, c => Unicode.Script.uses code c
  | breakPart kind code, c => kind.code c = code
  | since version, c => (Unicode.age? c).any (· ≤ version)
  | property p, c => p.holds c
  | union s t, c => s.contains c || t.contains c
  | inter s t, c => s.contains c && t.contains c
  | diff s t, c => s.contains c && !t.contains c
  | compl s, c => !s.contains c
  | folded unicode s, c =>
    (unicode || c.val < 128) && (Unicode.orbit c.toNat).any fun n => s.contains (Char.ofNat n)

def single (c : Char) : CharSet := range c c

def all : CharSet := range '\x00' (Char.ofNat 0x10FFFF)

def empty : CharSet := compl all

def ascii : CharSet := range '\x00' '\x7f'

def symmDiff (s t : CharSet) : CharSet := union (diff s t) (diff t s)

def ofList (sets : List CharSet) : CharSet := sets.foldl union empty

/-- The characters that agree with one when case is ignored; without `unicode` only those of
ASCII. -/
def variants (unicode : Bool) (c : Char) : CharSet :=
  let points := (Unicode.orbit c.toNat).filter fun n => unicode || n < 128
  ofList (points.map fun n => single (Char.ofNat n))

/-! ## Folding -/

/-- Whether it is plain that folding adds nothing to the set. -/
def isFolded (unicode : Bool) : CharSet → Bool
  | folded u _ => u == unicode
  | union s t | inter s t | diff s t => s.isFolded unicode && t.isFolded unicode
  | compl s => s == all || s.isFolded unicode
  | _ => false

/-- The union of two sets of which each may be missing. -/
def join? : Option CharSet → Option CharSet → Option CharSet
  | some s, some t => some (union s t)
  | s?, none => s?
  | none, t? => t?

/-- The members of a union to which folding adds nothing, and the other ones without the foldings
that have been applied to them. -/
def unfold (unicode : Bool) : CharSet → Option CharSet × Option CharSet
  | union s t =>
    let left := s.unfold unicode
    let right := t.unfold unicode
    (join? left.1 right.1, join? left.2 right.2)
  | folded u s => if u = unicode then (none, some s) else (none, some (folded u s))
  | s => if s.isFolded unicode then (some s, none) else (none, some s)

/-- Adds to a set what agrees with its characters when case is ignored. A set that has been folded
is not folded again, so that sets inside sets do not take ever longer. -/
def fold (unicode : Bool) (s : CharSet) : CharSet :=
  match s.unfold unicode with
  | (some closed, some other) => union closed (folded unicode other)
  | (none, some other) => folded unicode other
  | (some closed, none) => closed
  | (none, none) => s

/-! ## Listing -/

open Unicode

/-- The code points of a set and of others that are listed already, in no particular order. -/
def listed : CharSet → List Range → List Range
  | range first last, others => ⟨first.toNat, last.toNat⟩ :: others
  | category categories, others => Category.table.ranges categories.contains ++ others
  | script code, others => Script.table.ranges (· = code) ++ others
  | scriptUse code, others => Script.useRanges code ++ others
  | breakPart kind code, others => kind.table.ranges (· = code) ++ others
  | since version, others => Age.table.ranges (·.any (· ≤ version)) ++ others
  | property p, others => p.ranges ++ others
  | union s t, others => s.listed (t.listed others)
  | inter s t, others =>
    Ranges.inter (Ranges.ofList (s.listed [])) (Ranges.ofList (t.listed [])) ++ others
  | diff s t, others => Ranges.diff (Ranges.ofList (s.listed [])) (t.listed []) ++ others
  | compl s, others => Ranges.compl (Ranges.ofList (s.listed [])) ++ others
  | folded unicode s, others => Folding.closure unicode (Ranges.ofList (s.listed [])) ++ others

/-- The canonical list of the characters of a set. -/
def ranges (s : CharSet) : List Range := Ranges.characters (Ranges.ofList (s.listed []))

/-! ## Named sets -/

/-- Decimal digits, of all scripts. -/
def digit : CharSet := category [.decimalNumber]

/-- White space. -/
def space : CharSet := property .whiteSpace

/-- The characters of words: letters, marks, decimal digits and connectors. -/
def word : CharSet :=
  union (union (property .alphabetic) (property .joinControl))
    (category (Unicode.Category.marks ++ [.decimalNumber, .connectorPunctuation]))

def asciiDigit : CharSet := range '0' '9'

def asciiLower : CharSet := range 'a' 'z'

def asciiUpper : CharSet := range 'A' 'Z'

def asciiAlpha : CharSet := union asciiUpper asciiLower

def asciiAlnum : CharSet := union asciiDigit asciiAlpha

def asciiSpace : CharSet := union (range '\t' '\r') (single ' ')

def asciiWord : CharSet := union asciiAlnum (single '_')

/-- The ASCII characters that are seen and are neither letters nor digits. -/
def asciiPunct : CharSet := diff (range '!' '~') asciiAlnum

/-- The ASCII sets that have a name between `[:` and `:]`. -/
def asciiNamed : List (String × CharSet) :=
  [("alnum", asciiAlnum), ("alpha", asciiAlpha), ("ascii", ascii),
    ("blank", union (single '\t') (single ' ')),
    ("cntrl", union (range '\x00' '\x1f') (single '\x7f')), ("digit", asciiDigit),
    ("graph", range '!' '~'), ("lower", asciiLower), ("print", range ' ' '~'),
    ("punct", asciiPunct), ("space", asciiSpace), ("upper", asciiUpper), ("word", asciiWord),
    ("xdigit", union asciiDigit (union (range 'a' 'f') (range 'A' 'F')))]

end CharSet

end Conform.Regex
