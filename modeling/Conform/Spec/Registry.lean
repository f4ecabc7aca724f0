import Conform.Rule.Chain
import Conform.Spec.Token
import Std.Data.TreeMap
/-!
# Registries of rules

A registry binds names to constructors, which make a rule of the arguments of a token. Chains are
compiled from specifications against a registry. The names `bail` and `nullable` set the modes of
the chain; a registry has no say in them.
-/

namespace Conform

/-- Makes a rule of arguments, or refuses them. -/
abbrev Constructor := List Argument → Except SpecError Rule

structure Registry where
  constructors : Std.TreeMap String Constructor := ∅

namespace Registry

instance : EmptyCollection Registry := ⟨{}⟩

def get? (registry : Registry) (name : String) : Option Constructor := registry.constructors[name]?

def contains (registry : Registry) (name : String) : Bool := registry.constructors.contains name

def size (registry : Registry) : Nat := registry.constructors.size

/-- The names that are bound, in ascending order. -/
def names (registry : Registry) : List String := registry.constructors.keys

/-- Binds a name, in place of what it was bound to. -/
def register (registry : Registry) (name : String) (constructor : Constructor) : Registry :=
  ⟨registry.constructors.insert name constructor⟩

/-- Binds a name to the constructor that another name has now. An unbound target changes nothing. -/
def registerAlias (registry : Registry) (name target : String) : Registry :=
  match registry.get? target with
  | some constructor => registry.register name constructor
  | none => registry

def ofList (entries : List (String × Constructor)) : Registry :=
  entries.foldl (fun r e => r.register e.1 e.2) ∅

/-- The rule of a token. -/
def construct (registry : Registry) (token : Token) : Except SpecError Rule :=
  match registry.get? token.name with
  | some constructor => constructor token.args
  | none => .error (.unknownRule token.name)

/-- What one token adds to a chain: a mode or a rule. -/
def addToken (registry : Registry) (chain : Chain) (token : Token) : Except SpecError Chain :=
  if token.name = "bail" ∨ token.name = "nullable" then
    if token.args = [] then
      .ok { chain with
        bail := chain.bail || token.name = "bail"
        nullable := chain.nullable || token.name = "nullable" }
    else .error (.invalidArgument token.name "modifier takes no arguments")
  else (registry.construct token).map chain.push

/-- The chain of a list of tokens. -/
def compileTokens (registry : Registry) (tokens : List Token) : Except SpecError Chain :=
  tokens.foldlM registry.addToken {}

/-- The chain of a specification. -/
def compile (registry : Registry) (spec : String) : Except SpecError Chain := do
  registry.compileTokens (← Token.parseSpec spec)

/-- Describes a registry for people, by the names that are bound. -/
def description (registry : Registry) : String :=
  "RuleRegistry \x7b rules: [" ++ ", ".intercalate (registry.names.map Text.quoted) ++ "] \x7d"

end Registry

end Conform
