import Conform.Schema.Collect
import Conform.Schema.Strict
/-!
# Validation

A tree is validated against requirements: a schema, or anything else that can report the failures of
a tree. In strict mode a schema also refuses the leaves that it does not declare.
-/

namespace Conform

structure Options where
  /-- Whether undeclared leaves are refused. -/
  strict : Bool := false
  /-- Whether undeclared leaves, if there are any, are all that is reported. -/
  reportOnlyUnknown : Bool := true
deriving DecidableEq, Repr

/-- Why a tree is refused: it is invalid, or a rule could not be applied to it. -/
inductive Refusal where
  | invalid (report : Report)
  | fault (fault : Fault)

/-- What a tree can be validated against. -/
class Requirements.{u} (σ : Type u) where
  collect : σ → Options → Value → Except Fault Report

namespace Options

private def flag? (default : Bool) : Option Value → Option Bool
  | none => some default
  | some (.bool b) => some b
  | some _ => none

/-- Reads options: an object whose fields may be missing, or a list of the flags in order that may
end early. -/
def ofValue? : Value → Option Options
  | .obj fields => do
    let strict ← flag? false (fields.lookup "strict")
    let reportOnlyUnknown ← flag? true (fields.lookup "report_only_unknown")
    return { strict, reportOnlyUnknown }
  | .arr items => do
    let strict ← flag? false items[0]?
    let reportOnlyUnknown ← flag? true items[1]?
    if items.length ≤ 2 then return { strict, reportOnlyUnknown } else none
  | _ => none

end Options

namespace Refusal

def report? : Refusal → Option Report
  | invalid report => some report
  | fault _ => none

def text : Refusal → String
  | invalid report => "validation failed: " ++ report.text
  | fault f => "rule `" ++ f.rule ++ "` faulted on field `" ++ f.field ++ "`"

end Refusal

/-- The failures of a tree under the options. -/
def Schema.collectWith (schema : Schema) (options : Options) (tree : Value) :
    Except Fault Report :=
  if options.strict then
    let unknown := schema.undeclared tree
    if !unknown.isEmpty && options.reportOnlyUnknown then .ok unknown
    else (schema.collect tree).map fun report => report.merge unknown
  else schema.collect tree

instance : Requirements Schema := ⟨Schema.collectWith⟩

/-- Accepts a tree, or refuses it with all its failures or with the first fault. -/
def validate.{u} {σ : Type u} [Requirements σ] (requirements : σ) (options : Options)
    (tree : Value) : Except Refusal Unit :=
  match Requirements.collect requirements options tree with
  | .error fault => .error (.fault fault)
  | .ok report => if report.isEmpty then .ok () else .error (.invalid report)

end Conform
