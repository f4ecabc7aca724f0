import Conform.OrderedMap
import Conform.Path.Basic
import Conform.Value.Json
/-!
# Reports

A report lists the fields that failed, in the order in which they first did, each with its messages.
A field without messages is never recorded, so an empty report means that everything was accepted.
-/

namespace Conform

structure Report where
  fields : OrderedMap (List String) := ∅

namespace Report

instance : EmptyCollection Report := ⟨{}⟩

/-- Records messages for a field, after those it already has. No messages record nothing. -/
def extend (report : Report) (field : String) (messages : List String) : Report :=
  if messages = [] then report else ⟨report.fields.insertWith (· ++ ·) field messages⟩

def add (report : Report) (field message : String) : Report := report.extend field [message]

/-- Records everything that the other report holds, with its fields renamed. -/
def mergeWith (rename : String → String) (report other : Report) : Report :=
  other.fields.entries.foldl (fun r e => r.extend (rename e.1) e.2) report

def merge (report other : Report) : Report := report.mergeWith id other

/-- Records the fields of the other report under a path. -/
def mergeUnder (report : Report) (path : String) (other : Report) : Report :=
  report.mergeWith (Path.join path) other

def ofList (entries : List (String × List String)) : Report :=
  entries.foldl (fun r e => r.extend e.1 e.2) ∅

/-- The messages of a field. -/
def get? (report : Report) (field : String) : Option (List String) := report.fields.get? field

/-- The number of failing fields. -/
def size (report : Report) : Nat := report.fields.size

def isEmpty (report : Report) : Bool := report.fields.isEmpty

def messageCount (report : Report) : Nat := report.fields.values.flatten.length

/-- The first message of the first failing field. -/
def firstMessage? (report : Report) : Option String :=
  report.fields.values.head?.bind List.head?

/-- The first message, with the number of the others. -/
def summary (report : Report) : String :=
  match report.firstMessage? with
  | none => "The given data was valid."
  | some first =>
    match report.messageCount - 1 with
    | 0 => first
    | 1 => first ++ " (and 1 more error)"
    | others => first ++ " (and " ++ toString others ++ " more errors)"

/-- Success for an empty report; any other report is an error. -/
def outcome (report : Report) : Except Report Unit :=
  if report.isEmpty then .ok () else .error report

/-- All fields and messages in one line. -/
def text (report : Report) : String :=
  report.fields.entries.foldl (fun line e => line ++ "; " ++ e.1 ++ ": " ++ " ".intercalate e.2)
    (toString report.size ++ " invalid field(s)")

/-- Whether two reports say the same of the same fields, in whatever order of the fields. -/
def Same (a b : Report) : Prop :=
  a.size = b.size ∧ ∀ e ∈ a.fields.entries, b.get? e.1 = some e.2

instance (a b : Report) : Decidable (Same a b) := inferInstanceAs (Decidable (_ ∧ _))

def toValue (report : Report) : Value :=
  .obj (report.fields.entries.map fun e => (e.1, .arr (e.2.map .str)))

/-- The body of a response to invalid data: the summary and the report. -/
def response (report : Report) : Value :=
  .obj [("message", .str report.summary), ("errors", report.toValue)]

/-- The status code of a response to invalid data. -/
def statusCode : Nat := 422

@[simp] theorem extend_nil (report : Report) (field : String) : report.extend field [] = report :=
  rfl

end Report

end Conform
