import RustdocIndex.Schema.Report

/-! Results of validation. Parts that are checked side by side report all of their issues. -/
namespace RustdocIndex.Schema

inductive Checked (α : Type)
  | valid (a : α)
  | invalid (issues : List Issue)

namespace Checked

variable {α β : Type}

def problem (p : Problem) : Checked α := .invalid [⟨[], p⟩]

def map (f : α → β) : Checked α → Checked β
  | valid a => .valid (f a)
  | invalid issues => .invalid issues

/-- Applies a checked function to a checked argument; the issues of both count. -/
def apply (f : Checked (α → β)) (a : Checked α) : Checked β :=
  match f, a with
  | valid f, valid a => .valid (f a)
  | valid _, invalid issues => .invalid issues
  | invalid issues, valid _ => .invalid issues
  | invalid before, invalid after => .invalid (before ++ after)

instance : Applicative Checked where
  pure := valid
  map := map
  seq f a := apply f (a ())

/-- A check that only a valid value reaches. -/
def andThen (a : Checked α) (f : α → Checked β) : Checked β :=
  match a with
  | valid a => f a
  | invalid issues => .invalid issues

/-- The same result for a value that lies one step inside another. -/
def under (step : Step) : Checked α → Checked α
  | valid a => .valid a
  | invalid issues => .invalid (issues.map fun i => ⟨step :: i.location, i.problem⟩)

def isValid : Checked α → Bool
  | valid _ => true
  | invalid _ => false

/-- The value, or the report on a value that should have been of the model `title`. -/
def toExcept (title : String) : Checked α → Except Report α
  | valid a => .ok a
  | invalid issues => .error ⟨title, issues⟩

/-- The values of all, or the issues of all. -/
def all : List (Checked α) → Checked (List α)
  | [] => .valid []
  | a :: more => apply (map List.cons a) (all more)

end Checked

end RustdocIndex.Schema
