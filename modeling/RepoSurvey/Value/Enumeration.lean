import RepoSurvey.Value.Shown

/-!
# Enumerations

An enumeration has a name and members with names. Its members are values, and a value can name one of them.

* `Enumeration`: types whose members have names.
* `Enumeration.ofValue`: the member that a value names.
-/

namespace RepoSurvey

class Enumeration (τ : Type) where
  family : String
  all : List τ
  name : τ → String
  /-- The label of a member, its name in capitals unless it has another one. -/
  label : τ → String := fun m => (name m).toUpper

/-- A value that names no member of an enumeration. -/
structure NameError where
  /-- The value as messages show it. -/
  found : String
  family : String
  deriving Repr, DecidableEq

def NameError.message (e : NameError) : String := e.found ++ " is not a valid " ++ e.family

namespace Enumeration

variable {τ : Type} [Enumeration τ]

/-- The member that a value names. -/
def ofValue (found : Value) : Except NameError τ :=
  let own (m : τ) : Bool :=
    match found with
    | .text s => name m == s
    | _ => false
  match all.find? own with
  | some m => .ok m
  | none => .error ⟨found.shown, family τ⟩

instance : ToValue τ := ⟨fun m => .member (family τ) (label m) (name m)⟩

/-- The members as values, under the name of the enumeration. -/
def members (τ : Type) [Enumeration τ] : String × List Value := (family τ, (all : List τ).map value)

end Enumeration
end RepoSurvey
