/-!
# Cutting and ordering texts

* `splitAtLast`: a text around the last separator whose remainder is suitable.
* `ascending`: texts in ascending order of their code points.
* `distinctAscending`: the same without repetitions.
-/

namespace RepoSurvey
namespace Text

/-- The texts around the last separator that is followed by something suitable. -/
def splitAtLast (separator : List Char) (suits : List Char → Bool) : List Char → Option (List Char × List Char)
  | [] => none
  | c :: rest =>
    match splitAtLast separator suits rest with
    | some (before, after) => some (c :: before, after)
    | none =>
      let after := (c :: rest).drop separator.length
      if separator.isPrefixOf (c :: rest) && suits after then some ([], after) else none

/-- The text after the first separator. -/
def afterFirst? (separator : List Char) : List Char → Option (List Char)
  | [] => none
  | c :: rest =>
    if separator.isPrefixOf (c :: rest) then some ((c :: rest).drop separator.length)
    else afterFirst? separator rest

/-- What stands after a text, if it begins with it. -/
def after? (start s : List Char) : Option (List Char) :=
  if start.isPrefixOf s then some (s.drop start.length) else none

def ascending (texts : List String) : List String := texts.mergeSort fun a b => decide (a ≤ b)

def distinctAscending (texts : List String) : List String := ascending texts.eraseDups

theorem mem_ascending {s : String} {texts : List String} : s ∈ ascending texts ↔ s ∈ texts :=
  (List.mergeSort_perm texts _).mem_iff

end Text
end RepoSurvey
