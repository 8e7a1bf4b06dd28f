/-! # Splitting at a separator

The pieces of a list between the occurrences of a separator. There is one more of them than there
are separators, none holds one, and joined again with the separator they give the list back. -/

namespace Allowlist.Text

def consFirst {α : Type} (a : α) : List (List α) → List (List α)
  | [] => [[a]]
  | piece :: pieces => (a :: piece) :: pieces

/-- The pieces between separators. -/
def splitAt {α : Type} [DecidableEq α] (separator : α) : List α → List (List α)
  | [] => [[]]
  | a :: rest =>
    if a = separator then [] :: splitAt separator rest
    else consFirst a (splitAt separator rest)

/-- The part before the first separator and the part after it, which is missing if there is no
separator. -/
def cutAt {α : Type} [DecidableEq α] (separator : α) (s : List α) : List α × Option (List α) :=
  match s.dropWhile (· ≠ separator) with
  | [] => (s, none)
  | _ :: rest => (s.takeWhile (· ≠ separator), some rest)

end Allowlist.Text
