/-!
# Parts of a text

`parts` cuts a text at marks. There is always a part, one more than there are marks.
-/

namespace NodeAudit.Text

/-- The stretches between the characters that are marks. -/
def parts (isMark : Char → Bool) : List Char → List (List Char)
  | [] => [[]]
  | c :: cs =>
    if isMark c then [] :: parts isMark cs
    else
      match parts isMark cs with
      | [] => [[c]]
      | p :: ps => (c :: p) :: ps

end NodeAudit.Text
