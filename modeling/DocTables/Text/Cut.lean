/-
# Cutting text at a mark

A text is cut at the first place where a mark stands; the mark belongs to neither part.
-/

namespace DocTables.Text

/-- What stands before the first place of a mark, and what follows the mark. -/
def cut? (mark : List Char) : List Char → Option (List Char × List Char)
  | [] => if mark.isEmpty then some ([], []) else none
  | c :: rest =>
    if mark.isPrefixOf (c :: rest) then some ([], (c :: rest).drop mark.length)
    else (cut? mark rest).map fun (before, after) => (c :: before, after)

end DocTables.Text
