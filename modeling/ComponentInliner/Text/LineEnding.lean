import ComponentInliner.Text.Basic

/-!
# Line endings

A line ends with a line feed, a carriage return, or both. Files and template literals are read
with every line ending made a line feed.
-/

namespace ComponentInliner.Text

/-- Makes every line ending a line feed. -/
def unifyLineEndings : Text → Text
  | [] => []
  | [point] => if point = '\r' then "\n" else [point]
  | point :: next :: rest =>
      if point = '\r' then
        if next = '\n' then '\n' :: unifyLineEndings rest
        else '\n' :: unifyLineEndings (next :: rest)
      else
        point :: unifyLineEndings (next :: rest)

end ComponentInliner.Text
