import Startup.Text.Basic

/-!
# Escaped values

A value is stored on one line: a backslash, a newline and a tab are written as a backslash followed
by a backslash, `n` or `t`. Every other code point is written as it is.

Reading goes once from left to right and keeps a backslash that starts none of these pairs.
-/

namespace Startup.Settings

/-- The value with backslashes, newlines and tabs replaced by their pairs. The backslashes come
first, so none that belongs to a pair is doubled. -/
def escape (value : Text) : Text :=
  Text.replace '\t' ['\\', 't'] (Text.replace '\n' ['\\', 'n'] (Text.replace '\\' ['\\', '\\'] value))

def escaped? (mark : CodePoint) : Option CodePoint :=
  if mark = '\\' then some '\\'
  else if mark = 'n' then some '\n'
  else if mark = 't' then some '\t'
  else none

/-- The value whose escaped form is given. -/
def unescape : Text → Text
  | [] => []
  | [last] => [last]
  | point :: mark :: rest =>
      if point = '\\' then
        match escaped? mark with
        | some meant => meant :: unescape rest
        | none => point :: unescape (mark :: rest)
      else point :: unescape (mark :: rest)

end Startup.Settings
