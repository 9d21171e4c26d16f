import EnvAudit.Text.Parts
import EnvAudit.Text.Utf8
import EnvAudit.Toml.Item

/-!
# Diagnostics

A fault of a document is shown together with the line that it stands in, and
with marks below the place.
-/

namespace EnvAudit

namespace Toml

namespace Diagnostic

/-- The characters behind the last line feed. -/
def lastLine (chars : List Char) : List Char :=
  ((Text.splitChars '\n' chars).getLast?).getD []

/-- The line and the column of a place, both from zero.  At the end of the text
the place is behind the last character, be that a line feed.  A column counts
characters, except that it counts bytes where a longer character follows. -/
def position (before after : List Char) : Nat × Nat :=
  match after with
  | c :: _ =>
      let line := lastLine before
      (before.count '\n', if c.utf8Size = 1 then line.length else Text.byteCount line)
  | [] =>
      let line := lastLine before.dropLast
      (before.dropLast.count '\n', if before.isEmpty then 0 else line.length + 1)

/-- The message about the piece of a text between two places, given by the
numbers of characters left. -/
def render (text : String) (span : Span) (message : String) : String :=
  let chars := text.toList
  let before := chars.take (chars.length - span.start)
  let after := chars.drop (chars.length - span.start)
  let (line, column) := position before after
  let number := toString (line + 1)
  let content := (Text.splitChars '\n' chars)[line]?.getD []
  let size := Text.byteCount (after.take (span.start - span.stop))
  let marks := max 1 (min size (Text.byteCount content - column))
  let margin := String.ofList (List.replicate (number.length + 1) ' ') ++ "|"
  s!"TOML parse error at line {number}, column {column + 1}\n" ++
    s!"{margin}\n" ++
    s!"{number} | {String.ofList content}\n" ++
    margin ++ String.ofList (List.replicate (column + 1) ' ' ++ List.replicate marks '^') ++
    s!"\n{message}\n"

end Diagnostic

end Toml

end EnvAudit
