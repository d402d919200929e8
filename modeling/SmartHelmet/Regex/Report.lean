import SmartHelmet.Regex.Syntax
/-!
# Reporting pattern errors

An error is reported as the pattern with the erring part marked under it:

```
regex parse error:
    a{2,1}
     ^^^^^
error: invalid repetition count range, the start must be <= the end
```

Each line of the pattern is written after four spaces (or, for a pattern of several lines,
after its line number, padded to the width of the largest, and `: `); under a line go carets
for each span on it, at least one each, at the span's columns. A pattern of several lines is
framed by rules of 79 `~`, and spans that cross lines are named by their lines and columns
after the frame.
-/

namespace SmartHelmet.Regex

/-- The lines of a text, as split at line feeds, a carriage return before one dropped, and no
    empty line after a final line feed. -/
def textLines (s : String) : List String :=
  let pieces := s.splitOn "\n"
  let pieces := if s.endsWith "\n" then pieces.dropLast else pieces
  let pieces := if s.isEmpty then [] else pieces
  pieces.map fun l => if l.endsWith "\r" then String.ofList l.toList.dropLast else l

/-- A number padded on the left to a width. -/
def padLeft (width : Nat) (n : Nat) : String :=
  let s := toString n
  "".pushn ' ' (width - s.length) ++ s

/-- The marks under one line: for each span, spaces up to its column and carets over it. -/
def markLine (padding : Nat) (spans : List Span) : String :=
  let (marks, _) := spans.foldl (fun (acc : String × Nat) sp =>
    let (out, pos) := acc
    let gap := sp.start.column - 1 - pos
    let width := max 1 (sp.stop.column - sp.start.column)
    (out.pushn ' ' gap |>.pushn '^' width, pos + gap + width)) ("".pushn ' ' padding, 0)
  marks

/-- The order of spans on a line: by start, then by end. -/
def spanBefore (a b : Span) : Bool :=
  a.start.offset < b.start.offset ||
    (a.start.offset == b.start.offset && a.stop.offset ≤ b.stop.offset)

/-- **The report of an error** in a pattern. -/
def Error.render (pattern : String) (e : Error) : String :=
  let lines := textLines pattern
  let lineCount := lines.length + (if pattern.endsWith "\n" then 1 else 0)
  let numberWidth := if lineCount ≤ 1 then 0 else (toString lineCount).length
  let spans := e.span :: (e.kind.auxSpan.toList)
  let oneLine := spans.filter (·.isOneLine)
  let multiLine := (spans.filter (!·.isOneLine)).mergeSort spanBefore
  let padding := if numberWidth == 0 then 4 else 2 + numberWidth
  let notated := String.join ((lines.zipIdx).map fun (line, i) =>
    let lead := if numberWidth == 0 then "    " else padLeft numberWidth (i + 1) ++ ": "
    let onLine := (oneLine.filter (·.start.line == i + 1)).mergeSort spanBefore
    lead ++ line ++ "\n" ++
      (if onLine.isEmpty then "" else markLine padding onLine ++ "\n"))
  let message := "error: " ++ e.kind.message
  if (pattern.splitOn "\n").length > 1 then
    let rule := "".pushn '~' 79
    let notes := multiLine.map fun sp =>
      "on line " ++ toString sp.start.line ++ " (column " ++ toString sp.start.column ++
        ") through line " ++ toString sp.stop.line ++ " (column " ++
        toString (sp.stop.column - 1) ++ ")"
    "regex parse error:\n" ++ rule ++ "\n" ++ notated ++ rule ++ "\n" ++
      (if notes.isEmpty then "" else "\n".intercalate notes ++ "\n") ++ message
  else
    "regex parse error:\n" ++ notated ++ message

end SmartHelmet.Regex
