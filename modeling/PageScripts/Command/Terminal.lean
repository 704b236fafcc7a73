import PageScripts.Command.Table

/-!
# A terminal

A console that reads the style tags of a text, leaves the styles out and wraps what is left into
lines of limited width.  It can show all characters.
-/

namespace PageScripts

/-- The terminal. -/
instance terminal : Console where
  render
    | .styled text => do
        return (Styled.printedLines (← Styled.plain text)).map String.ofList
    | .table columns rows => Table.render columns rows
    | .literal text => .ok (Text.split '\n' text)

end PageScripts
