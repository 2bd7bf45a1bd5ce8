/-!
# Occurrence of one text in another

`occursIn needle text` looks at every place of the text in turn. The empty text occurs everywhere.
-/

namespace Survey.Text

/-- Whether the characters of `needle` stand together and in their order somewhere among those of `text`. -/
def occursIn (needle : List Char) : List Char → Bool
  | [] => needle.isEmpty
  | c :: rest => needle.isPrefixOf (c :: rest) || occursIn needle rest

/-- Occurring is being an infix. -/
theorem occursIn_iff {needle text : List Char} : occursIn needle text = true ↔ needle <:+: text := by
  induction text with
  | nil => simp [occursIn]
  | cons c rest ih => simp [occursIn, ih, List.infix_cons_iff]

end Survey.Text
