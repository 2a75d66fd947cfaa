/-!
# Blank text

A name that shows nothing but white space is as good as no name.
-/

namespace TraceFlow.Text

/-- The white space of Unicode: controls, spaces of every width, line and paragraph separators. -/
def isBlank (c : Char) : Bool :=
  c ∈ ['\u0009', '\u000A', '\u000B', '\u000C', '\u000D', '\u0020', '\u0085', '\u00A0', '\u1680',
    '\u2000', '\u2001', '\u2002', '\u2003', '\u2004', '\u2005', '\u2006', '\u2007', '\u2008',
    '\u2009', '\u200A', '\u2028', '\u2029', '\u202F', '\u205F', '\u3000']

/-- The text is empty or holds white space only. -/
def isBlankText (text : String) : Bool :=
  text.toList.all isBlank

theorem isBlankText_iff {text : String} :
    isBlankText text = true ↔ ∀ c ∈ text.toList, isBlank c = true := by
  simp [isBlankText]

end TraceFlow.Text
