/-!
# Escaping

Text and attribute values as they are written in markup.
-/

namespace UtilityMarkup.Markup

def escapeTextChar (c : Char) : List Char :=
  match c with
  | '&' => "&amp;".toList
  | '<' => "&lt;".toList
  | '>' => "&gt;".toList
  | _ => [c]

/-- An attribute value stands between double quotes. -/
def escapeValueChar (c : Char) : List Char :=
  if c = '"' then "&quot;".toList else escapeTextChar c

def escapeText (text : String) : String :=
  .ofList (text.toList.flatMap escapeTextChar)

def escapeValue (value : String) : String :=
  .ofList (value.toList.flatMap escapeValueChar)

end UtilityMarkup.Markup
