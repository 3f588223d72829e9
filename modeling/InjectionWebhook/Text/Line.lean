/-
# Lines

A line of a text ends before a line feed, or before a carriage return and a line feed.
-/
namespace InjectionWebhook
namespace Text

/-- The characters up to the end of the first line. -/
def firstLineChars : List Char → List Char
  | [] => []
  | '\r' :: '\n' :: _ => []
  | c :: rest => if c = '\n' then [] else c :: firstLineChars rest

/-- The first line of a text. -/
def firstLine (s : String) : String := String.ofList (firstLineChars s.toList)

end Text
end InjectionWebhook
