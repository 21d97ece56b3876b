/-!
# Markup escapes

Text that is kept as written still holds the backslashes that take the meaning from markup
characters.
-/

namespace Gamebook.Compile

/-- The escapes, each with the character that it stands for. -/
def escapes : List (String × String) :=
  [("\\*", "*"), ("\\[", "["), ("\\]", "]"), ("\\#", "#"), ("\\\x60", "\x60"), ("\\(", "("),
    ("\\)", ")")]

/-- A text after replacements, each of which is made all over what the ones before it have left. -/
def replaceEach (replacements : List (String × String)) (text : String) : String :=
  replacements.foldl (fun text replacement => text.replace replacement.1 replacement.2) text

/-- A text without its escapes. -/
def unescape (text : String) : String :=
  replaceEach escapes text

end Gamebook.Compile
