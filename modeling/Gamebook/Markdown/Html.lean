import Gamebook.Markdown.Source

/-!
# HTML in markdown

The forms in which HTML stands in a text: blocks that run to a closing mark, blocks that run to a
blank line, and tags, comments and autolinks within a paragraph.
-/

namespace Gamebook.Markdown.Html

/-! ## Tags -/

/-- The position after the white space of a tag at `position`.  A line end counts as white space if
`nextLine` tells where the next line's content starts; otherwise it ends the search without a result,
as the end of the text does. -/
def tagSpace? (source : Source) (nextLine : Option (Nat → Nat)) : Nat → Nat → Option Nat
  | 0, _ => none
  | fuel + 1, position =>
    let position := source.skipLineSpace position
    match source.lineEnd? position with
    | none => some position
    | some next =>
      if source.size ≤ position then none
      else
        match nextLine with
        | none => none
        | some content => tagSpace? source nextLine fuel (content next)

/-- The position after the name of an attribute. -/
def attributeName? (source : Source) (position : Nat) : Option Nat :=
  match source.at? position with
  | none => none
  | some c =>
    if c.isAlpha || c = '_' || c = ':' then
      some (source.skipWhile
        (fun c => c.isAlphanum || c = '_' || c = '.' || c = ':' || c = '-') (position + 1))
    else none

/-- The position after the closing quote of an attribute value. -/
def quotedValue? (source : Source) (nextLine : Option (Nat → Nat)) (quote : Char) :
    Nat → Nat → Option Nat
  | 0, _ => none
  | fuel + 1, position =>
    match source.at? position with
    | none => none
    | some c =>
      if c = quote then some (position + 1)
      else
        match source.lineEnd? position with
        | none => quotedValue? source nextLine quote fuel (position + 1)
        | some next =>
          match nextLine with
          | none => none
          | some content => quotedValue? source nextLine quote fuel (content next)

/-- Whether a character may stand in an attribute value without quotes. -/
def isBareValueChar (c : Char) : Bool :=
  !(c = '\'' || c = '"' || c = ' ' || c = '=' || c = '>' || c = '<' || c = '\x60' ||
    Source.isLineEnd c)

/-- The position after an attribute value. -/
def attributeValue? (source : Source) (nextLine : Option (Nat → Nat)) (position : Nat) :
    Option Nat :=
  match source.at? position with
  | none => none
  | some c =>
    if c = '"' || c = '\'' then
      quotedValue? source nextLine c (source.size + 1) (position + 1)
    else if c = ' ' || c = '=' || c = '>' || c = '<' || c = '\x60' || Source.isLineEnd c then none
    else some (source.skipWhile isBareValueChar position)

/-- The position after white space around the equals sign of an attribute. -/
def valueSpace? (source : Source) (nextLine : Option (Nat → Nat)) (position : Nat) : Option Nat :=
  if source.size ≤ source.skipLineSpace position then some (source.skipLineSpace position)
  else tagSpace? source nextLine (source.size + 1) position

/-- The position after an attribute and its value, if it has one. -/
def attribute? (source : Source) (nextLine : Option (Nat → Nat)) (position : Nat) : Option Nat := do
  let name ← attributeName? source position
  let equals ← valueSpace? source nextLine name
  if source.hasAt equals '=' then
    let value ← valueSpace? source nextLine (equals + 1)
    attributeValue? source nextLine value
  else some name

/-- The position at which the attributes of an opening tag end. -/
def attributes? (source : Source) (nextLine : Option (Nat → Nat)) : Nat → Nat → Option Nat
  | 0, _ => none
  | fuel + 1, position => do
    let next ← tagSpace? source nextLine (source.size + 1) position
    if source.hasAt next '/' || source.hasAt next '>' then some next
    else if next = position then none
    else attributes? source nextLine fuel (← attribute? source nextLine next)

/-- The position after the opening or closing tag whose angle bracket stands at `position`. -/
def tag? (source : Source) (nextLine : Option (Nat → Nat)) (position : Nat) : Option Nat := do
  let closing := source.hasAt (position + 1) '/'
  let first := if closing then position + 2 else position + 1
  let afterLetters := source.skipWhile Char.isAlpha first
  if afterLetters = first then none
  let name := source.skipWhile (fun c => c.isAlphanum || c = '-') afterLetters
  let inner ← if closing then some name else attributes? source nextLine (source.size + 1) name
  let inner := source.skipLineSpace inner
  let inner := if !closing && source.hasAt inner '/' then inner + 1 else inner
  if source.hasAt inner '>' then some (inner + 1) else none

/-! ## Blocks -/

/-- What ends an HTML block. -/
inductive BlockEnd
  /-- A line that holds the given mark. -/
  | mark (text : List Char)
  /-- A blank line. -/
  | blankLine

/-- The names of elements whose text runs to their closing tag. -/
def rawNames : List String := ["pre", "style", "script", "textarea"]

/-- The names of elements that open a block by themselves. -/
def blockNames : List String :=
  ["address", "article", "aside", "base", "basefont", "blockquote", "body", "caption", "center",
   "col", "colgroup", "dd", "details", "dialog", "dir", "div", "dl", "dt", "fieldset",
   "figcaption", "figure", "footer", "form", "frame", "frameset", "h1", "h2", "h3", "h4", "h5",
   "h6", "head", "header", "hr", "html", "iframe", "legend", "li", "link", "main", "menu",
   "menuitem", "nav", "noframes", "ol", "optgroup", "option", "p", "param", "search", "section",
   "summary", "table", "tbody", "td", "tfoot", "th", "thead", "title", "tr", "track", "ul"]

/-- The closing mark of a block that starts with the angle bracket at `position` and does not end at
a blank line. -/
def closingMark? (source : Source) (position : Nat) : Option (List Char) :=
  let first := position + 1
  let raw := rawNames.find? fun name =>
    source.startsWithLetters first name.toList &&
      (source.at? (first + name.length)).all fun c => Source.isSpace c || c = '>'
  match raw with
  | some name => some ("</".toList ++ name.toList ++ ['>'])
  | none =>
    if source.startsWith first "!--".toList then some "-->".toList
    else if source.hasAt first '?' then some "?>".toList
    else if source.startsWith first "![CDATA[".toList then some "]]>".toList
    else if source.hasAt first '!' && (source.at? (first + 1)).any Char.isAlpha then some ['>']
    else none

/-- Whether the tag at `position` is one that opens a block by itself. -/
def opensBlock (source : Source) (position : Nat) : Bool :=
  let first := if source.hasAt (position + 1) '/' then position + 2 else position + 1
  let stop := source.skipWhile Char.isAlphanum first
  let name := String.ofList ((source.slice first stop).map Char.toLower)
  blockNames.contains name &&
    ((source.at? stop).all fun c => c = ' ' || c = '\t' || Source.isLineEnd c || c = '>') ||
  blockNames.contains name && source.startsWith stop "/>".toList

/-- How the HTML block ends that starts with the angle bracket at `position`; a block that may not
interrupt a paragraph counts only if `anyTag` is set. -/
def blockEnd? (source : Source) (anyTag : Bool) (position : Nat) : Option BlockEnd :=
  if source.hasAt position '<' then
    match closingMark? source position with
    | some mark => some (.mark mark)
    | none =>
      if opensBlock source position then some .blankLine
      else if anyTag && (tag? source none position).any fun next => source.isBlankLine next then
        some .blankLine
      else none
  else none

/-! ## Within a paragraph -/

/-- The position after the first occurrence of a mark. -/
def after? (source : Source) (mark : List Char) : Nat → Nat → Option Nat
  | 0, _ => none
  | fuel + 1, position =>
    if source.size ≤ position then none
    else if source.startsWith position mark then some (position + mark.length)
    else after? source mark fuel (position + 1)

/-- The position after the tag, comment, instruction or declaration whose angle bracket stands at
`position`. -/
def inline? (source : Source) (nextLine : Nat → Nat) (position : Nat) : Option Nat :=
  let first := position + 1
  let search (mark : String) (start : Nat) : Option Nat :=
    after? source mark.toList (source.size + 1) start
  if source.startsWith first "!-->".toList then some (first + 4)
  else if source.startsWith first "!--->".toList then some (first + 5)
  else if source.startsWith first "!--".toList then search "-->" (first + 3)
  else if source.startsWith first "![CDATA[".toList then search "]]>" (first + 8)
  else if source.hasAt first '!' then
    if (source.at? (first + 1)).any Char.isAlpha then search ">" (first + 2) else none
  else if source.hasAt first '?' then search "?>" (first + 1)
  else tag? source (some nextLine) position

/-- The position after the address that starts at `position` and ends in an angle bracket. -/
def addressEnd? (source : Source) (position : Nat) : Option Nat :=
  let stop := source.find (fun c => c.toNat ≤ 0x20 || c = '<' || c = '>') position
  if source.hasAt stop '>' then some (stop + 1) else none

/-- Read an address with a scheme of two to 32 characters. -/
def uri? (source : Source) (position : Nat) : Option Nat :=
  if (source.at? position).any Char.isAlpha then
    let stop := source.skipWhile
      (fun c => c.isAlphanum || c = '.' || c = '-' || c = '+') (position + 1)
    let length := stop - position
    if source.hasAt stop ':' && 2 ≤ length && length ≤ 32 then addressEnd? source (stop + 1)
    else none
  else none

/-- The position after the parts of a mail address's domain. -/
def domain? (source : Source) : Nat → Nat → Option Nat
  | 0, _ => none
  | fuel + 1, position =>
    let stop := source.skipWhile (fun c => c.isAlphanum || c = '-') position
    if stop = position || position + 63 < stop || source.hasAt position '-' ||
        source.hasAt (stop - 1) '-' then none
    else if source.hasAt stop '.' then domain? source fuel (stop + 1)
    else some stop

/-- Whether a character may stand in front of the at sign of a mail address. -/
def isMailboxChar (c : Char) : Bool :=
  c.isAlphanum || ".!#$%&'*+/=?^_\x60\x7b|\x7d~-".toList.contains c

/-- Read a mail address. -/
def mail? (source : Source) (position : Nat) : Option Nat :=
  let stop := source.skipWhile isMailboxChar position
  if stop = position || !source.hasAt stop '@' then none
  else
    match domain? source (source.size + 1) (stop + 1) with
    | some stop => if source.hasAt stop '>' then some (stop + 1) else none
    | none => none

/-- The position after the address that starts at `position` and is linked to itself. -/
def autolink? (source : Source) (position : Nat) : Option Nat :=
  match uri? source position with
  | some stop => some stop
  | none => mail? source position

end Gamebook.Markdown.Html
