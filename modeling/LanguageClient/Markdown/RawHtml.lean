import LanguageClient.Markdown.Character

/-!
# HTML inside Markdown

Tags, comments, instructions, declarations and character data are passed on as they are written.
`RawHtml.tag?` and `RawHtml.special?` read one of them inside a paragraph; `HtmlBlock.start?`
tells whether one begins a block, and what ends that block. Readers return what follows the
construct.
-/

namespace LanguageClient.Markdown

/-- What follows the first occurrence of `pattern`. -/
def after? (pattern : Text) : Text → Option Text
  | [] => if pattern.isEmpty then some [] else none
  | c :: rest =>
    if pattern.isPrefixOf (c :: rest) then some ((c :: rest).drop pattern.length)
    else after? pattern rest

namespace RawHtml

private def skipSpace (t : Text) : Text := t.dropWhile isBlankOrBreak

/-- Reads the name of a tag. -/
def tagName? : Text → Option Text
  | [] => none
  | c :: rest =>
    if c.isAlpha then some (rest.dropWhile fun c => c.isAlphanum || c == '-') else none

/-- Reads the name of an attribute. -/
def attributeName? : Text → Option Text
  | [] => none
  | c :: rest =>
    if c.isAlpha || c == '_' || c == ':' then
      some (rest.dropWhile fun c => c.isAlphanum || c == '_' || c == '.' || c == ':' || c == '-')
    else none

private def isUnquoted (c : Char) : Bool :=
  !(isBreak c) && !([' ', '"', '\'', '=', '<', '>', '`'].contains c)

/-- Reads the value of an attribute. Without quotes it may hold tabs, but no spaces. -/
def attributeValue? : Text → Option Text
  | '"' :: rest => after? ['"'] rest
  | '\'' :: rest => after? ['\''] rest
  | t => if t.head?.any isUnquoted then some (t.dropWhile isUnquoted) else none

/-- Reads the attributes of an opening tag, at most one for each step, and the end of the tag.
There is white space in front of every attribute. -/
def attributes? : Nat → Text → Option Text
  | 0, _ => none
  | steps + 1, t =>
    match skipSpace t with
    | '>' :: rest => some rest
    | '/' :: '>' :: rest => some rest
    | t' =>
      if t'.length = t.length then none
      else do
        let t ← attributeName? t'
        match skipSpace t with
        | '=' :: value => attributes? steps (← attributeValue? (skipSpace value))
        | _ => attributes? steps t

/-- Reads an opening or closing tag behind its angle bracket. -/
def tag? : Text → Option Text
  | '/' :: t => do
    match skipBlanks (← tagName? t) with
    | '>' :: rest => some rest
    | _ => none
  | t => do attributes? t.length (← tagName? t)

/-- Reads character data behind its opening. It ends at the first row of closing brackets, and an
angle bracket has to follow them. -/
def characterData? (t : Text) : Option Text :=
  match t.dropWhile (· ≠ ']') with
  | [] => none
  | t =>
    match t.dropWhile (· = ']') with
    | '>' :: rest => some rest
    | _ => none

/-- Reads a construct other than a tag behind its angle bracket. -/
def special? : Text → Option Text
  | '!' :: '-' :: '-' :: '>' :: rest => some rest
  | '!' :: '-' :: '-' :: '-' :: '>' :: rest => some rest
  | '!' :: '-' :: '-' :: t => after? ['-', '-', '>'] t
  | '!' :: '[' :: 'C' :: 'D' :: 'A' :: 'T' :: 'A' :: '[' :: t => characterData? t
  | '!' :: c :: t => if c.isAlpha then after? ['>'] t else none
  | '?' :: t => after? ['?', '>'] t
  | _ => none

end RawHtml

namespace HtmlBlock

/-- What ends a block of HTML: the line that contains a text, or the next blank line. -/
inductive Ending
  | line (pattern : Text)
  | blankLine
  deriving DecidableEq, Repr

/-- Elements whose content is kept up to their closing tag. -/
def verbatimTags : List String := ["pre", "style", "script", "textarea"]

/-- Elements that begin a block. -/
def blockTags : List String :=
  ["address", "article", "aside", "base", "basefont", "blockquote", "body", "caption", "center",
   "col", "colgroup", "dd", "details", "dialog", "dir", "div", "dl", "dt", "fieldset",
   "figcaption", "figure", "footer", "form", "frame", "frameset", "h1", "h2", "h3", "h4", "h5",
   "h6", "head", "header", "hr", "html", "iframe", "legend", "li", "link", "main", "menu",
   "menuitem", "nav", "noframes", "ol", "optgroup", "option", "p", "param", "search", "section",
   "summary", "table", "tbody", "td", "tfoot", "th", "thead", "title", "tr", "track", "ul"]

/-- A name at the beginning of a text, in lower case, with what follows it. -/
def name (t : Text) : String × Text :=
  let n := t.takeWhile Char.isAlphanum
  (String.ofList (n.map Char.toLower), t.drop n.length)

/-- The block that keeps its content up to a closing text, if one begins here, behind its angle
bracket. -/
def verbatim? (t : Text) : Option Ending :=
  let (tag, rest) := name t
  if verbatimTags.contains tag ∧ (rest.head?.all fun c => isBlankOrBreak c || c == '>') then
    some (.line ('<' :: '/' :: (tag.toList ++ ['>'])))
  else match t with
    | '!' :: '-' :: '-' :: _ => some (.line ['-', '-', '>'])
    | '?' :: _ => some (.line ['?', '>'])
    | '!' :: '[' :: 'C' :: 'D' :: 'A' :: 'T' :: 'A' :: '[' :: _ => some (.line [']', ']', '>'])
    | '!' :: c :: _ => if c.isAlpha then some (.line ['>']) else none
    | _ => none

/-- The block that one of the elements of `blockTags` begins, whether its tag is complete or
not. -/
def element? (t : Text) : Option Ending :=
  let (tag, rest) := name (match t with
    | '/' :: t => t
    | t => t)
  let isTagEnd : Bool := match rest with
    | [] => true
    | '/' :: '>' :: _ => true
    | c :: _ => isIndentation c || isBreak c || c == '>'
  if blockTags.contains tag ∧ isTagEnd then some .blankLine else none

/-- The block that a tag begins which stands alone on its line. -/
def loneTag? (t : Text) : Option Ending :=
  match RawHtml.tag? (t.takeWhile fun c => !isBreak c) with
  | some rest => if isBlankLine rest then some .blankLine else none
  | none => none

/-- The block that begins at this line and may do so in the middle of a paragraph. -/
def interrupting? : Text → Option Ending
  | '<' :: t => (verbatim? t).or (element? t)
  | _ => none

/-- The block that begins at this line. -/
def start? : Text → Option Ending
  | '<' :: t => ((verbatim? t).or (element? t)).or (loneTag? t)
  | _ => none

end HtmlBlock

end LanguageClient.Markdown
