import LanguageClient.Html.Escape
import LanguageClient.Markdown.Tree

/-!
# Markdown as HTML

The HTML of a document. Most blocks stand on lines of their own: they begin with a line feed
unless they are at the beginning of a line already, so the writer knows whether it is.
-/

namespace LanguageClient.Markdown

/-- What has been written, and whether a line begins here. -/
structure Writer where
  written : String
  isAtLineStart : Bool
  deriving DecidableEq, Repr

namespace Writer

/-- The writer in front of a document. -/
def start : Writer := ⟨"", true⟩

/-- Writes text as it is. -/
def put (s : String) (w : Writer) : Writer :=
  if s.isEmpty then w else ⟨w.written ++ s, s.endsWith "\n"⟩

/-- Begins a line if none begins here. -/
def freshLine (w : Writer) : Writer := if w.isAtLineStart then w else w.put "\n"

/-- Writes text in the body of an element. -/
def putText (t : Text) (w : Writer) : Writer :=
  { w.put (Html.escapeBody (String.ofList t)) with isAtLineStart := t.getLast? == some '\n' }

/-- Writes the title of a link or an image, if it has one. -/
def putTitle (t : Target) (w : Writer) : Writer :=
  if t.title.isEmpty then w
  else (((w.put " title=\"").put (Html.escape (String.ofList t.title)))).put "\""

/-- Writes the address of a link or an image. -/
def putAddress (t : Target) (w : Writer) : Writer :=
  w.put (Html.escapeAddress (String.ofList t.destination))

end Writer

/-! ## Inline content -/

mutual

/-- The text of inline content, as it is written in place of an image. -/
def Inline.plain : Inline → String
  | .text t => Html.escape (String.ofList t)
  | .code t => Html.escape (String.ofList t)
  | .html t => Html.escape (String.ofList t)
  | .softBreak => " "
  | .hardBreak => " "
  | .emphasis content => Inline.plainAll content
  | .strong content => Inline.plainAll content
  | .link _ content => Inline.plainAll content
  | .image _ content => Inline.plainAll content

/-- The text of several pieces of inline content. -/
def Inline.plainAll : List Inline → String
  | [] => ""
  | i :: is => i.plain ++ Inline.plainAll is

end

mutual

/-- Writes inline content. -/
def Inline.write (w : Writer) : Inline → Writer
  | .text t => w.putText t
  | .code t => ((w.put "<code>").putText t).put "</code>"
  | .html t => w.put (String.ofList t)
  | .softBreak => w.put "\n"
  | .hardBreak => w.put "<br />\n"
  | .emphasis content => (Inline.writeAll (w.put "<em>") content).put "</em>"
  | .strong content => (Inline.writeAll (w.put "<strong>") content).put "</strong>"
  | .link target content =>
    let w := ((((w.put "<a href=\"").putAddress target).put "\"").putTitle target).put ">"
    (Inline.writeAll w content).put "</a>"
  | .image target content =>
    let w := ((w.put "<img src=\"").putAddress target).put "\" alt=\""
    (((w.put (Inline.plainAll content)).put "\"").putTitle target).put " />"

/-- Writes several pieces of inline content. -/
def Inline.writeAll (w : Writer) : List Inline → Writer
  | [] => w
  | i :: is => Inline.writeAll (i.write w) is

end

/-! ## Blocks -/

/-- The attribute that aligns a table cell. -/
def Alignment.attribute : Alignment → String
  | .unspecified => ""
  | .left => " style=\"text-align: left\""
  | .center => " style=\"text-align: center\""
  | .right => " style=\"text-align: right\""

/-- Writes the cells of a table row. -/
def Writer.putCells (tag : String) (alignments : List Alignment) (row : List (List Inline))
    (w : Writer) : Writer :=
  (alignments.zip row).foldl (fun w (alignment, cell) =>
    (Inline.writeAll (w.put ("<" ++ tag ++ alignment.attribute ++ ">")) cell).put
      ("</" ++ tag ++ ">")) w

/-- Writes a table. -/
def Writer.putTable (alignments : List Alignment) (header : List (List Inline))
    (rows : List (List (List Inline))) (w : Writer) : Writer :=
  let w := ((w.put "<table><thead><tr>").putCells "th" alignments header).put
    "</tr></thead><tbody>\n"
  let w := rows.foldl (fun w row =>
    ((w.put "<tr>").putCells "td" alignments row).put "</tr>\n") w
  w.put "</tbody></table>\n"

/-- The opening tag of a list. -/
def listTag : Option Nat → String
  | none => "<ul>\n"
  | some 1 => "<ol>\n"
  | some n => "<ol start=\"" ++ toString n ++ "\">\n"

mutual

/-- Writes a block. Paragraphs of a tight list have no tags. -/
def Block.write (isTight : Bool) (w : Writer) : Block (List Inline) → Writer
  | .paragraph content =>
    if isTight then Inline.writeAll w content
    else (Inline.writeAll (w.freshLine.put "<p>") content).put "</p>\n"
  | .heading level content =>
    let tag := "h" ++ toString level ++ ">"
    (Inline.writeAll (w.freshLine.put ("<" ++ tag)) content).put ("</" ++ tag ++ "\n")
  | .rule => w.freshLine.put "<hr />\n"
  | .code language content =>
    let tag :=
      if language.isEmpty then "<pre><code>"
      else "<pre><code class=\"language-" ++ Html.escape (String.ofList language) ++ "\">"
    ((w.freshLine.put tag).putText content).put "</code></pre>\n"
  | .html content => w.put (String.ofList content)
  | .table alignments header rows => w.putTable alignments header rows
  | .quote content =>
    (Block.writeAll false (w.freshLine.put "<blockquote>\n") content).put "</blockquote>\n"
  | .item content =>
    (Block.writeAll isTight (w.freshLine.put "<li>") content).put "</li>\n"
  | .list start isTight items =>
    (Block.writeAll isTight (w.freshLine.put (listTag start)) items).put
      (if start.isSome then "</ol>\n" else "</ul>\n")

/-- Writes several blocks. -/
def Block.writeAll (isTight : Bool) (w : Writer) : List (Block (List Inline)) → Writer
  | [] => w
  | b :: bs => Block.writeAll isTight (b.write isTight w) bs

end

end LanguageClient.Markdown
