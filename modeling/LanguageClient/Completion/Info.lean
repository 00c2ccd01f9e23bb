import LanguageClient.Html.Escape
import LanguageClient.Markdown.Render
import LanguageClient.Protocol.CompletionItem

/-!
# Additional information

The HTML shown beside a proposal: the detail of its item and the documentation, each on lines of
its own. What is missing or empty contributes nothing.
-/

namespace LanguageClient

/-- A text as one paragraph. -/
def paragraph (text : String) : String := "<p>" ++ Html.escape text ++ "</p>"

/-- The HTML of documentation, if there is any. -/
def Documentation.html? : Documentation → Option String
  | .plain text => if text.isEmpty then none else some (paragraph text)
  | .markup kind value =>
    if value.isEmpty then none
    else match kind with
      | .markdown => some (Markdown.render value)
      | .plainText => some (paragraph value)

/-- The HTML of an item's detail, if there is any. -/
def CompletionItem.detailHtml? (i : CompletionItem) : Option String :=
  match i.detail with
  | some detail => if detail.isEmpty then none else some (Markdown.render detail)
  | none => none

/-- The HTML shown beside a proposal for an item. -/
def CompletionItem.info (i : CompletionItem) : String :=
  "\n".intercalate (i.detailHtml?.toList ++ (i.documentation.bind (·.html?)).toList)

end LanguageClient
