import LanguageClient.Markdown.Builder
import LanguageClient.Markdown.Inline
import LanguageClient.Markdown.Writer

/-!
# Rendering Markdown

Markdown with tables, as HTML. The blocks come first, since a link may refer to a definition
that stands behind it.
-/

namespace LanguageClient.Markdown

/-- The structure of a text. -/
def document (t : Text) : List (Block (List Inline)) :=
  let (bs, ds) := blocks t
  Block.mapAll (Passage.inlines ds) bs

/-- The HTML of a text. -/
def render (text : String) : String :=
  (Block.writeAll false .start (document text.toList)).written

end LanguageClient.Markdown
