import LanguageClient.Snippet.Resolve

/-!
# Snippet trees

A well-formed snippet is a row of nodes: literal text, tab stops, placeholders, choices and
variables, where placeholders and variables have nodes of their own as their default. A row of
nodes can be written as a snippet (`Node.renderAll`), and it has a meaning without being written:
its text and its cursor (`Node.meaning`).
-/

namespace LanguageClient.Snippet

/-- A part of a well-formed snippet. A choice has at least one option. -/
inductive Node
  | literal (text : Text)
  | stop (index : Nat)
  | placeholder (index : Nat) (content : List Node)
  | choice (index : Nat) (first : Text) (others : List Text)
  | named (name : Text)
  | namedOr (name : Text) (content : List Node)
  deriving Repr

/-- Text with a backslash in front of each of the given characters. -/
def escape (special : List Char) (t : Text) : Text :=
  t.flatMap fun c => if special.contains c then ['\\', c] else [c]

/-- An option as it is written in a choice. -/
def escapeOption (t : Text) : Text := escape ['\\', ',', '|'] t

/-- The digits of a number. -/
def digits (n : Nat) : Text := Nat.toDigits 10 n

namespace Node

/-! ## Writing -/

mutual

/-- A node as it is written in a snippet. -/
def render : Node → Text
  | literal text => escape ['$', '\x7d', '\\'] text
  | stop index => ['$', '\x7b'] ++ digits index ++ ['\x7d']
  | placeholder index content =>
    ['$', '\x7b'] ++ digits index ++ [':'] ++ renderAll content ++ ['\x7d']
  | choice index first others =>
    ['$', '\x7b'] ++ digits index ++ ['|'] ++ escapeOption first ++
      others.flatMap (fun option => ',' :: escapeOption option) ++ ['|', '\x7d']
  | named name => ['$', '\x7b'] ++ name ++ ['\x7d']
  | namedOr name content => ['$', '\x7b'] ++ name ++ [':'] ++ renderAll content ++ ['\x7d']

/-- A row of nodes as it is written in a snippet. -/
def renderAll : List Node → Text
  | [] => []
  | node :: rest => render node ++ renderAll rest

end

/-! ## Meaning -/

mutual

/-- The plain text of a node: defaults and first options are kept. -/
def text : Node → Text
  | literal text => text
  | stop _ => []
  | placeholder _ content => textAll content
  | choice _ first _ => first
  | named _ => []
  | namedOr _ content => textAll content

/-- The plain text of a row of nodes. -/
def textAll : List Node → Text
  | [] => []
  | node :: rest => text node ++ textAll rest

end

mutual

/-- The offset in the plain text of a node at which its first construct numbered 0 begins. -/
def cursor : Node → Option Nat
  | literal _ => none
  | stop index => if index = 0 then some 0 else none
  | placeholder index content => if index = 0 then some 0 else cursorAll content
  | choice index _ _ => if index = 0 then some 0 else none
  | named _ => none
  | namedOr _ content => cursorAll content

/-- The offset in the plain text of a row of nodes at which its first construct numbered 0
begins. -/
def cursorAll : List Node → Option Nat
  | [] => none
  | node :: rest => (cursor node).or ((cursorAll rest).map (· + (text node).length))

end

/-- What a row of nodes stands for. -/
def meaning (nodes : List Node) : Resolved := ⟨textAll nodes, cursorAll nodes⟩

/-! ## Well-formedness -/

/-- Whether a text is an identifier: a letter or underscore, then letters, digits and
underscores of ASCII. -/
def isIdentifier : Text → Bool
  | [] => false
  | c :: rest =>
    (c.isAlpha || c == '_') && rest.all fun c => c.isAlphanum || c == '_'

mutual

/-- Whether the numbers of a node are in bounds and its names are identifiers. -/
def isWellFormed : Node → Bool
  | literal _ => true
  | stop index => index < numberBound
  | placeholder index content => index < numberBound && areWellFormed content
  | choice index _ _ => index < numberBound
  | named name => isIdentifier name
  | namedOr name content => isIdentifier name && areWellFormed content

/-- Whether all nodes of a row are well formed. -/
def areWellFormed : List Node → Bool
  | [] => true
  | node :: rest => isWellFormed node && areWellFormed rest

end

end Node

end LanguageClient.Snippet
