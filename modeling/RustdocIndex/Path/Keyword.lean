import RustdocIndex.Text.Identifier

/-! The keywords of Rust. -/
namespace RustdocIndex

def strictKeywords : List Text := List.map Text.ofString [
  "as", "break", "const", "continue", "crate", "else", "enum", "extern", "false", "fn", "for",
  "if", "impl", "in", "let", "loop", "match", "mod", "move", "mut", "pub", "ref", "return", "self",
  "Self", "static", "struct", "super", "trait", "true", "type", "unsafe", "use", "where", "while",
  "async", "await", "dyn"]

def reservedKeywords : List Text := List.map Text.ofString [
  "abstract", "become", "box", "do", "final", "macro", "override", "priv", "typeof", "unsized",
  "virtual", "yield"]

/-- The keywords of paths, which have no raw form. -/
def pathKeywords : List Text := List.map Text.ofString ["crate", "self", "super", "Self"]

def isKeyword (t : Text) : Bool := strictKeywords.contains t || reservedKeywords.contains t

def isPathKeyword (t : Text) : Bool := pathKeywords.contains t

/-- An identifier, which may be a keyword. The underscore alone is none. -/
def isName (t : Text) : Bool := isIdentifier t && t != Text.ofString "_"

end RustdocIndex
