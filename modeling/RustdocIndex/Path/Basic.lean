import RustdocIndex.Path.Keyword
import RustdocIndex.Text.Split

/-! Paths of crates and items, like `std::vec::Vec`. -/
namespace RustdocIndex

/-- One identifier of a path. A raw one is written with a marker that is no part of its name. -/
structure Segment where
  name : Text
  raw : Bool
  deriving DecidableEq

def rawMarker : Text := "r#"

def Segment.text (s : Segment) : Text := if s.raw then rawMarker ++ s.name else s.name

/-- A path has one segment or more. -/
structure SimplePath where
  first : Segment
  more : List Segment
  deriving DecidableEq

/-- The crates of the standard library. -/
def stdlibCrates : List Text := List.map Text.ofString ["alloc", "core", "proc_macro", "std", "test"]

namespace SimplePath

def segments (p : SimplePath) : List Segment := p.first :: p.more

def names (p : SimplePath) : List Text := p.segments.map (·.name)

def crateName (p : SimplePath) : Text := p.first.name

/-- Whether the path names a crate and no item. -/
def isCrateOnly (p : SimplePath) : Bool := p.more.isEmpty

/-- Whether the path leads into the standard library. -/
def isStd (p : SimplePath) : Bool := stdlibCrates.contains p.crateName

def text (p : SimplePath) : Text := Text.joinColons (p.segments.map (·.text))

end SimplePath

/-- Segments as a path is written: keywords are raw, except those that have no raw form. -/
def pathKey (names : List Text) : Text :=
  Text.joinColons (names.map fun n =>
    if isKeyword n && !isPathKeyword n then rawMarker ++ n else n)

end RustdocIndex
