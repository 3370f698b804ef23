import RustdocIndex.Link.Page
import RustdocIndex.Proofs.Link.Resolve
import RustdocIndex.Proofs.Payload.Build

/-! Whether a parent is given as an item of the same crate or as an entry of the paths table makes
no difference to links. -/
namespace RustdocIndex

/-- Outcomes of one kind, with the same position, path and page. -/
inductive Outcome.Agrees : Outcome → Outcome → Prop
  | crateRoot (name : Text) : Agrees (.crateRoot name) (.crateRoot name)
  | found {r r' : ResolvedItem} (position : r.position = r'.position)
      (qualifiedPath : r.qualifiedPath = r'.qualifiedPath)
      (page : relativeUrl r.item r.owner = relativeUrl r'.item r'.owner) :
      Agrees (.found r) (.found r')
  | notFound (path : Text) : Agrees (.notFound path) (.notFound path)

theorem Outcome.Agrees.relativeUrl?_eq {o o' : Outcome} (h : o.Agrees o') :
    o.relativeUrl? = o'.relativeUrl? := by
  cases h with
  | crateRoot name => rfl
  | found _ _ page => exact congrArg some page
  | notFound path => rfl

namespace Index

variable {index other : Index} {item item' : Item} {items items' : List Item}

/-- Two items have the same path and the same page, each in its own index. -/
structure SameLink (index other : Index) (item item' : Item) : Prop where
  path : index.qualified? item = other.qualified? item'
  page : relativeUrl item (index.owner? item) = relativeUrl item' (other.owner? item')

theorem find?_of_sameLink (h : List.Forall₂ (SameLink index other) items items')
    (names : List Text) (k : Nat) :
    ((items.zipIdx k).find? fun p => index.qualified? p.1 == some names) = none ∧
        ((items'.zipIdx k).find? fun p => other.qualified? p.1 == some names) = none ∨
      ∃ item item' position,
        ((items.zipIdx k).find? fun p => index.qualified? p.1 == some names) =
          some (item, position) ∧
        ((items'.zipIdx k).find? fun p => other.qualified? p.1 == some names) =
          some (item', position) ∧ SameLink index other item item' := by
  induction h generalizing k with
  | nil => exact .inl ⟨rfl, rfl⟩
  | @cons item item' items items' hlink _ ih =>
    simp only [List.zipIdx_cons, List.find?_cons, hlink.path]
    cases hq : other.qualified? item' == some names with
    | true => exact .inr ⟨item, item', k, rfl, rfl, hlink⟩
    | false => exact ih (k + 1)

theorem resolve_agrees (hname : index.crateName = other.crateName)
    (h : List.Forall₂ (SameLink index other) index.items other.items) (path : SimplePath) :
    (index.resolve path).Agrees (other.resolve path) := by
  unfold resolve
  rw [hname]
  split
  · exact .notFound _
  · split
    · exact .crateRoot _
    · rcases find?_of_sameLink h path.names 0 with ⟨hnone, hnone'⟩ |
        ⟨item, item', position, hsome, hsome', hlink⟩
      · have hfind : index.find? path.names = none := (find?_eq ..).trans hnone
        have hfind' : other.find? path.names = none := (find?_eq ..).trans hnone'
        rw [hfind, hfind']
        exact .notFound _
      · have hfind : index.find? path.names = some (item, position) := (find?_eq ..).trans hsome
        have hfind' : other.find? path.names = some (item', position) := (find?_eq ..).trans hsome'
        rw [hfind, hfind']
        exact .found rfl rfl hlink.page

theorem mapping_eq_of_sameLink
    (h : List.Forall₂ (SameLink index other) index.items other.items) :
    index.mapping = other.mapping := by
  have hlinks : index.items.filterMap index.linkOf? = other.items.filterMap other.linkOf? := by
    generalize index.items = items at h
    generalize other.items = items' at h
    induction h with
    | nil => rfl
    | cons hlink _ ih =>
      rw [List.filterMap_cons, List.filterMap_cons, linkOf?, linkOf?, hlink.path, hlink.page, ih]
  rw [mapping, mapping, hlinks]

end Index

/-- Of an owner, only its kind, name and module path matter for a page. -/
theorem relativeUrl_owner (item : Item) (kind : ItemKind) (name modulePath : Text)
    (position position' : Option Int) :
    relativeUrl item (some ⟨kind, name, modulePath, position⟩) =
      relativeUrl item (some ⟨kind, name, modulePath, position'⟩) := by
  unfold relativeUrl
  cases item.kind <;> rfl

namespace Payload

open Index (SameLink)

variable {g : Generation} {rows : List Row} {paths : List PathEntry} {row : Row} {item : Item}
  {items items' : List Item} {name : Text} {version : Option Text} {d : Draft} {c : Crate}

/-- The item of a row, with its parent as the entry of the paths table that the row gives. -/
def foreignItem (row : Row) (item : Item) : Item :=
  match row.parent with
  | none => item
  | some k => { item with parent := some (.foreign k.toNat) }

/-- An index whose parents are all entries of the paths table. -/
def withForeignParents (rows : List Row) (index : Index) : Index :=
  { index with items := List.zipWith foreignItem rows index.items }

/-- Every parent of a built index has the path and the page that its entry in the paths table
gives: a documented owner has the kind and name of the entry and lies in the child's module. -/
theorem sameLink_foreignItem (h : List.Forall₂ (MakesItem rows paths) rows items)
    (hitem : MakesItem rows paths row item) (items' : List Item) :
    SameLink ⟨name, items, paths⟩ ⟨name, items', paths⟩ item (foreignItem row item) := by
  cases hp : row.parent with
  | none =>
    have hnone := hitem.parent_none hp
    have hsame : foreignItem row item = item := by rw [foreignItem, hp]
    rw [hsame]
    constructor
    · rw [Index.qualified?, Index.qualified?, Index.climb?_none hnone, Index.climb?_none hnone]
    · rw [Index.owner?, Index.owner?, hnone]
  | some k =>
    obtain ⟨n, hn, rfl, hparent⟩ := hitem.parent_some hp
    have hentry : paths[n]? = some paths[n] := List.getElem?_eq_getElem hn
    have hforeign : foreignItem row item = { item with parent := some (.foreign n) } := by
      rw [foreignItem, hp]
      rfl
    have href : Index.RefersTo ⟨name, items, paths⟩ row.modulePath n hn _ :=
      refersTo_parentRef h row.modulePath hn
    have hpath (items : List Item) : Index.qualified? ⟨name, items, paths⟩
        { item with parent := some (.foreign n) } =
          some (item.moduleSegments ++ [paths[n].name, item.name]) :=
      Index.climb?_foreign rfl hentry _
    rw [hforeign]
    rcases href with ⟨j, hown, ⟨⟨target, hj, hnone, hkind, hmodule, hname⟩, -⟩⟩ | ⟨hown, -⟩
    · rw [hown] at hparent
      have hsegments : target.moduleSegments = item.moduleSegments := by
        rw [Item.moduleSegments, Item.moduleSegments, hmodule, hitem.modulePath]
      constructor
      · rw [hpath, Index.qualified?_own hparent hj hnone, hsegments, hname]
      · simp only [Index.owner?, hparent, hj, hentry, Option.map_some, hkind, hmodule, hname,
          ← hitem.modulePath]
        exact relativeUrl_owner ..
    · rw [hown] at hparent
      have hsame : { item with parent := some (.foreign n) } = item := by rw [← hparent]
      rw [hsame] at hpath ⊢
      constructor
      · rw [hpath, hpath]
      · rw [Index.owner?, Index.owner?, hparent]

theorem forall₂_zipWith {α β γ : Type} {R : α → β → Prop} {f : α → β → γ} {xs : List α}
    {ys : List β} (h : List.Forall₂ R xs ys) :
    List.Forall₂ (fun y z => ∃ x, R x y ∧ z = f x y) ys (List.zipWith f xs ys) := by
  induction h with
  | nil => exact .nil
  | cons hxy _ ih => exact .cons ⟨_, hxy, rfl⟩ ih

/-- The parent of a row that makes an item is an entry of the paths table. -/
theorem problemOf?_foreignItem (hitem : MakesItem rows paths row item) (child : Nat) :
    Index.problemOf? ⟨name, items', paths⟩ child (foreignItem row item) = none := by
  cases hp : row.parent with
  | none => simp [Index.problemOf?, foreignItem, hp, hitem.parent_none hp]
  | some k =>
    obtain ⟨n, hn, rfl, -⟩ := hitem.parent_some hp
    simp [Index.problemOf?, foreignItem, hp, hn]

/-- Lookups do not see which parents are documented: the index that a draft is built to and the one
with all parents in the paths table, which is valid too, agree on every path. -/
theorem build_foreignParents (h : d.build g version = .ok c) :
    checkedIndex c.index.crateName (withForeignParents d.rows c.index).items c.index.paths =
        .valid (withForeignParents d.rows c.index) ∧
      (∀ path, (c.index.resolve path).Agrees ((withForeignParents d.rows c.index).resolve path) ∧
        (c.index.resolve path).relativeUrl? =
          ((withForeignParents d.rows c.index).resolve path).relativeUrl?) ∧
      c.index.mapping = (withForeignParents d.rows c.index).mapping := by
  obtain ⟨items, -, hall, hvalid, rfl⟩ := build_eq_ok h
  have hzip := forall₂_zipWith (f := foreignItem) hall
  have hlinks : List.Forall₂ (SameLink ⟨d.name, items, d.paths⟩
      (withForeignParents d.rows ⟨d.name, items, d.paths⟩)) items
      (withForeignParents d.rows ⟨d.name, items, d.paths⟩).items := by
    refine hzip.imp ?_
    rintro item _ ⟨row, hitem, rfl⟩
    exact sameLink_foreignItem hall hitem _
  have hname : (⟨d.name, items, d.paths⟩ : Index).crateName =
      (withForeignParents d.rows ⟨d.name, items, d.paths⟩).crateName := rfl
  have hagrees (path : SimplePath) := Index.resolve_agrees hname hlinks path
  refine ⟨checkedIndex_eq_valid.mpr ⟨(checkedIndex_eq_valid.mp hvalid).1, rfl, ?_⟩,
    fun path => ⟨hagrees path, (hagrees path).relativeUrl?_eq⟩,
    Index.mapping_eq_of_sameLink hlinks⟩
  apply List.findSome?_eq_none_iff.mpr
  rintro ⟨item', child⟩ hm
  obtain ⟨item, -, row, hitem, rfl⟩ := exists_of_forall₂ hzip (List.fst_mem_of_mem_zipIdx hm)
  exact problemOf?_foreignItem hitem child

/-- A method in front of its struct, and one of a trait that is documented elsewhere. -/
def traitDraft : Draft where
  name := "a"
  doc := []
  rows := [⟨.method, "f", "m", none, some 0⟩, ⟨.struct, "S", "m", none, none⟩,
    ⟨.method, "g", "m", none, some 1⟩]
  paths := [⟨.struct, "S"⟩, ⟨.trait, "T"⟩]

def traitCrate : Crate where
  name := "a"
  version := none
  doc := []
  index := {
    crateName := "a"
    items := [⟨.method, "f", "m", none, some (.own 1)⟩, ⟨.struct, "S", "m", none, none⟩,
      ⟨.method, "g", "m", none, some (.foreign 1)⟩]
    paths := [⟨.struct, "S"⟩, ⟨.trait, "T"⟩] }

theorem build_foreignParents_trait :
    traitDraft.build .v1 none = .ok traitCrate ∧
      (withForeignParents traitDraft.rows traitCrate.index).items.map (·.parent) =
        [some (.foreign 0), none, some (.foreign 1)] ∧
      traitCrate.index.mapping = (withForeignParents traitDraft.rows traitCrate.index).mapping := by
  have hbuild : traitDraft.build .v1 none = .ok traitCrate :=
    toOption_eq_some.mp (by decide +kernel)
  exact ⟨hbuild, rfl, (build_foreignParents hbuild).2.2⟩

end Payload

end RustdocIndex
