import RustdocIndex.Link.Page
import RustdocIndex.Proofs.Path.Grammar
import RustdocIndex.Proofs.Text.WellFormed

/-! The address of a page tells which item is linked: it is read back, whatever the kind of the item
and however deep its module. -/
namespace RustdocIndex

def point : CodePoint := .ofChar '.'

/-- What the page of an item tells about it: its kind and name, and where it belongs. -/
structure PageSubject where
  kind : ItemKind
  name : Text
  /-- The kind and the name of its owner. -/
  owner : Option (ItemKind × Text)
  /-- The module of the owner, or of an item without one. -/
  modulePath : Text
  deriving DecidableEq

/-- What the page of an item with an owner, or without one, is about. -/
def pageSubject (item : Item) : Option Owner → PageSubject
  | some o => ⟨item.kind, item.name, some (o.kind, o.name), o.modulePath⟩
  | none => ⟨item.kind, item.name, none, item.modulePath⟩

def kindOfTag? (t : Text) : Option ItemKind := ItemKind.all.find? fun k => Text.ofString k.tag == t

/-- What the directories of a page and the parts of its last piece tell. -/
def readParts (dirs : List Text) : List Text → Option PageSubject
  | [_, _] => dirs.getLast?.map fun name => ⟨.module, name, none, Text.joinColons dirs.dropLast⟩
  | [tag, name, anchor] =>
    if tag = Text.ofString "index" then some ⟨.reexport, anchor, none, Text.joinColons dirs⟩
    else (kindOfTag? tag).map fun kind => ⟨kind, name, none, Text.joinColons dirs⟩
  | [ownerTag, ownerName, anchor, name] => do
    let ownerKind ← kindOfTag? ownerTag
    let kind ← kindOfTag? (← after? (Text.ofString "html#") anchor)
    pure ⟨kind, name, some (ownerKind, ownerName), Text.joinColons dirs⟩
  | _ => none

/-- What a page tells: slashes end its directories, and points divide its last piece. -/
def readPage (page : Text) : Option PageSubject :=
  let pieces := splitAt slash page
  readParts pieces.dropLast (splitAt point (pieces.getLast?.getD []))

/-- A link of an item whose names are identifiers. Modules and re-exports belong to no owner, and an
extern crate has its page in another documentation. -/
structure IsNamed (item : Item) (owner : Option Owner) : Prop where
  name : isIdentifier item.name
  modulePath : ∀ s ∈ item.moduleSegments, isIdentifier s
  ownerName : ∀ o ∈ owner, isIdentifier o.name
  ownerPath : ∀ o ∈ owner, ∀ s ∈ o.modulePath.splitColons, isIdentifier s
  kind : item.kind ≠ .externCrate
  unowned : item.kind = .module ∨ item.kind = .reexport → owner = none

/-- A text without the marks between the parts of an address. -/
def Unmarked (t : Text) : Prop := slash ∉ t ∧ point ∉ t

section

variable {t : Text} {dirs parts : List Text} {item other : Item}
  {owner otherOwner : Option Owner}

/-- Neither mark continues an identifier. -/
theorem unmarked_of_isIdentifier (h : isIdentifier t) : Unmarked t := by
  constructor <;> intro hm
  · exact absurd (isIdentifierContinue_of_mem h hm) (by decide +kernel)
  · exact absurd (isIdentifierContinue_of_mem h hm) (by decide +kernel)

theorem unmarked_append {s : Text} (hs : Unmarked s) (ht : Unmarked t) : Unmarked (s ++ t) := by
  simp only [Unmarked, List.mem_append, not_or]
  exact ⟨⟨hs.1, ht.1⟩, hs.2, ht.2⟩

theorem unmarked_tag (kind : ItemKind) : Unmarked (Text.ofString kind.tag) := by
  cases kind <;> exact ⟨by decide, by decide⟩

theorem kindOfTag?_tag (kind : ItemKind) : kindOfTag? (Text.ofString kind.tag) = some kind := by
  cases kind <;> decide +kernel

theorem tag_ne_index (kind : ItemKind) : Text.ofString kind.tag ≠ Text.ofString "index" := by
  cases kind <;> decide

/-- The parts between the slashes and, in the last piece, between the points. -/
def address (dirs parts : List Text) : Text :=
  joinWith [slash] (dirs ++ [joinWith [point] parts])

theorem notMem_joinWith_point (h : ∀ part ∈ parts, Unmarked part) :
    slash ∉ joinWith [point] parts := by
  induction parts with
  | nil => simp [joinWith]
  | cons part more ih =>
    have hpart := (h part (by simp)).1
    cases more with
    | nil => exact hpart
    | cons next more =>
      have hmore := ih fun q hq => h q (List.mem_cons_of_mem _ hq)
      have hpoint : slash ≠ point := by decide
      simp [joinWith_cons_cons, hpart, hpoint, hmore]

/-- Cutting an address at slashes gives its directories back, and the file name last. -/
theorem splitAt_address (hdirs : ∀ dir ∈ dirs, Unmarked dir) (hparts : ∀ part ∈ parts, Unmarked part) :
    splitAt slash (address dirs parts) = dirs ++ [joinWith [point] parts] := by
  refine splitAt_joinWith (by simp) fun piece hpiece => ?_
  rcases List.mem_append.mp hpiece with hpiece | hpiece
  · exact (hdirs piece hpiece).1
  · rw [List.mem_singleton.mp hpiece]
    exact notMem_joinWith_point hparts

/-- An address is read from the parts it is made of, since none of them has a mark in it. -/
theorem readPage_address (hdirs : ∀ dir ∈ dirs, Unmarked dir) (hne : parts ≠ [])
    (hparts : ∀ part ∈ parts, Unmarked part) :
    readPage (address dirs parts) = readParts dirs parts := by
  rw [readPage, splitAt_address hdirs hparts, List.dropLast_concat, List.getLast?_concat,
    Option.getD_some, splitAt_joinWith hne fun part hp => (hparts part hp).2]

theorem address_eq (h : dirs ≠ []) :
    address dirs parts = joinWith [slash] dirs ++ slash :: joinWith [point] parts := by
  rw [address, joinWith_concat _ _ h, List.append_assoc, List.singleton_append]

theorem moduleSegments_ne_nil (item : Item) : item.moduleSegments ≠ [] :=
  Text.splitColons_ne_nil _

theorem joinColons_moduleSegments (item : Item) :
    Text.joinColons item.moduleSegments = item.modulePath := Text.joinColons_splitColons _

/-- A module has a page of its own, in its own directory. -/
theorem relativeUrl_module (h : item.kind = .module) :
    relativeUrl item owner = address (item.moduleSegments ++ [item.name]) ["index", "html"] := by
  rw [address_eq (by simp), joinWith_concat _ _ (moduleSegments_ne_nil item), relativeUrl.eq_def, h]
  simp only [moduleDirs, Item.moduleSegments, List.append_assoc, List.singleton_append]
  rfl

/-- A re-export is a place on the page of its module. -/
theorem relativeUrl_reexport (h : item.kind = .reexport) :
    relativeUrl item owner =
      address item.moduleSegments ["index", "html#reexport", item.name] := by
  rw [address_eq (moduleSegments_ne_nil item), relativeUrl.eq_def, h]
  simp only [moduleDirs, Item.moduleSegments, List.append_assoc]
  rfl

/-- The page of an owner, and an anchor on it. -/
theorem relativeUrl_owned (o : Owner) (hlinked : item.kind ≠ .externCrate)
    (hmodule : item.kind ≠ .module) (hreexport : item.kind ≠ .reexport) :
    relativeUrl item (some o) = address o.modulePath.splitColons
      [Text.ofString o.kind.tag, o.name, Text.ofString ("html#" ++ item.kind.tag), item.name] := by
  rw [address_eq (Text.splitColons_ne_nil _), relativeUrl.eq_def]
  split
  · contradiction
  · contradiction
  · contradiction
  · next howner _ _ _ =>
    cases howner
    simp only [moduleDirs, tagged, joinWith, Text.ofString_append, List.append_assoc,
      List.cons_append]
    rfl
  · contradiction

/-- Any other item without an owner has a page named after its kind and name. -/
theorem relativeUrl_plain (hlinked : item.kind ≠ .externCrate) (hmodule : item.kind ≠ .module)
    (hreexport : item.kind ≠ .reexport) :
    relativeUrl item none =
      address item.moduleSegments [Text.ofString item.kind.tag, item.name, "html"] := by
  rw [address_eq (moduleSegments_ne_nil item), relativeUrl.eq_def]
  split
  · contradiction
  · contradiction
  · contradiction
  · contradiction
  · simp only [moduleDirs, tagged, joinWith, Text.ofString_append, List.append_assoc,
      List.cons_append]
    rfl

theorem unmarked_html : Unmarked "html" := ⟨by decide, by decide⟩

theorem unmarked_index : Unmarked "index" := ⟨by decide, by decide⟩

namespace IsNamed

/-- The name of an item is an identifier, which has no marks of addresses in it. -/
theorem unmarked_name (h : IsNamed item owner) : Unmarked item.name :=
  unmarked_of_isIdentifier h.name

theorem unmarked_dirs (h : IsNamed item owner) : ∀ s ∈ item.moduleSegments, Unmarked s :=
  fun s hs => unmarked_of_isIdentifier (h.modulePath s hs)

theorem readPage_module (h : IsNamed item owner) (hkind : item.kind = .module) :
    readPage (relativeUrl item owner) = some (pageSubject item owner) := by
  obtain rfl := h.unowned (.inl hkind)
  have hdirs : ∀ s ∈ item.moduleSegments ++ [item.name], Unmarked s := by
    simpa [or_imp, forall_and] using ⟨h.unmarked_dirs, h.unmarked_name⟩
  rw [relativeUrl_module hkind,
    readPage_address hdirs (by simp) (by simp [unmarked_index, unmarked_html])]
  simp [readParts, pageSubject, hkind, joinColons_moduleSegments]

theorem readPage_reexport (h : IsNamed item owner) (hkind : item.kind = .reexport) :
    readPage (relativeUrl item owner) = some (pageSubject item owner) := by
  obtain rfl := h.unowned (.inr hkind)
  have hanchor : Unmarked "html#reexport" := ⟨by decide, by decide⟩
  rw [relativeUrl_reexport hkind, readPage_address h.unmarked_dirs (by simp)
    (by simp [unmarked_index, hanchor, h.unmarked_name])]
  simp [readParts, pageSubject, hkind, joinColons_moduleSegments]

theorem readPage_plain (h : IsNamed item none) (hmodule : item.kind ≠ .module)
    (hreexport : item.kind ≠ .reexport) :
    readPage (relativeUrl item none) = some (pageSubject item none) := by
  rw [relativeUrl_plain h.kind hmodule hreexport, readPage_address h.unmarked_dirs (by simp)
    (by simp [unmarked_tag, unmarked_html, h.unmarked_name])]
  simp [readParts, pageSubject, tag_ne_index, kindOfTag?_tag, joinColons_moduleSegments]

theorem readPage_owned {o : Owner} (h : IsNamed item (some o)) (hmodule : item.kind ≠ .module)
    (hreexport : item.kind ≠ .reexport) :
    readPage (relativeUrl item (some o)) = some (pageSubject item (some o)) := by
  have hname := unmarked_of_isIdentifier (h.ownerName o rfl)
  have hdirs : ∀ s ∈ o.modulePath.splitColons, Unmarked s :=
    fun s hs => unmarked_of_isIdentifier (h.ownerPath o rfl s hs)
  have hanchor : Text.ofString ("html#" ++ item.kind.tag) =
      Text.ofString "html#" ++ Text.ofString item.kind.tag := Text.ofString_append _ _
  have hmark : Unmarked "html#" := ⟨by decide, by decide⟩
  have hafter := after?_eq_some.mpr hanchor
  rw [relativeUrl_owned o h.kind hmodule hreexport, readPage_address hdirs (by simp)
    (by simp [hanchor, unmarked_append hmark, unmarked_tag, hname, h.unmarked_name])]
  simp [readParts, pageSubject, hafter, kindOfTag?_tag, Text.joinColons_splitColons]

/-- The page of an item is read back, in each of its four forms. -/
theorem readPage_relativeUrl (h : IsNamed item owner) :
    readPage (relativeUrl item owner) = some (pageSubject item owner) := by
  by_cases hmodule : item.kind = .module
  · exact h.readPage_module hmodule
  by_cases hreexport : item.kind = .reexport
  · exact h.readPage_reexport hreexport
  cases owner with
  | none => exact h.readPage_plain hmodule hreexport
  | some o => exact h.readPage_owned hmodule hreexport

/-- An item with an owner is not linked in its own module. -/
theorem ne_of_owned {o : Owner} (h : IsNamed item (some o)) :
    item.kind ≠ .module ∧ item.kind ≠ .reexport :=
  ⟨fun hk => Option.some_ne_none o (h.unowned (.inl hk)),
    fun hk => Option.some_ne_none o (h.unowned (.inr hk))⟩

end IsNamed

/-- Two items have one page exactly if they agree in kind and name, and in the kind, name and module
of their owners or, without owners, in their modules. -/
theorem relativeUrl_eq_iff (h : IsNamed item owner) (hother : IsNamed other otherOwner) :
    relativeUrl item owner = relativeUrl other otherOwner ↔
      pageSubject item owner = pageSubject other otherOwner := by
  constructor
  · intro heq
    have hread := congrArg readPage heq
    rw [h.readPage_relativeUrl, hother.readPage_relativeUrl] at hread
    exact Option.some.inj hread
  · intro heq
    cases owner with
    | none =>
      cases otherOwner with
      | none =>
        simp only [pageSubject, PageSubject.mk.injEq] at heq
        obtain ⟨hkind, hname, -, hpath⟩ := heq
        simp only [relativeUrl.eq_def, hkind, hname, hpath]
      | some o => simp [pageSubject] at heq
    | some o =>
      cases otherOwner with
      | none => simp [pageSubject] at heq
      | some o' =>
        simp only [pageSubject, PageSubject.mk.injEq, Option.some.injEq, Prod.mk.injEq] at heq
        obtain ⟨hkind, hname, ⟨hownerKind, hownerName⟩, hpath⟩ := heq
        rw [relativeUrl_owned o h.kind h.ne_of_owned.1 h.ne_of_owned.2,
          relativeUrl_owned o' hother.kind hother.ne_of_owned.1 hother.ne_of_owned.2,
          hkind, hname, hownerKind, hownerName, hpath]

end

/-- A method that is recorded in a module below the one of its struct. -/
def nestedMethod : Item := ⟨.method, "new", "a::b::c", none, some (.own 0)⟩

def structOwner : Owner := ⟨.struct, "S", "a::b", some 0⟩

/-- The same method, of a struct that is not documented. -/
def foreignMethod : Item := ⟨.method, "new", "a::b", none, some (.foreign 0)⟩

def foreignOwner : Owner := ⟨.struct, "S", "a::b", none⟩

theorem relativeUrl_eq_iff_method : IsNamed nestedMethod (some structOwner) ∧
    IsNamed foreignMethod (some foreignOwner) ∧
    relativeUrl nestedMethod (some structOwner) = "a/b/struct.S.html#method.new" ∧
    relativeUrl foreignMethod (some foreignOwner) = "a/b/struct.S.html#method.new" ∧
    pageSubject nestedMethod (some structOwner) = pageSubject foreignMethod (some foreignOwner) := by
  have hnested : IsNamed nestedMethod (some structOwner) :=
    ⟨by decide +kernel, by decide +kernel, by decide +kernel, by decide +kernel, by decide, by decide⟩
  have hforeign : IsNamed foreignMethod (some foreignOwner) :=
    ⟨by decide +kernel, by decide +kernel, by decide +kernel, by decide +kernel, by decide, by decide⟩
  have hpage : relativeUrl nestedMethod (some structOwner) = "a/b/struct.S.html#method.new" := by
    decide +kernel
  have hpage' : relativeUrl foreignMethod (some foreignOwner) = "a/b/struct.S.html#method.new" := by
    decide +kernel
  exact ⟨hnested, hforeign, hpage, hpage',
    (relativeUrl_eq_iff hnested hforeign).mp (hpage.trans hpage'.symm)⟩

end RustdocIndex
