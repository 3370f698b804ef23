import RustdocIndex.Link.Crates
import RustdocIndex.Proofs.Link.Identity
import RustdocIndex.Proofs.Link.Resolve
import RustdocIndex.Proofs.Path.Grammar
import RustdocIndex.Proofs.Text.WellFormed

/-! Addresses have no halves of surrogate pairs, although the names in a paths table may have some. -/
namespace RustdocIndex

open Text (IsWellFormed isWellFormed_append isWellFormed_cons isWellFormed_joinWith
  isWellFormed_ofString)

namespace SimplePath

variable {t name : Text} {c : CodePoint} {path : SimplePath}

/-- The halves of surrogate pairs lie in a gap of the tables that identifiers are read by. -/
theorem isSurrogate_of_isIdentifierContinue (h : isIdentifierContinue c) :
    c.isSurrogate = false := by
  have hgap : ∀ r ∈ identifierStartRanges ++ identifierContinueRanges,
      r.last < 0xD800 ∨ 0xDFFF < r.first := by decide +kernel
  have hrange : (identifierStartRanges ++ identifierContinueRanges).any (·.contains c.val) := by
    rwa [List.any_append]
  obtain ⟨r, hr, hc⟩ := List.any_eq_true.mp hrange
  have hr := hgap r hr
  simp only [CodeRange.contains, Bool.and_eq_true, decide_eq_true_eq] at hc
  simp only [CodePoint.isSurrogate, CodePoint.isHighSurrogate, CodePoint.isLowSurrogate,
    Bool.or_eq_false_iff, Bool.and_eq_false_iff, decide_eq_false_iff_not]
  omega

theorem isWellFormed_of_isName (h : isName name) : name.IsWellFormed := by
  simp only [isName, Bool.and_eq_true] at h
  exact fun c hc => isSurrogate_of_isIdentifierContinue (isIdentifierContinue_of_mem h.1 hc)

theorem isWellFormed_names (h : parse t = .ok path) : ∀ name ∈ path.names, name.IsWellFormed :=
  fun name hname => isWellFormed_of_isName (isName_of_parse h name hname).1

theorem isWellFormed_text (h : ∀ name ∈ path.names, name.IsWellFormed) :
    path.text.IsWellFormed := by
  refine (isWellFormed_joinWith (Text.isWellFormed_ofChars [':', ':'])).mpr ?_
  refine List.forall_mem_map.mpr fun s hs => ?_
  have hname : s.name.IsWellFormed := h _ (List.mem_map_of_mem hs)
  unfold Segment.text
  split
  · exact isWellFormed_append.mpr ⟨isWellFormed_ofString _, hname⟩
  · exact hname

/-- A text with half of a surrogate pair in it is no path. -/
theorem isWellFormed_of_parse (h : parse t = .ok path) : t.IsWellFormed := by
  have htext : path.text.IsWellFormed := isWellFormed_text (isWellFormed_names h)
  obtain ⟨body, pieces, hbody, rfl, hall⟩ := parse_eq_ok.mp h
  rw [text_eq_joinColons hall] at htext
  generalize Text.joinColons pieces = body at hbody htext
  cases hbody with
  | global => exact isWellFormed_append.mpr ⟨Text.isWellFormed_ofChars [':', ':'], htext⟩
  | bare => exact htext

end SimplePath

/-- A crate's name and those of its items and modules are well-formed. -/
structure Index.IsWellFormed (index : Index) : Prop where
  crateName : index.crateName.IsWellFormed
  name : ∀ item ∈ index.items, item.name.IsWellFormed
  modulePath : ∀ item ∈ index.items, item.modulePath.IsWellFormed

section

variable {item : Item} {o : Owner} {index : Index} {path : SimplePath} {t : Text}

theorem isWellFormed_moduleDirs (h : t.IsWellFormed) : (moduleDirs t).IsWellFormed :=
  (isWellFormed_joinWith (Text.isWellFormed_ofChars ['/'])).mpr
    (Text.isWellFormed_splitColons.mpr h)

theorem isWellFormed_tagged (kind : ItemKind) (h : t.IsWellFormed) :
    (tagged kind t).IsWellFormed := isWellFormed_append.mpr ⟨isWellFormed_ofString _, h⟩

theorem isWellFormed_slash : slash.isSurrogate = false := CodePoint.isSurrogate_ofChar '/'

/-- The page of an item has its own names and those of its owner, and no other text of the payload. -/
theorem isWellFormed_relativeUrl (hname : item.name.IsWellFormed)
    (hmodule : item.modulePath.IsWellFormed) {owner : Option Owner}
    (howner : ∀ o ∈ owner, o.name.IsWellFormed ∧ o.modulePath.IsWellFormed) :
    (relativeUrl item owner).IsWellFormed := by
  have hdirs := isWellFormed_moduleDirs hmodule
  have hitem := isWellFormed_tagged item.kind hname
  unfold relativeUrl
  split
  · simp [isWellFormed_append, isWellFormed_cons, isWellFormed_slash, isWellFormed_ofString, *]
  · simp [isWellFormed_append, isWellFormed_ofString, *]
  · simp [isWellFormed_append, isWellFormed_ofString, *]
  · next o _ _ _ =>
    obtain ⟨ho, hm⟩ := howner o rfl
    have hdirs' := isWellFormed_moduleDirs hm
    have howner' := isWellFormed_tagged o.kind ho
    simp [isWellFormed_append, isWellFormed_cons, isWellFormed_slash, isWellFormed_ofString, *]
  · simp [isWellFormed_append, isWellFormed_cons, isWellFormed_slash, isWellFormed_ofString, *]

/-- The owner of an item on a path has a name from the path, if not one that is checked. -/
theorem isWellFormed_owner (hindex : index.IsWellFormed) (hitem : item ∈ index.items)
    (hpath : ∀ name ∈ path.names, name.IsWellFormed)
    (hq : index.qualified? item = some path.names) (ho : index.owner? item = some o) :
    o.name.IsWellFormed ∧ o.modulePath.IsWellFormed := by
  unfold Index.owner? at ho
  split at ho
  · cases ho
  · next i _ =>
    obtain ⟨target, ht, rfl⟩ := Option.map_eq_some_iff.mp ho
    have hmem := List.mem_of_getElem? ht
    exact ⟨hindex.name target hmem, hindex.modulePath target hmem⟩
  · next k hk =>
    obtain ⟨entry, he, rfl⟩ := Option.map_eq_some_iff.mp ho
    refine ⟨hpath entry.name ?_, hindex.modulePath item hitem⟩
    rw [Index.qualified?, Index.climb?.eq_def, hk] at hq
    obtain ⟨entry', he', hnames⟩ := Option.map_eq_some_iff.mp hq
    cases he.symm.trans he'
    rw [← hnames]
    simp

/-- The page of what a path leads to. -/
theorem isWellFormed_resolve (hindex : index.IsWellFormed)
    (hpath : ∀ name ∈ path.names, name.IsWellFormed)
    (h : (index.resolve path).relativeUrl? = some t) : t.IsWellFormed := by
  unfold Index.resolve at h
  split at h
  · cases h
  · split at h
    · cases h
      exact isWellFormed_append.mpr
        ⟨Text.isWellFormed_replace '-' '_' hindex.crateName, isWellFormed_ofString _⟩
    · split at h
      · next item position hfind =>
        cases h
        obtain ⟨hpos, hq, -⟩ := Index.find?_eq_some.mp hfind
        have hitem : item ∈ index.items := List.mem_of_getElem? hpos
        exact isWellFormed_relativeUrl (hindex.name item hitem) (hindex.modulePath item hitem)
          fun o ho => isWellFormed_owner hindex hitem hpath hq ho
      · cases h

end

theorem isWellFormed_baseUrl (sites : Sites) {id : CrateIdentity} (h : id.name.IsWellFormed) :
    (baseUrl sites id).IsWellFormed := by
  unfold baseUrl
  split
  · exact isWellFormed_ofString _
  · simp [isWellFormed_append, isWellFormed_ofString, h]

/-- Whatever is decoded has well-formed names where addresses need them. -/
theorem Payload.isWellFormed_of_decode {hint : Option String} {version : Option Text} {p : Payload}
    {found : List Crate} {c : Crate} (h : p.decode hint version = .ok found) (hc : c ∈ found) :
    c.name.IsWellFormed ∧ c.index.IsWellFormed := by
  obtain ⟨g, d, hd⟩ := exists_build_of_decode h hc
  have hname := (Schema.nonemptyText_self.mp (name_of_build hd)).2
  have hitems := checked_of_build hd
  obtain ⟨items, -, -, -, rfl⟩ := items_of_build hd
  exact ⟨hname, hname, fun item hi => (Schema.nonemptyText_self.mp (hitems item hi).1).2,
    fun item hi => (Schema.nonemptyText_self.mp (hitems item hi).2).2⟩

theorem CrateIdentity.isWellFormed_of_make {id : CrateIdentity} {name : Text}
    {version : Option Text} {hosting : Hosting} (h : make name version hosting = .ok id) :
    id.name.IsWellFormed := by
  obtain ⟨v, -, hname, rfl, -⟩ := make_eq_ok.mp h
  exact (Schema.nonemptyText_self.mp hname).2

namespace CrateLinks

variable {links : List CrateLinks} {l : CrateLinks} {path : SimplePath} {sites : Sites}

/-- Links to a crate whose names are well-formed. -/
structure IsWellFormed (l : CrateLinks) : Prop where
  index : l.index.IsWellFormed
  name : l.identity.name.IsWellFormed

theorem IsWellFormed.findLink (h : l.IsWellFormed) (hpath : ∀ name ∈ path.names, name.IsWellFormed)
    {url : Text} (hurl : l.findLink sites path = some url) : url.IsWellFormed := by
  obtain ⟨page, hpage, rfl⟩ := Option.map_eq_some_iff.mp hurl
  exact isWellFormed_append.mpr ⟨isWellFormed_baseUrl sites h.name,
    isWellFormed_cons.mpr ⟨isWellFormed_slash, isWellFormed_resolve h.index hpath hpage⟩⟩

/-- Crates that are loaded under a well-formed name have well-formed links. -/
theorem isWellFormed_of_load {p : Payload} {id : CrateIdentity} (hid : id.name.IsWellFormed)
    (h : load p id = .ok links) : ∀ l ∈ links, l.IsWellFormed := by
  obtain ⟨found, hfound, rfl⟩ := load_eq_ok.mp h
  refine List.forall_mem_map.mpr fun c hc => ?_
  obtain ⟨hname, hindex⟩ := Payload.isWellFormed_of_decode hfound hc
  refine ⟨hindex, ?_⟩
  dsimp only
  split
  · exact hid
  · exact hname

theorem mem_of_pick {name : Text} (h : pick links name = .ok l) : l ∈ links := by
  unfold pick at h
  split at h
  · next hfind =>
    cases h
    exact List.mem_of_find?_eq_some hfind
  · cases h

/-- Only what is not found has no address. -/
theorem findLink_eq_none : l.findLink sites path = none ↔
    ∃ wanted, l.resolve path = .notFound wanted := by
  rw [CrateLinks.findLink, Outcome.url?, Option.map_eq_none_iff]
  cases l.resolve path <;> simp [Outcome.relativeUrl?]

end CrateLinks

end RustdocIndex
