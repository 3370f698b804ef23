import RustdocIndex.Link.Crates
import RustdocIndex.Proofs.Fields
import RustdocIndex.Proofs.Link.Resolve
import RustdocIndex.Proofs.Path.Key

/-! A mapping answers a path as looking the path up does. -/
namespace RustdocIndex

namespace Index

/-- The path of every item begins with the crate's name, and has no marks inside its names. -/
def HasPlainPaths (index : Index) : Prop :=
  ∀ item ∈ index.items, ∀ names, index.qualified? item = some names →
    names.head? = some index.crateName ∧ ∀ n ∈ names, Plain n

variable {index : Index} {names : List Text}

theorem pathKey_eq_iff (hplain : index.HasPlainPaths) (hne : names ≠ [])
    (hnames : ∀ n ∈ names, Plain n) {item : Item} (hi : item ∈ index.items) {found : List Text}
    (hf : index.qualified? item = some found) : pathKey found = pathKey names ↔ found = names := by
  obtain ⟨hhead, hfound⟩ := hplain item hi found hf
  have hfne : found ≠ [] := by
    rintro rfl
    simp at hhead
  exact ⟨pathKey_injective hfne hne hfound hnames, congrArg pathKey⟩

/-- Among items, the key of a path finds the first one that has the path. -/
theorem get?_links (hplain : index.HasPlainPaths) (hne : names ≠ [])
    (hnames : ∀ n ∈ names, Plain n) {items : List Item} (hsub : items ⊆ index.items) (k : Nat) :
    Fields.get? (pathKey names) (items.filterMap index.linkOf?) =
      ((items.zipIdx k).find? fun (item, _) => index.qualified? item == some names).map
        fun (item, _) => relativeUrl item (index.owner? item) := by
  induction items generalizing k with
  | nil => rfl
  | cons item items ih =>
    have hi : item ∈ index.items := hsub (by simp)
    have ih := ih (fun i h => hsub (List.mem_cons_of_mem _ h)) (k + 1)
    cases hq : index.qualified? item with
    | none =>
      have hl : index.linkOf? item = none := by simp [linkOf?, hq]
      simp [hl, hq, ih]
    | some found =>
      have hl : index.linkOf? item =
          some (pathKey found, relativeUrl item (index.owner? item)) := by
        simp [linkOf?, hq]
      have hkey := pathKey_eq_iff hplain hne hnames hi hq
      by_cases he : found = names
      · subst he
        simp [hl, hq, Fields.get?]
      · simp [hl, hq, Fields.get?, hkey, he, ih]

/-- Items have no paths that begin with the name of another crate. -/
theorem find?_eq_none (hplain : index.HasPlainPaths) (hne : names.head? ≠ some index.crateName) :
    index.find? names = none := by
  apply find?_eq_none_iff.mpr
  intro item hitem hq
  exact hne (hplain item hitem names hq).1

theorem relativeUrl?_resolve (index : Index) (hplain : index.HasPlainPaths) {p : SimplePath}
    (hlen : 2 ≤ p.names.length) :
    (index.resolve p).relativeUrl? =
      (index.find? p.names).map fun (item, _) => relativeUrl item (index.owner? item) := by
  have honly : p.isCrateOnly = false := by
    cases hm : p.more <;> simp_all [SimplePath.names, SimplePath.segments, SimplePath.isCrateOnly]
  unfold resolve
  split
  · next hc =>
    rw [find?_eq_none hplain]
    · rfl
    · simpa [SimplePath.names, SimplePath.segments, SimplePath.crateName] using hc
  · simp only [honly, Bool.false_eq_true, if_false]
    cases index.find? p.names with
    | none => rfl
    | some found => rfl

theorem get?_mapping (hplain : index.HasPlainPaths) (hne : names ≠ [])
    (hnames : ∀ n ∈ names, Plain n) :
    index.mapping.get? (pathKey names) =
      (index.find? names).map fun (item, _) => relativeUrl item (index.owner? item) := by
  have hfold := Fields.get?_foldl_putNew (pathKey names) (index.items.filterMap index.linkOf?) []
  rw [find?_eq]
  exact hfold.trans (get?_links hplain hne hnames (List.Subset.refl _) 0)

/-- A path of an item has the same page in the mapping as when it is looked up, and the same
address for every identity. -/
theorem resolve_eq_mapping (index : Index) (hplain : index.HasPlainPaths) {t : Text}
    {p : SimplePath} (hp : SimplePath.parse t = .ok p) (hlen : 2 ≤ p.names.length) :
    (index.resolve p).relativeUrl? = index.mapping.get? (pathKey p.names) ∧
      ∀ (sites : Sites) (l : CrateLinks), l.index = index →
        l.findLink sites p = (l.mapping sites).get? (pathKey p.names) := by
  have hnames : ∀ n ∈ p.names, Plain n := SimplePath.plain_of_parse hp
  have hne : p.names ≠ [] := by
    intro he
    simp [he] at hlen
  have hpage : (index.resolve p).relativeUrl? = index.mapping.get? (pathKey p.names) :=
    (relativeUrl?_resolve index hplain hlen).trans (get?_mapping hplain hne hnames).symm
  refine ⟨hpage, ?_⟩
  rintro sites l rfl
  calc l.findLink sites p
    _ = ((l.index.resolve p).relativeUrl?).map fun page =>
          baseUrl sites l.identity ++ slash :: page := rfl
    _ = (l.index.mapping.get? (pathKey p.names)).map fun page =>
          baseUrl sites l.identity ++ slash :: page := by rw [hpage]
    _ = (l.mapping sites).get? (pathKey p.names) := (Fields.get?_map ..).symm

/-- Two items have one path, whose last name is a keyword. -/
def keywordIndex : Index where
  crateName := "a"
  items := [⟨.function, "fn", "a", none, none⟩, ⟨.macroRules, "fn", "a", none, none⟩]
  paths := []

def keywordPath : SimplePath := ⟨⟨"a", false⟩, [⟨"fn", true⟩]⟩

theorem keywordIndex_hasPlainPaths : keywordIndex.HasPlainPaths := by
  intro item hi names hn
  have hq : keywordIndex.qualified? item = some keywordPath.names := by
    simp only [keywordIndex, List.mem_cons, List.not_mem_nil, or_false] at hi
    rcases hi with rfl | rfl <;> decide
  obtain rfl := Option.some.inj (hq.symm.trans hn)
  refine ⟨by decide, fun n hn => ⟨?_, ?_⟩⟩ <;> revert n <;> decide

theorem resolve_eq_mapping_keyword :
    keywordIndex.HasPlainPaths ∧ SimplePath.parse "::a::r#fn" = .ok keywordPath ∧
      2 ≤ keywordPath.names.length ∧
      (keywordIndex.resolve keywordPath).relativeUrl? =
        keywordIndex.mapping.get? (pathKey keywordPath.names) := by
  have hp : SimplePath.parse "::a::r#fn" = .ok keywordPath := by rfl
  have hlen : 2 ≤ keywordPath.names.length := by decide
  exact ⟨keywordIndex_hasPlainPaths, hp, hlen,
    (resolve_eq_mapping keywordIndex keywordIndex_hasPlainPaths hp hlen).1⟩

end Index

end RustdocIndex
