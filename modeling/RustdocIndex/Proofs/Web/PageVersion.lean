import Mathlib.Data.List.TakeDrop
import RustdocIndex.Proofs.Web.Fetch

/-! The version in the address of a page is the version that the address was made for. -/
namespace RustdocIndex

variable {c d : Char} {marks s t : List Char}

/-- A letter or digit of ASCII, or one of the `marks`. -/
def IsWordChar (marks : List Char) (c : Char) : Prop := c.isAlphanum ∨ c ∈ marks

instance : Decidable (IsWordChar marks c) := inferInstanceAs (Decidable (_ ∨ _))

theorem isWordChar_of_all (h : s.all fun c => IsWordChar marks c) :
    ∀ c ∈ s, IsWordChar marks c := by simpa using h

theorem IsWordChar.ne (h : IsWordChar marks c) (hd : ¬ IsWordChar marks d) : c ≠ d := by
  rintro rfl
  exact hd h

theorem toNat_of_between {low high : Char} (hlow : low.val ≤ c.val) (hhigh : c.val ≤ high.val) :
    low.toNat ≤ c.toNat ∧ c.toNat ≤ high.toNat :=
  ⟨UInt32.le_iff_toNat_le.mp hlow, UInt32.le_iff_toNat_le.mp hhigh⟩

theorem toNat_of_isAlphanum (h : c.isAlphanum) : 48 ≤ c.toNat ∧ c.toNat ≤ 122 := by
  obtain ⟨low, high, hlow, hhigh, hc⟩ : ∃ low high : Char, 48 ≤ low.toNat ∧ high.toNat ≤ 122 ∧
      low.toNat ≤ c.toNat ∧ c.toNat ≤ high.toNat := by
    rcases Bool.or_eq_true_iff.mp h with halpha | hdigit
    · rcases Bool.or_eq_true_iff.mp halpha with hupper | hlower
      · obtain ⟨hA, hZ⟩ := of_decide_eq_true hupper
        exact ⟨'A', 'Z', by decide, by decide, toNat_of_between hA hZ⟩
      · obtain ⟨ha, hz⟩ := Bool.and_eq_true_iff.mp hlower
        exact ⟨'a', 'z', by decide, by decide,
          toNat_of_between (of_decide_eq_true ha) (of_decide_eq_true hz)⟩
    · exact ⟨'0', '9', by decide, by decide, toNat_of_isDigit hdigit⟩
  exact ⟨Nat.le_trans hlow hc.1, Nat.le_trans hc.2 hhigh⟩

theorem IsWordChar.toNat_lt (h : IsWordChar marks c) (hmarks : ∀ d ∈ marks, d.toNat < 128) :
    c.toNat < 128 := by
  rcases h with h | h
  · have hhigh := (toNat_of_isAlphanum h).2
    omega
  · exact hmarks c h

theorem isBlank_of_toNat (hlow : 32 < c.toNat) (hhigh : c.toNat < 128) : isBlank c = false := by
  simp only [isBlank, Bool.or_eq_false_iff, Bool.and_eq_false_iff, beq_eq_false_iff_ne,
    decide_eq_false_iff_not]
  omega

namespace SemanticVersion

theorem isWordChar_of_mem_identifierChars {sign : Char} {ids : List (List Char)}
    (hsign : sign ∈ ['-', '.', '+']) (hids : ∀ id ∈ ids, isBuildIdentifier id)
    (h : c ∈ identifierChars sign ids) : IsWordChar ['-', '.', '+'] c := by
  cases ids with
  | nil => cases h
  | cons id more =>
    rcases List.mem_cons.mp h with rfl | h
    · exact .inr hsign
    · rcases eq_or_mem_of_mem_joinWith h with rfl | ⟨id, hid, hc⟩
      · exact .inr (by simp)
      · have hall := hids id hid
        simp only [isBuildIdentifier, Bool.and_eq_true, List.all_eq_true] at hall
        have hchar := hall.2 c hc
        simp only [isIdentifierChar, Bool.or_eq_true, beq_iff_eq] at hchar
        exact hchar.imp_right (by simp +contextual)

/-- A semantic version is written with letters, digits and three signs, whichever of its parts it
has. -/
theorem isWordChar_of_parse? {v : SemanticVersion} (h : parse? s = some v) :
    ∀ c ∈ v.chars, IsWordChar ['-', '.', '+'] c := by
  intro d hd
  obtain ⟨a, b, c, -, ha, hb, hc, hpre, hbuild⟩ := parse?_eq_some h
  have hprerelease : ∀ id ∈ v.prerelease, isBuildIdentifier id := by
    intro id hid
    have := valid_of_identifiers? hpre id hid
    simp only [isPrereleaseIdentifier, Bool.and_eq_true] at this
    exact this.1
  rw [chars, natChars_number ha, natChars_number hb, natChars_number hc] at hd
  rcases List.mem_append.mp hd with hd | hd
  · rcases List.mem_append.mp hd with hd | hd
    · rcases eq_or_mem_of_mem_joinWith hd with rfl | ⟨part, hpart, hdigit⟩
      · decide
      · replace hdigit : d.isDigit := by
          simp only [List.mem_cons, List.not_mem_nil, or_false] at hpart
          rcases hpart with rfl | rfl | rfl
          · exact isDigit_of_number? ha d hdigit
          · exact isDigit_of_number? hb d hdigit
          · exact isDigit_of_number? hc d hdigit
        exact .inl (by simp [Char.isAlphanum, hdigit])
    · exact isWordChar_of_mem_identifierChars (by decide) hprerelease hd
  · exact isWordChar_of_mem_identifierChars (by decide) (valid_of_identifiers? hbuild) hd

end SemanticVersion

/-- The text of every version is written so, the names of channels included. -/
theorem Version.isWordChar_text {v : Version} {text : String} (h : parse text = .ok v) :
    ∀ c ∈ v.text.toList, IsWordChar ['-', '.', '+'] c := by
  cases v with
  | latest => exact isWordChar_of_all (by decide)
  | channel k => cases k <;> exact isWordChar_of_all (by decide)
  | semantic v =>
    rw [Version.text, String.toList_ofList]
    exact SemanticVersion.isWordChar_of_parse? (parse?_of_parse_semantic h)

namespace Url

/-- A character that stays where it is when an address is read: neither white space nor a control,
nor the beginning of a query or a fragment. -/
def IsPlain (c : Char) : Prop := 32 < c.toNat ∧ c ≠ '?' ∧ c ≠ '#'

instance : Decidable (IsPlain c) := inferInstanceAs (Decidable (_ ∧ _))

theorem IsPlain.of_isWordChar (h : IsWordChar marks c) (hmarks : ∀ d ∈ marks, IsPlain d) :
    IsPlain c := by
  rcases h with h | h
  · have hlow := (toNat_of_isAlphanum h).1
    refine ⟨by omega, ?_, ?_⟩ <;>
    · rintro rfl
      cases h
  · exact hmarks c h

/-- Nothing is taken out of an address of plain characters. -/
theorem clean_eq_self (h : ∀ c ∈ s, IsPlain c) : clean s = s := by
  have hdrop : s.dropWhile (·.toNat ≤ 32) = s := dropWhile_eq_self fun c hc => by
    have := (h c (List.mem_of_mem_head? hc)).1
    simpa using this
  rw [clean, hdrop, List.filter_eq_self]
  intro c hc
  have hlow := (h c hc).1
  simp only [Bool.and_eq_true, bne_iff_ne]
  refine ⟨⟨?_, ?_⟩, ?_⟩ <;>
  · rintro rfl
    exact absurd hlow (by decide)

theorem dropScheme_http (s : List Char) : dropScheme ("http".toList ++ ':' :: s) = s := by
  simp [dropScheme, cutAt, isSchemeChar, Char.isAlphanum]

theorem dropScheme_https (s : List Char) : dropScheme ("https".toList ++ ':' :: s) = s := by
  simp [dropScheme, cutAt, isSchemeChar, Char.isAlphanum]

/-- A host ends at the slash behind it, since it has none of its own. -/
theorem cutHost_append {host : List Char} (h : ∀ c ∈ host, IsWordChar ['.', '-'] c) :
    cutHost ('/' :: '/' :: (host ++ '/' :: s)) = (host, '/' :: s) := by
  have hhost : ∀ c ∈ host, (c != '/' && c != '?' && c != '#') = true := by
    intro c hc
    have := h c hc
    simp only [Bool.and_eq_true, bne_iff_ne]
    exact ⟨⟨this.ne (by decide), this.ne (by decide)⟩, this.ne (by decide)⟩
  rw [cutHost, List.span_eq_takeWhile_dropWhile, List.takeWhile_append_of_pos hhost,
    List.dropWhile_append_of_pos hhost]
  simp

theorem checkHost_eq_ok {host : List Char} (h : ∀ c ∈ host, IsWordChar ['.', '-'] c) :
    checkHost host = .ok () := by
  have hopen : host.contains '[' = false := by
    simpa using fun hc => (h _ hc).ne (d := '[') (by decide) rfl
  have hclose : host.contains ']' = false := by
    simpa using fun hc => (h _ hc).ne (d := ']') (by decide) rfl
  have hlookalike : (host.any fun c => lookalikes.contains c.toNat) = false := by
    rw [List.any_eq_false]
    intro c hc hcontains
    have hlow : ∀ n ∈ lookalikes, 128 ≤ n := by decide
    have hge := hlow c.toNat (by simpa using hcontains)
    have hlt := (h c hc).toNat_lt (by simp)
    omega
  rw [checkHost, checkBrackets, hopen, hclose, hlookalike]
  rfl

/-- The address of a site that is a scheme and the name of a host. -/
def IsSite (root : String) : Prop :=
  ∃ scheme host, (scheme = "http" ∨ scheme = "https") ∧ root = s!"{scheme}://{host}" ∧
    host ≠ "" ∧ ∀ c ∈ host.toList, IsWordChar ['.', '-'] c

/-- What is put behind the address of a site is its path. -/
theorem path_append {root : String} (hroot : IsSite root) (hs : ∀ c ∈ s, IsPlain c) :
    path (root ++ String.ofList ('/' :: s)) = .ok ('/' :: s) := by
  obtain ⟨scheme, host, hscheme, rfl, -, hhost⟩ := hroot
  have htext : (s!"{scheme}://{host}" ++ String.ofList ('/' :: s)).toList =
      scheme.toList ++ ':' :: '/' :: '/' :: (host.toList ++ '/' :: s) := by
    simp [String.toList_append, toString]
  have hplain : ∀ c ∈ scheme.toList ++ ':' :: '/' :: '/' :: (host.toList ++ '/' :: s),
      IsPlain c := by
    have hword : ∀ c ∈ scheme.toList, IsWordChar [] c := by
      rcases hscheme with rfl | rfl <;> exact isWordChar_of_all (by decide)
    intro c hc
    simp only [List.mem_append, List.mem_cons] at hc
    rcases hc with hc | rfl | rfl | rfl | hc | rfl | hc
    · exact .of_isWordChar (hword c hc) (by simp)
    · decide
    · decide
    · decide
    · exact .of_isWordChar (hhost c hc) (by simp [IsPlain])
    · decide
    · exact hs c hc
  have hdrop : dropScheme (scheme.toList ++ ':' :: '/' :: '/' :: (host.toList ++ '/' :: s)) =
      '/' :: '/' :: (host.toList ++ '/' :: s) := by
    rcases hscheme with rfl | rfl
    · exact dropScheme_http _
    · exact dropScheme_https _
  have hfragment : '#' ∉ '/' :: s := by
    simpa using fun h => (hs _ h).2.2 rfl
  have hquery : '?' ∉ '/' :: s := by
    simpa using fun h => (hs _ h).2.1 rfl
  rw [path, htext, clean_eq_self hplain, hdrop, cutHost_append hhost]
  simp only [checkHost_eq_ok hhost, cutAt_of_notMem hfragment, cutAt_of_notMem hquery]
  rfl

end Url

/-- The name of a crate in an address: letters, digits, low lines and hyphens. -/
def IsCrateName (name : String) : Prop :=
  name ≠ "" ∧ ∀ c ∈ name.toList, IsWordChar ['_', '-'] c

/-- The segments of a crate's page are its name, the version, and the name again. -/
theorem segments_page {name : String} (hname : IsCrateName name) (hs : '/' ∉ s) :
    splitAt '/' (trimBy (· == '/')
      ('/' :: (name.toList ++ '/' :: (s ++ '/' :: (name.toList ++ ['/']))))) =
      [name.toList, s, name.toList] := by
  have hne : name.toList ≠ [] := by simpa using hname.1
  have hslash : ∀ c ∈ name.toList, (c == '/') = false := fun c hc => by
    simpa using (hname.2 c hc).ne (d := '/') (by decide)
  have hnotMem : '/' ∉ name.toList := fun h => by simpa using hslash _ h
  let inside := name.toList ++ '/' :: (s ++ '/' :: name.toList)
  have hhead : ∀ c ∈ inside.head?, (c == '/') = false := by
    intro c hc
    rw [List.head?_append_of_ne_nil _ hne] at hc
    exact hslash c (List.mem_of_mem_head? hc)
  have hlast : ∀ c ∈ inside.getLast?, (c == '/') = false := by
    intro c hc
    rw [show inside = (name.toList ++ '/' :: (s ++ ['/'])) ++ name.toList by simp [inside],
      List.getLast?_append_of_ne_nil _ hne] at hc
    exact hslash c (List.mem_of_mem_getLast? hc)
  have htrim : trimBy (· == '/') (['/'] ++ (inside ++ ['/'])) = inside :=
    trimBy_between (by simp [inside]) (by simp) (by simp) hhead hlast
  have hpath : '/' :: (name.toList ++ '/' :: (s ++ '/' :: (name.toList ++ ['/']))) =
      ['/'] ++ (inside ++ ['/']) := by simp [inside]
  rw [hpath, htrim, splitAt_append hnotMem, splitAt_append hs, splitAt_of_notMem hnotMem]

namespace Network

variable {net : Network} {name text : String} {v : Version}

/-- The path of a crate's page, if the text of the version holds nothing that ends a path. -/
theorem path_crateUrl (hsite : Url.IsSite net.sites.registry) (hname : IsCrateName name)
    (hplain : ∀ c ∈ v.text.toList, Url.IsPlain c) :
    Url.path (net.crateUrl name v (name ++ "/")) =
      .ok ('/' :: (name.toList ++ '/' :: (v.text.toList ++ '/' :: (name.toList ++ ['/'])))) := by
  let rest := name.toList ++ '/' :: (v.text.toList ++ '/' :: (name.toList ++ ['/']))
  have hurl : net.crateUrl name v (name ++ "/") =
      net.sites.registry ++ String.ofList ('/' :: rest) := by
    apply String.toList_inj.mp
    simp [crateUrl, rest, toString]
  have hchar : ∀ c ∈ name.toList, Url.IsPlain c := fun c hc =>
    .of_isWordChar (hname.2 c hc) (by simp [Url.IsPlain])
  have hrest : ∀ c ∈ rest, Url.IsPlain c := by
    intro c hc
    simp only [rest, List.mem_append, List.mem_cons, List.not_mem_nil, or_false] at hc
    rcases hc with hc | rfl | hc | rfl | hc | rfl
    · exact hchar c hc
    · decide
    · exact hplain c hc
    · decide
    · exact hchar c hc
    · decide
  rw [hurl]
  exact Url.path_append hsite hrest

/-- The version of a page is read from the page's address, whatever the version to fall back to:
nothing in its text ends the segment it stands in. -/
theorem version_of_page (hsite : Url.IsSite net.sites.registry) (hname : IsCrateName name)
    (hv : Version.parse text = .ok v) :
    (∀ c ∈ v.text.toList, c ≠ '/' ∧ c ≠ '?' ∧ c ≠ '#' ∧ isBlank c = false) ∧
    ∀ fallback,
      (versionInUrl? (net.crateUrl name v (name ++ "/"))).map (·.getD fallback) = .ok v := by
  have hword := Version.isWordChar_text hv
  have hplain : ∀ c ∈ v.text.toList, Url.IsPlain c := fun c hc =>
    .of_isWordChar (hword c hc) (by simp [Url.IsPlain])
  have hslash : ∀ c ∈ v.text.toList, c ≠ '/' := fun c hc => (hword c hc).ne (by decide)
  constructor
  · intro c hc
    obtain ⟨hlow, hquery, hfragment⟩ := hplain c hc
    exact ⟨hslash c hc, hquery, hfragment,
      isBlank_of_toNat hlow ((hword c hc).toNat_lt (by simp))⟩
  · intro fallback
    have hsegments := segments_page hname fun h => hslash _ h rfl
    have hread : versionInUrl? (net.crateUrl name v (name ++ "/")) = .ok (some v) := by
      refine bind_eq_ok.mpr ⟨_, path_crateUrl hsite hname hplain, ?_⟩
      simp only [hsegments, String.ofList_toList, Version.parse_text hv]
      rfl
    rw [hread]
    rfl

/-- A version that uses all of its marks. -/
def releaseCandidate : Version :=
  .semantic ⟨1, 0, 0, [['r', 'c'], ['1']], [['b', '-', '2']]⟩

theorem version_of_page_releaseCandidate : Url.IsSite smallNetwork.sites.registry ∧
    IsCrateName "a-b_1" ∧ Version.parse " 1.0.0-rc.1+b-2 " = .ok releaseCandidate ∧
    (versionInUrl? (smallNetwork.crateUrl "a-b_1" releaseCandidate ("a-b_1" ++ "/"))).map
      (·.getD .latest) = .ok releaseCandidate := by
  have hsite : Url.IsSite smallNetwork.sites.registry :=
    ⟨"https", "docs.rs", .inr rfl, rfl, by decide, isWordChar_of_all (by decide)⟩
  have hname : IsCrateName "a-b_1" := ⟨by decide, isWordChar_of_all (by decide)⟩
  have hparse : Version.parse " 1.0.0-rc.1+b-2 " = .ok releaseCandidate := by rfl
  exact ⟨hsite, hname, hparse, (version_of_page hsite hname hparse).2 .latest⟩

end Network

end RustdocIndex
