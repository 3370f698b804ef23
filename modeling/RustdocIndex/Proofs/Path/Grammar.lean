import RustdocIndex.Path.Parser
import RustdocIndex.Proofs.Result
import RustdocIndex.Proofs.Text.Split

/-! The grammar of paths: which texts write a path, and what is wrong with every other text. -/
namespace RustdocIndex

/-- The mark of raw identifiers. -/
def rawMark : CodePoint := .ofChar '#'

/-- A name without the marks that paths are written with. -/
def Plain (name : Text) : Prop := Text.colon ∉ name ∧ rawMark ∉ name

theorem isIdentifierContinue_of_mem {name : Text} (h : isIdentifier name) {c : CodePoint}
    (hc : c ∈ name) : isIdentifierContinue c := by
  cases name with
  | nil => simp at hc
  | cons first more =>
    simp only [isIdentifier, Bool.and_eq_true, List.all_eq_true] at h
    rcases List.mem_cons.mp hc with rfl | hc
    · simp [isIdentifierContinue, h.1]
    · exact h.2 c hc

/-- Neither mark continues an identifier. -/
theorem plain_of_isName {name : Text} (h : isName name) : Plain name := by
  have hi : isIdentifier name := by
    simp only [isName, Bool.and_eq_true] at h
    exact h.1
  constructor <;> intro hm
  · exact absurd (isIdentifierContinue_of_mem hi hm) (by decide +kernel)
  · exact absurd (isIdentifierContinue_of_mem hi hm) (by decide +kernel)

theorem ne_nil_of_isName {name : Text} (h : isName name) : name ≠ [] := by
  rintro rfl
  exact absurd h (by decide)

theorem not_isName_raw (name : Text) : ¬ isName (rawMarker ++ name) := by
  intro h
  exact (plain_of_isName h).2 (List.mem_append_left name (by decide))

/-- A piece of a path writes a segment: a name that is no keyword stands for itself, and behind the
marker any name does, except the keywords of paths. -/
inductive WritesSegment : Text → Segment → Prop
  | plain {name : Text} (hname : isName name) (hfree : ¬ isKeyword name) :
      WritesSegment name ⟨name, false⟩
  | raw {name : Text} (hname : isName name) (hfree : ¬ isPathKeyword name) :
      WritesSegment (rawMarker ++ name) ⟨name, true⟩

/-- What is wrong with a piece that writes no segment. -/
inductive IsFlawed : Text → PathProblem → Prop
  | empty : IsFlawed [] .emptySegment
  | noName {piece : Text} (hne : piece ≠ []) (hplain : ¬ isName piece)
      (hraw : ∀ name, piece = rawMarker ++ name → ¬ isName name) :
      IsFlawed piece .invalidIdentifier
  | keyword {name : Text} (hname : isName name) (hkey : isKeyword name) : IsFlawed name .keyword
  | rawKeyword {name : Text} (hname : isName name) (hkey : isPathKeyword name) :
      IsFlawed (rawMarker ++ name) .keyword

section

variable {piece name : Text} {s : Segment} {problem : PathProblem}

theorem readSegment_raw (name : Text) : readSegment (rawMarker ++ name) =
    if !isName name then .error .invalidIdentifier
    else if isPathKeyword name then .error .keyword
    else .ok ⟨name, true⟩ := by
  have hraw : after? rawMarker (rawMarker ++ name) = some name := after?_eq_some.mpr rfl
  have hne : (rawMarker ++ name).isEmpty = false := rfl
  rw [readSegment, hne, hraw]
  rfl

theorem readSegment_plain (hne : piece ≠ []) (hraw : ∀ name, piece ≠ rawMarker ++ name) :
    readSegment piece =
      if !isName piece then .error .invalidIdentifier
      else if isKeyword piece then .error .keyword
      else .ok ⟨piece, false⟩ := by
  rw [readSegment, if_neg (by simpa using hne), after?_eq_none.mpr hraw]

/-- A name is a segment unless it is a keyword, and no raw mark can be in it. -/
theorem readSegment_of_isName (h : isName name) : readSegment name =
    if isKeyword name then .error .keyword else .ok ⟨name, false⟩ := by
  rw [readSegment_plain (ne_nil_of_isName h)]
  · simp [h]
  · rintro rest rfl
    exact not_isName_raw rest h

theorem readSegment_of_writesSegment (h : WritesSegment piece s) : readSegment piece = .ok s := by
  cases h with
  | plain hname hfree => rw [readSegment_of_isName hname, if_neg hfree]
  | raw hname hfree => simp [readSegment_raw, hname, hfree]

theorem readSegment_of_isFlawed (h : IsFlawed piece problem) :
    readSegment piece = .error problem := by
  cases h with
  | empty => rfl
  | noName hne hplain hraw =>
    by_cases hmark : ∃ name, piece = rawMarker ++ name
    · obtain ⟨name, rfl⟩ := hmark
      simp [readSegment_raw, hraw name rfl]
    · rw [readSegment_plain hne (not_exists.mp hmark)]
      simp [hplain]
  | keyword hname hkey => rw [readSegment_of_isName hname, if_pos hkey]
  | rawKeyword hname hkey => simp [readSegment_raw, hname, hkey]

/-- Nothing is left between segments and flawed pieces. -/
theorem writesSegment_or_isFlawed (piece : Text) :
    (∃ s, WritesSegment piece s) ∨ ∃ problem, IsFlawed piece problem := by
  by_cases hne : piece = []
  · subst hne
    exact .inr ⟨_, .empty⟩
  by_cases hplain : isName piece
  · by_cases hkey : isKeyword piece
    · exact .inr ⟨_, .keyword hplain hkey⟩
    · exact .inl ⟨_, .plain hplain hkey⟩
  by_cases hraw : ∃ name, piece = rawMarker ++ name ∧ isName name
  · obtain ⟨name, rfl, hname⟩ := hraw
    by_cases hkey : isPathKeyword name
    · exact .inr ⟨_, .rawKeyword hname hkey⟩
    · exact .inl ⟨_, .raw hname hkey⟩
  · exact .inr ⟨_, .noName hne hplain fun name hp hname => hraw ⟨name, hp, hname⟩⟩

/-- A piece is read exactly if it writes a segment, since every other piece is flawed. -/
theorem readSegment_eq_ok : readSegment piece = .ok s ↔ WritesSegment piece s := by
  refine ⟨fun h => ?_, readSegment_of_writesSegment⟩
  rcases writesSegment_or_isFlawed piece with ⟨s', hs⟩ | ⟨problem, hp⟩
  · cases (readSegment_of_writesSegment hs).symm.trans h
    exact hs
  · cases (readSegment_of_isFlawed hp).symm.trans h

/-- A piece is refused for its one flaw. -/
theorem readSegment_eq_error : readSegment piece = .error problem ↔ IsFlawed piece problem := by
  refine ⟨fun h => ?_, readSegment_of_isFlawed⟩
  rcases writesSegment_or_isFlawed piece with ⟨s, hs⟩ | ⟨problem', hp⟩
  · cases (readSegment_of_writesSegment hs).symm.trans h
  · cases (readSegment_of_isFlawed hp).symm.trans h
    exact hp

theorem isKeyword_of_isPathKeyword (h : isPathKeyword name) : isKeyword name := by
  have hall : ∀ k ∈ pathKeywords, isKeyword k := by decide
  exact hall name (List.contains_iff_mem.mp h)

theorem WritesSegment.isName_name (h : WritesSegment piece s) :
    isName s.name ∧ ¬ isPathKeyword s.name := by
  cases h with
  | plain hname hfree => exact ⟨hname, fun hkey => hfree (isKeyword_of_isPathKeyword hkey)⟩
  | raw hname hfree => exact ⟨hname, hfree⟩

/-- A segment is written back just as it was read, with its raw mark. -/
theorem WritesSegment.text_eq (h : WritesSegment piece s) : s.text = piece := by
  cases h <;> rfl

theorem WritesSegment.ne_nil (h : WritesSegment piece s) : piece ≠ [] := by
  cases h with
  | plain hname _ => exact ne_nil_of_isName hname
  | raw _ _ => exact List.append_ne_nil_of_left_ne_nil (by decide) _

theorem WritesSegment.colon_notMem (h : WritesSegment piece s) : Text.colon ∉ piece := by
  cases h with
  | plain hname _ => exact (plain_of_isName hname).1
  | @raw name hname _ =>
    rw [List.mem_append, not_or]
    exact ⟨by decide, (plain_of_isName hname).1⟩

end

/-- A text without the separator that makes a path global. -/
inductive IsBody : Text → Text → Prop
  | global (body : Text) : IsBody (Text.colon :: Text.colon :: body) body
  | bare {t : Text} (h : ∀ body, t ≠ Text.colon :: Text.colon :: body) : IsBody t t

/-- One separator in front is left out, and only one. -/
theorem isBody_iff {t body : Text} : IsBody t body ↔ dropGlobal t = body := by
  constructor
  · intro h
    cases h with
    | global => rfl
    | bare h =>
      rw [dropGlobal, after?_eq_none.mpr h]
      rfl
  · rintro rfl
    rw [dropGlobal]
    cases hd : after? [Text.colon, Text.colon] t with
    | none => exact .bare (after?_eq_none.mp hd)
    | some rest =>
      rw [after?_eq_some.mp hd]
      exact .global rest

/-- A joined path has no separator in front, since its first piece is not empty. -/
theorem IsBody.bare_joinColons {pieces : List Text}
    (h : ∀ piece ∈ pieces, piece ≠ [] ∧ Text.colon ∉ piece) :
    IsBody (Text.joinColons pieces) (Text.joinColons pieces) := by
  apply IsBody.bare
  intro body hjoin
  cases pieces with
  | nil => cases hjoin
  | cons piece more =>
    obtain ⟨hne, hcolon⟩ := h piece List.mem_cons_self
    obtain ⟨c, rest, rfl⟩ := List.exists_cons_of_ne_nil hne
    have hc : c = Text.colon := by
      cases more with
      | nil => exact (List.cons.inj hjoin).1
      | cons => exact (List.cons.inj hjoin).1
    exact hcolon (hc ▸ List.mem_cons_self)

/-- The text of a path: pieces that write its segments, with `::` between them and perhaps in front
of all. -/
def WritesPath (t : Text) (p : SimplePath) : Prop :=
  ∃ body pieces, IsBody t body ∧ Text.joinColons pieces = body ∧
    List.Forall₂ WritesSegment pieces p.segments

/-- What is wrong with a text that is no path: the first flawed piece is told. -/
inductive IsRefused : Text → PathError → Prop
  | empty : IsRefused [] ⟨.empty, [], none⟩
  | piece {t body piece : Text} {before after : List Text} {problem : PathProblem} (hne : t ≠ [])
      (hbody : IsBody t body) (hcut : Text.CutsTo body (before ++ piece :: after))
      (hbefore : ∀ q ∈ before, ∃ s, WritesSegment q s) (hflawed : IsFlawed piece problem) :
      IsRefused t ⟨problem, t, some piece⟩

section

variable {t : Text} {p : SimplePath} {e : PathError} {pieces : List Text} {segments : List Segment}

theorem solid_of_forall₂ (h : List.Forall₂ WritesSegment pieces segments) :
    ∀ piece ∈ pieces, piece ≠ [] ∧ Text.colon ∉ piece := by
  intro piece hpiece
  obtain ⟨s, -, hs⟩ := exists_of_forall₂ h.flip hpiece
  exact ⟨WritesSegment.ne_nil hs, WritesSegment.colon_notMem hs⟩

/-- Cutting at separators undoes joining, as pieces have no colons. -/
theorem writesPath_iff :
    WritesPath t p ↔ List.Forall₂ WritesSegment (dropGlobal t).splitColons p.segments := by
  constructor
  · rintro ⟨_, pieces, hbody, rfl, hall⟩
    have hne : pieces ≠ [] := by
      rintro rfl
      cases hall
    have hcolon : ∀ piece ∈ pieces, Text.colon ∉ piece :=
      fun piece hpiece => (solid_of_forall₂ hall piece hpiece).2
    rwa [isBody_iff.mp hbody, Text.splitColons_joinColons hne hcolon]
  · intro h
    exact ⟨_, _, isBody_iff.mpr rfl, Text.joinColons_splitColons _, h⟩

theorem mapM_readSegment_eq_ok {error : Text → PathProblem → PathError} :
    (pieces.mapM fun piece => (readSegment piece).mapError (error piece)) = .ok segments ↔
      List.Forall₂ WritesSegment pieces segments := by
  simp only [mapM_eq_ok, mapError_eq_ok, readSegment_eq_ok]

/-- The leftmost flawed piece is told, all before it being segments. -/
theorem mapM_readSegment_eq_error {error : Text → PathProblem → PathError} :
    (pieces.mapM fun piece => (readSegment piece).mapError (error piece)) = .error e ↔
      ∃ before piece after problem, pieces = before ++ piece :: after ∧
        (∀ q ∈ before, ∃ s, WritesSegment q s) ∧ IsFlawed piece problem ∧
        error piece problem = e := by
  simp only [mapM_eq_error, mapError_eq_ok, mapError_eq_error, readSegment_eq_ok,
    readSegment_eq_error]
  constructor
  · rintro ⟨before, piece, after, hpieces, hbefore, problem, hflawed, rfl⟩
    exact ⟨before, piece, after, problem, hpieces, hbefore, hflawed, rfl⟩
  · rintro ⟨before, piece, after, problem, hpieces, hbefore, hflawed, rfl⟩
    exact ⟨before, piece, after, hpieces, hbefore, problem, hflawed, rfl⟩

namespace SimplePath

/-- Reading a path is cutting it into pieces, each of which writes a segment. -/
theorem parse_eq_ok : parse t = .ok p ↔ WritesPath t p := by
  rw [writesPath_iff, parse]
  split
  · next hempty =>
    obtain rfl := List.isEmpty_iff.mp hempty
    refine ⟨nofun, fun h => ?_⟩
    exact absurd rfl (solid_of_forall₂ h [] (by decide)).1
  · refine bind_eq_ok.trans ⟨?_, ?_⟩
    · rintro ⟨segments, hread, h⟩
      cases segments with
      | nil => cases h
      | cons first more =>
        cases h
        exact mapM_readSegment_eq_ok.mp hread
    · intro h
      exact ⟨p.segments, mapM_readSegment_eq_ok.mpr h, rfl⟩

/-- A text is refused for being empty, or for the first piece that is flawed. -/
theorem parse_eq_error : parse t = .error e ↔ IsRefused t e := by
  rw [parse]
  split
  · next hempty =>
    obtain rfl := List.isEmpty_iff.mp hempty
    constructor
    · intro h
      cases h
      exact .empty
    · intro h
      cases h with
      | empty => rfl
      | piece hne => exact absurd rfl hne
  · next hne =>
    have hne : t ≠ [] := mt List.isEmpty_iff.mpr hne
    refine bind_eq_error.trans ⟨?_, ?_⟩
    · rintro (hread | ⟨segments, hread, h⟩)
      · obtain ⟨before, piece, after, problem, hpieces, hbefore, hflawed, rfl⟩ :=
          mapM_readSegment_eq_error.mp hread
        exact .piece hne (isBody_iff.mpr rfl) (Text.splitColons_eq_iff.mp hpieces) hbefore hflawed
      · have hall := mapM_readSegment_eq_ok.mp hread
        cases segments with
        | nil => exact absurd (List.forall₂_nil_right_iff.mp hall) (Text.splitColons_ne_nil _)
        | cons first more => cases h
    · intro h
      cases h with
      | empty => exact absurd rfl hne
      | piece _ hbody hcut hbefore hflawed =>
        left
        rw [isBody_iff.mp hbody]
        exact mapM_readSegment_eq_error.mpr
          ⟨_, _, _, _, Text.splitColons_eq_iff.mpr hcut, hbefore, hflawed, rfl⟩

theorem isName_of_parse (h : parse t = .ok p) : ∀ n ∈ p.names, isName n ∧ ¬ isPathKeyword n := by
  intro n hn
  obtain ⟨s, hs, rfl⟩ := List.mem_map.mp hn
  obtain ⟨piece, -, hpiece⟩ := exists_of_forall₂ (writesPath_iff.mp (parse_eq_ok.mp h)) hs
  exact hpiece.isName_name

/-- Pieces that write the segments of a path, joined, are a text of the path. -/
theorem parse_joinColons (h : List.Forall₂ WritesSegment pieces p.segments) :
    parse (Text.joinColons pieces) = .ok p := by
  have hbody := IsBody.bare_joinColons (solid_of_forall₂ h)
  exact parse_eq_ok.mpr ⟨_, pieces, hbody, rfl, h⟩

theorem text_eq_joinColons (h : List.Forall₂ WritesSegment pieces p.segments) :
    p.text = Text.joinColons pieces := by
  have htexts : List.Forall₂ (· = ·) (p.segments.map (·.text)) pieces :=
    List.forall₂_map_left_iff.mpr (h.flip.imp fun _ _ => WritesSegment.text_eq)
  rw [List.forall₂_eq_eq_eq] at htexts
  rw [SimplePath.text, htexts]

/-- A text is read as the path that it writes, whose own text is read as the same path again, and
any other text is refused at its first flawed piece. -/
theorem parse_grammar (t : Text) :
    (∀ p, parse t = .ok p ↔ WritesPath t p) ∧
      (∀ p, parse t = .ok p → IsBody t p.text ∧ parse p.text = .ok p) ∧
      ∀ e, parse t = .error e ↔ IsRefused t e := by
  refine ⟨fun p => parse_eq_ok, fun p hp => ?_, fun e => parse_eq_error⟩
  obtain ⟨_, pieces, hbody, rfl, hall⟩ := parse_eq_ok.mp hp
  rw [text_eq_joinColons hall]
  exact ⟨hbody, parse_joinColons hall⟩

end SimplePath

end

end RustdocIndex
