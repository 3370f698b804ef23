import RustdocIndex.Proofs.Literal.Statement
import RustdocIndex.Proofs.Payload.Build
import RustdocIndex.Proofs.Payload.Embedded

/-! What stands behind the document of a payload has no say in what the payload decodes to. -/
namespace RustdocIndex.Payload

variable {version : Option Text} {s body : List Char} {g h : Generation} {name : Text}
  {data : Json} {found other : List Crate}

theorem field?_of_listField {α : Type} [Document α] {data : α} {key : String} {xs : List α}
    (h : listField g data key = .ok xs) : (field? data key).map Document.shape = some (.array xs) := by
  obtain ⟨x, hx, hs⟩ := listField_eq_ok.mp h
  obtain ⟨fields, hd, hx⟩ := field_eq_ok.mp hx
  simp [field?, hd, hx, hs]

/-- The check is passed exactly by columns of the right length. -/
theorem checkLength_eq_ok {β : Type} {key : String} {items : Nat} {column : List β} :
    checkLength key items column = .ok () ↔ column.length = items := by
  simp [checkLength]

/-- A list of lists is a column of parents only if it is empty. -/
theorem parentColumn_of_arrays {α : Type} [Document α] {xs : List α} {items : Nat}
    {parents : List (Option Int)} (hxs : xs.all fun x => (Document.shape x).isArray)
    (h : parentColumn items xs = .ok parents) : xs = [] ∧ items = 0 := by
  obtain ⟨found, hf, h⟩ := bind_eq_ok.mp h
  obtain ⟨_, hc, -⟩ := bind_eq_ok.mp h
  cases xs with
  | nil =>
    cases hf
    exact ⟨rfl, (checkLength_eq_ok.mp hc).symm⟩
  | cons x xs =>
    simp only [List.all_cons, Bool.and_eq_true] at hxs
    cases mapM_eq_ok.mp hf with
    | cons hx _ =>
      have hx := mapError_eq_ok.mp hx
      unfold parentEntry at hx
      split at hx
      · next hs => simp [hs, Shape.isArray] at hxs
      · cases hx

theorem nameColumn_length {α : Type} [Document α] {xs : List α} {names : List Text}
    (h : nameColumn xs = .ok names) : names.length = xs.length := by
  simpa using (mapM_eq_ok.mp h).length_eq.symm

/-! What is read as one generation is read as any other one. -/

/-- Whatever is read for one generation is read for the other, since they differ in errors alone. -/
theorem listField_congr {α : Type} [Document α] {data : α} {key : String} {xs : List α}
    (hxs : listField g data key = .ok xs) : listField h data key = .ok xs := by
  obtain ⟨x, hx, hs⟩ := listField_eq_ok.mp hxs
  exact listField_eq_ok.mpr ⟨x, field_eq_ok.mpr (field_eq_ok.mp hx), hs⟩

theorem docField_toOption {α : Type} [Document α] (g h : Generation) (data : α) :
    (docField g data).toOption = (docField h data).toOption := by
  unfold docField
  split
  · rfl
  · rfl
  · split <;> rfl

theorem pathEntries_toOption {α : Type} [Document α] (g h : Generation) (xs : List α) :
    (pathEntries g xs).toOption = (pathEntries h xs).toOption := by
  have hentry (i : Nat) (x : α) : (pathEntry g i x).toOption = (pathEntry h i x).toOption := by
    unfold pathEntry
    split
    · split
      · split <;> rfl
      · rfl
    · rfl
  simp only [pathEntries, toOption_mapM, hentry]

/-- The layouts overlap only where a crate has no items. -/
theorem rowDraft_of_columnDraft {d : Draft} (hrows : inRows data)
    (h : columnDraft name data = .ok d) : rowDraft .v2 name data = .ok d := by
  unfold columnDraft at h
  obtain ⟨kinds, -, h⟩ := bind_eq_ok.mp h
  obtain ⟨items, -, h⟩ := bind_eq_ok.mp h
  obtain ⟨-, -, h⟩ := bind_eq_ok.mp h
  obtain ⟨names, hnames, h⟩ := bind_eq_ok.mp h
  obtain ⟨_, -, h⟩ := bind_eq_ok.mp h
  obtain ⟨given, -, h⟩ := bind_eq_ok.mp h
  obtain ⟨descs, -, h⟩ := bind_eq_ok.mp h
  obtain ⟨xs, hxs, h⟩ := bind_eq_ok.mp h
  obtain ⟨parents, hparents, h⟩ := bind_eq_ok.mp h
  obtain ⟨entries, hentries, h⟩ := bind_eq_ok.mp h
  obtain ⟨paths, hpaths, h⟩ := bind_eq_ok.mp h
  obtain ⟨doc, hdoc, h⟩ := bind_eq_ok.mp h
  obtain ⟨rows, hr, h⟩ := bind_eq_ok.mp h
  cases h
  have hall : xs.all fun x => (Document.shape x).isArray := by
    simpa [inRows, field?_of_listField hxs] using hrows
  obtain ⟨rfl, hcount⟩ := parentColumn_of_arrays hall hparents
  have hnone : names = [] := List.eq_nil_of_length_eq_zero ((nameColumn_length hnames).trans hcount)
  have hzip : zipColumns kinds names given descs parents = [] := by
    rw [hnone]
    cases kinds <;> rfl
  rw [hzip] at hr
  cases hr
  have hitems : listField .v2 data "i" = .ok ([] : List Json) := listField_congr hxs
  have hentries : listField .v2 data "p" = .ok entries := listField_congr hentries
  have hdoc : docField .v2 data = .ok doc := ok_of_toOption_eq (docField_toOption ..) hdoc
  have hpaths : pathEntries .v2 entries = .ok paths :=
    ok_of_toOption_eq (pathEntries_toOption ..) hpaths
  simp only [rowDraft, bind, Except.bind, hitems, hentries, hdoc, hpaths]
  rfl

/-- Where both layouts of JSON fit a crate, they draft it alike. -/
theorem jsonDraft_agree {d d' : Draft} (h2 : jsonRowDraft name data = .ok d)
    (h3 : columnDraft name data = .ok d') : d = d' := by
  unfold jsonRowDraft at h2
  split at h2
  · next hrows => exact Except.ok.inj (h2.symm.trans (rowDraft_of_columnDraft hrows h3))
  · cases h2

theorem buildAll_agree {α : Type} {draft draft' : Text → α → Except CrateError Draft}
    (hagree : ∀ name data d d', draft name data = .ok d → draft' name data = .ok d' → d = d')
    {entries : List (Text × α)} (hg : buildAll g draft version entries = .ok found)
    (hh : buildAll h draft' version entries = .ok other) : found = other := by
  have hfound := mapM_eq_ok.mp hg
  clear hg
  induction hfound generalizing other with
  | nil =>
    cases hh
    rfl
  | cons hc _ ih =>
    cases mapM_eq_ok.mp hh with
    | cons hc' hr' =>
      obtain ⟨d, hd, hb⟩ := bind_eq_ok.mp (mapError_eq_ok.mp hc)
      obtain ⟨d', hd', hb'⟩ := bind_eq_ok.mp (mapError_eq_ok.mp hc')
      obtain rfl := hagree _ _ d d' hd hd'
      have hbuilt := ok_of_toOption_eq (build_toOption g h version d) hb
      rw [Except.ok.inj (hbuilt.symm.trans hb'), ih (mapM_eq_ok.mpr hr')]

theorem document_congr {x : Json} (hx : document g s = .ok x) : document h s = .ok x :=
  document_eq_ok.mpr (document_eq_ok.mp hx)

theorem crateEntries_congr {x : Json} {entries : List (Text × Json)}
    (he : crateEntries g x = .ok entries) : crateEntries h x = .ok entries := by
  simp only [crateEntries] at he ⊢
  split at he
  · cases he
  · cases he
  · exact he

/-- Crate by crate, the two generations of JSON documents agree. -/
theorem crates_agree_v2_v3 (h2 : crates .v2 version s = .ok found)
    (h3 : crates .v3 version s = .ok other) : found = other := by
  obtain ⟨x, hx, h2⟩ := bind_eq_ok.mp h2
  obtain ⟨entries, he, h2⟩ := bind_eq_ok.mp h2
  obtain ⟨x', hx', h3⟩ := bind_eq_ok.mp h3
  obtain ⟨entries', he', h3⟩ := bind_eq_ok.mp h3
  obtain rfl := Except.ok.inj ((document_congr hx).symm.trans hx')
  obtain rfl := Except.ok.inj ((crateEntries_congr he).symm.trans he')
  exact buildAll_agree (fun _ _ _ _ => jsonDraft_agree) h2 h3

/-- The generations with a JSON document agree on what both accept. -/
theorem crates_agree (hg : g ≠ .v1) (hh : h ≠ .v1) (h2 : crates g version s = .ok found)
    (h3 : crates h version s = .ok other) : found = other := by
  cases g <;> cases h <;> try contradiction
  · exact Except.ok.inj (h2.symm.trans h3)
  · exact crates_agree_v2_v3 h2 h3
  · exact (crates_agree_v2_v3 h3 h2).symm
  · exact Except.ok.inj (h2.symm.trans h3)

/-- If no literal program is given, the order of the attempts does not matter. -/
theorem decodeText_none_eq_ok (h1 : Refuses version s .v1) :
    decodeText none version s = .ok found ↔ ∃ g, g ≠ .v1 ∧ crates g version s = .ok found := by
  rw [decodeText]
  constructor
  · intro h
    obtain ⟨before, g, after, -, -, hg⟩ := firstOf_eq_ok.mp h
    refine ⟨g, ?_, hg⟩
    rintro rfl
    exact not_refuses_of_ok hg h1
  · rintro ⟨g, hg, hc⟩
    obtain ⟨x, hx, -⟩ := bind_eq_ok.mp (crates_eq hg version s ▸ hc)
    have hmem : g ∈ order (detect s) := by
      rw [(order_perm _).mem_iff]
      cases g <;> decide
    rcases refused_or_decided version s (order (detect s)) with hr | ⟨before, h, after, ho, hb, hh⟩
    · exact absurd (hr g hmem) (not_refuses_of_ok hc)
    · have hne : h ≠ .v1 := by
        rintro rfl
        exact hh h1
      rcases refused_or_ok_of_document hne (document_congr hx) with hr | ⟨other, hc'⟩
      · exact absurd hr hh
      · rw [crates_agree hg hne hc hc']
        exact firstOf_eq_ok.mpr ⟨before, h, after, ho, hb, hc'⟩

/-- Whether a text is what a complete string holds between single quotes: each quote and each
backslash inside stands behind a backslash. -/
def isQuotedBody : List Char → Bool
  | [] => true
  | c :: s =>
    if c = '\\' then
      match s with
      | [] => false
      | _ :: t => isQuotedBody t
    else c != '\'' && isQuotedBody s

theorem unquote?_close (seen more : List Char) :
    unquote? seen ('\'' :: more) = some seen.reverse := by
  unfold unquote?
  rfl

theorem unquote?_plain {c : Char} (hq : c ≠ '\'') (hb : c ≠ '\\') (seen s : List Char) :
    unquote? seen (c :: s) = unquote? (c :: seen) s := by
  rw [unquote?.eq_def]
  simp only [hq, hb, if_false]

theorem unquote?_escaped (c : Char) (seen s : List Char) :
    unquote? seen ('\\' :: c :: s) = unquote? ((unescape c).reverse ++ seen) s := by
  rw [unquote?]
  rfl

/-- A body that ends in no escape is closed by the quote behind it, whatever follows that. -/
theorem unquote?_of_isQuotedBody (hb : isQuotedBody body) (seen : List Char) :
    ∃ text, ∀ more, unquote? seen (body ++ '\'' :: more) = some text := by
  fun_induction isQuotedBody body generalizing seen with
  | case1 => exact ⟨seen.reverse, unquote?_close seen⟩
  | case2 => cases hb
  | case3 c t ih =>
    obtain ⟨text, ht⟩ := ih hb ((unescape c).reverse ++ seen)
    exact ⟨text, fun more => (unquote?_escaped c seen _).trans (ht more)⟩
  | case4 c s hc ih =>
    simp only [Bool.and_eq_true, bne_iff_ne] at hb
    obtain ⟨text, ht⟩ := ih hb.2 (c :: seen)
    exact ⟨text, fun more => (unquote?_plain hb.1 hc seen _).trans (ht more)⟩

/-- What a payload with a JSON document begins with. -/
def opening : List Char := "var searchIndex = JSON.parse('".toList

/-- What follows the document. -/
def closing : List Char := "');".toList

/-- A payload with a document and anything behind it. -/
def embed (body tail : List Char) : List Char := opening ++ body ++ closing ++ tail

theorem embed_eq (body tail : List Char) : embed body tail =
    "var".toList ++ ' ' :: ("searchIndex".toList ++ ' ' :: '=' :: ' ' :: ("JSON".toList ++
      '.' :: ("parse('".toList ++ (body ++ (closing ++ tail))))) := by
  rw [embed, List.append_assoc, List.append_assoc]
  rfl

/-- A text that is no literal program is refused where it goes wrong. -/
theorem programEntries_problem {p : Literal.Problem} {rest : List Char}
    (h : Literal.evaluate s = .error (.problem p rest)) : programEntries s =
      .error (.refused (programRefusal s p rest)) := by
  rw [programEntries, h]

/-- The document is an argument of something that no program declares, so the payload is no program.
-/
theorem refuses_v1_embed (version : Option Text) (body tail : List Char) :
    Refuses version (embed body tail) .v1 := by
  have hn : Literal.IsName "searchIndex" := ⟨'s', "earchIndex".toList, rfl, rfl, rfl⟩
  have ho : Literal.IsVariable "JSON" := ⟨⟨'J', "SON".toList, rfl, rfl, rfl⟩, by decide⟩
  have hr : Literal.EndsName ('.' :: ("parse('".toList ++ (body ++ (closing ++ tail)))) :=
    Literal.endsName_cons rfl _
  have he := Literal.evaluate_undeclared hn ho hr
  rw [← embed_eq] at he
  have hp := programEntries_problem he
  exact ⟨_, bind_eq_error.mpr (.inl hp)⟩

theorem findOpening?_embed (body tail : List Char) :
    findOpening? (embed body tail) = some (body ++ '\'' :: (");".toList ++ tail)) := by
  have hf (more : List Char) : findOpening? (opening ++ more) = some more := rfl
  have hc : closing ++ tail = '\'' :: (");".toList ++ tail) := rfl
  rw [embed, List.append_assoc, List.append_assoc, hf, hc]

/-- The document ends with its quote, and the rest of the payload is never read. -/
theorem document_embed (g : Generation) (hb : isQuotedBody body) (first second : List Char) :
    document g (embed body first) = document g (embed body second) := by
  obtain ⟨text, ht⟩ := unquote?_of_isQuotedBody hb []
  simp only [document, findOpening?_embed, ht]

/-- The footer of a payload decides only in which order the generations are tried: any two tails
of a payload with a complete document decode alike, and the generations that could both take a
payload agree on it. -/
theorem decode_footer (hb : isQuotedBody body) (version : Option Text) (first second : List Char)
    (found : List Crate) :
    (decode none version (.text (embed body first)) = .ok found ↔
      decode none version (.text (embed body second)) = .ok found) ∧
    ∀ p inRows inColumns, decode (some "v2") version p = .ok inRows →
      decode (some "v3") version p = .ok inColumns → inRows = inColumns := by
  constructor
  · have htext (tail : List Char) : decode none version (.text (embed body tail)) = .ok found ↔
        ∃ g, g ≠ .v1 ∧ crates g version (embed body tail) = .ok found := by
      rw [decode_text]
      exact decodeText_none_eq_ok (refuses_v1_embed version body tail)
    have hcrates {g : Generation} (hg : g ≠ .v1) :
        crates g version (embed body first) = crates g version (embed body second) := by
      rw [crates_eq hg, crates_eq hg, document_embed g hb first second]
    rw [htext, htext]
    exact exists_congr fun g => and_congr_right fun hg => by rw [hcrates hg]
  · intro p inRows inColumns h2 h3
    obtain ⟨s, hs, h2⟩ := bind_eq_ok.mp h2
    obtain ⟨s', hs', h3⟩ := bind_eq_ok.mp h3
    obtain rfl := Except.ok.inj (hs.symm.trans hs')
    rw [decodeText_hint] at h2 h3
    exact crates_agree_v2_v3 (mapError_eq_ok.mp h2) (mapError_eq_ok.mp h3)

/-- A document with an escaped quote in it, and one crate. -/
def quotedBody : List Char :=
  "\x7b\"a\":\x7b\"i\":[],\"p\":[],\"doc\":\"it\\'s\"\x7d\x7d".toList

def quotedCrate : Crate := ⟨"a", none, "it's", ⟨"a", [], []⟩⟩

theorem decode_footer_wrong :
    isQuotedBody quotedBody ∧ decode none none (.text (embed quotedBody [])) = .ok [quotedCrate] ∧
      decode none none (.text (embed quotedBody "window.initSearch(searchIndex)".toList)) =
        .ok [quotedCrate] := by
  have hb : isQuotedBody quotedBody := by decide +kernel
  have hnone : decode none none (.text (embed quotedBody [])) = .ok [quotedCrate] :=
    toOption_eq_some.mp (by decide +kernel)
  exact ⟨hb, hnone, (decode_footer hb none [] _ _).1.mp hnone⟩

end RustdocIndex.Payload
