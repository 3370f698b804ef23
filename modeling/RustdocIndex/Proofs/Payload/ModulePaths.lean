import RustdocIndex.Proofs.Payload.Declared

/-! Module paths are inherited: an item without a path of its own has the last one that is given
before it. -/
namespace RustdocIndex.Payload

variable {given more : List (Option Text)} {folded folded' : List Text} {path other : Text} {i : Nat}
  {g : Generation}

/-- An item is given a path of its own: one that is neither left out nor empty. -/
def GivenAt (given : List (Option Text)) (i : Nat) (path : Text) : Prop :=
  given[i]? = some (some path) ∧ path ≠ []

/-- The path is given at the largest position up to `i` that has one. -/
def LastGiven (given : List (Option Text)) (i : Nat) (path : Text) : Prop :=
  ∃ j ≤ i, GivenAt given j path ∧ ∀ k, j < k → k ≤ i → ∀ other, ¬ GivenAt given k other

theorem GivenAt.eq (h : GivenAt given i path) (h' : GivenAt given i other) : path = other := by
  have he := h.1.symm.trans h'.1
  cases he
  rfl

theorem LastGiven.eq (h : LastGiven given i path) (h' : LastGiven given i other) :
    path = other := by
  obtain ⟨j, hj, hgiven, hlast⟩ := h
  obtain ⟨k, hk, hgiven', hlast'⟩ := h'
  rcases Nat.lt_trichotomy j k with hlt | rfl | hgt
  · exact absurd hgiven' (hlast k hlt hk _)
  · exact hgiven.eq hgiven'
  · exact absurd hgiven (hlast' j hgt hj _)

/-- The front of a list gives the path, and nothing behind it does. -/
theorem lastGiven_zero {p : Option Text} (h : GivenAt (p :: more) 0 path)
    (hnone : ∀ k ≤ i, ∀ other, ¬ GivenAt more k other) : LastGiven (p :: more) (i + 1) path := by
  refine ⟨0, Nat.zero_le _, h, fun k hk hki other hother => ?_⟩
  obtain ⟨k, rfl⟩ := Nat.exists_eq_add_of_lt hk
  rw [Nat.zero_add] at hki hother
  exact hnone k (Nat.le_of_succ_le_succ hki) other hother

theorem LastGiven.cons (h : LastGiven more i path) (p : Option Text) :
    LastGiven (p :: more) (i + 1) path := by
  obtain ⟨j, hj, hgiven, hlast⟩ := h
  refine ⟨j + 1, Nat.succ_le_succ hj, hgiven, fun k hk hki other hother => ?_⟩
  cases k with
  | zero => exact absurd hk (Nat.not_lt_zero _)
  | succ k => exact hlast k (Nat.lt_of_succ_lt_succ hk) (Nat.le_of_succ_le_succ hki) other hother

/-- What the fold carries along at the front: the path there, or the one before. -/
theorem foldPaths_cons (last : Text) (p : Option Text) (more : List (Option Text)) :
    ∃ current, foldPaths last (p :: more) = current :: foldPaths current more ∧
      (GivenAt (p :: more) 0 current ∨
        current = last ∧ ∀ other, ¬ GivenAt (p :: more) 0 other) := by
  rcases p with _ | _ | ⟨c, t⟩
  · exact ⟨last, rfl, .inr ⟨rfl, fun other h => by cases h.1⟩⟩
  · refine ⟨last, rfl, .inr ⟨rfl, fun other h => ?_⟩⟩
    have he := h.1
    cases he
    exact h.2 rfl
  · exact ⟨c :: t, rfl, .inl ⟨rfl, List.cons_ne_nil c t⟩⟩

/-- The induction is on the list: the path that the fold carries is the last one given so far, or
the one it began with. -/
theorem exists_foldPaths (last : Text) (given : List (Option Text)) (hi : i < given.length) :
    ∃ path, (foldPaths last given)[i]? = some path ∧
      (LastGiven given i path ∨ path = last ∧ ∀ k ≤ i, ∀ other, ¬ GivenAt given k other) := by
  induction given generalizing last i with
  | nil => exact absurd hi (Nat.not_lt_zero i)
  | cons p more ih =>
    obtain ⟨current, hfold, hcurrent⟩ := foldPaths_cons last p more
    rw [hfold]
    cases i with
    | zero =>
      refine ⟨current, rfl, hcurrent.imp (fun h => ?_) fun ⟨he, hnone⟩ => ⟨he, fun k hk => ?_⟩⟩
      · exact ⟨0, Nat.le_refl 0, h, fun k hk hk' => absurd hk' (Nat.not_le_of_lt hk)⟩
      · rw [Nat.le_zero.mp hk]
        exact hnone
    | succ i =>
      obtain ⟨path, hpath, hlast⟩ := ih current (Nat.lt_of_succ_lt_succ hi)
      refine ⟨path, hpath, ?_⟩
      rcases hlast with hlast | ⟨rfl, hnone⟩
      · exact .inl (hlast.cons p)
      · refine hcurrent.imp (fun h => lastGiven_zero h hnone) fun ⟨he, hfirst⟩ => ⟨he, fun k hk => ?_⟩
        cases k with
        | zero => exact hfirst
        | succ k => exact hnone k (Nat.le_of_succ_le_succ hk)

/-- Every item of a list has the last path that is given up to it. -/
structure Inherits (given : List (Option Text)) (folded : List Text) : Prop where
  length_eq : folded.length = given.length
  lastGiven : ∀ i < given.length, ∃ path, folded[i]? = some path ∧ LastGiven given i path

theorem Inherits.eq (h : Inherits given folded) (h' : Inherits given folded') :
    folded = folded' := by
  apply List.ext_getElem?
  intro i
  by_cases hi : i < given.length
  · obtain ⟨path, hpath, hlast⟩ := h.lastGiven i hi
    obtain ⟨path', hpath', hlast'⟩ := h'.lastGiven i hi
    rw [hpath, hpath', hlast.eq hlast']
  · have hlen := Nat.le_of_not_lt hi
    rw [List.getElem?_eq_none (h.length_eq ▸ hlen), List.getElem?_eq_none (h'.length_eq ▸ hlen)]

theorem Inherits.ne_nil (h : Inherits given folded) : ∀ path ∈ folded, path ≠ [] := by
  intro path hpath
  obtain ⟨i, hi⟩ := List.mem_iff_getElem?.mp hpath
  have hlt : i < given.length := h.length_eq ▸ (List.getElem?_eq_some_iff.mp hi).1
  obtain ⟨path', hpath', j, -, hgiven, -⟩ := h.lastGiven i hlt
  cases hi.symm.trans hpath'
  exact hgiven.2

theorem inherits_foldPaths (h : given = [] ∨ ∃ path, GivenAt given 0 path) (last : Text) :
    Inherits given (foldPaths last given) := by
  refine ⟨length_foldPaths last given, fun i hi => ?_⟩
  obtain ⟨path, hpath, hlast | ⟨-, hnone⟩⟩ := exists_foldPaths last given hi
  · exact ⟨path, hpath, hlast⟩
  · rcases h with rfl | ⟨first, hfirst⟩
    · exact absurd hi (Nat.not_lt_zero i)
    · exact absurd hfirst (hnone 0 (Nat.zero_le i) first)

theorem modulePaths_of_given (h : given = [] ∨ ∃ path, GivenAt given 0 path) :
    modulePaths g given = .ok (foldPaths [] given) := by
  have hne := (inherits_foldPaths h []).ne_nil
  unfold modulePaths
  split
  · next heq => exact absurd rfl (hne [] (by simp [heq]))
  · rfl

theorem modulePaths_of_not_given (hlen : 0 < given.length) (h : ∀ path, ¬ GivenAt given 0 path) :
    modulePaths g given = .error ⟨g, .noFirstPath⟩ := by
  obtain ⟨p, more, rfl⟩ := List.exists_cons_of_length_pos hlen
  obtain ⟨current, hfold, hcurrent⟩ := foldPaths_cons [] p more
  obtain ⟨rfl, -⟩ := hcurrent.resolve_left (h current)
  rw [modulePaths, hfold]

/-- The first item alone decides whether paths are inherited. -/
theorem given_or (given : List (Option Text)) : (given = [] ∨ ∃ path, GivenAt given 0 path) ∨
    0 < given.length ∧ ∀ path, ¬ GivenAt given 0 path := by
  rcases given with _ | ⟨p, more⟩
  · exact .inl (.inl rfl)
  · by_cases h : ∃ path, GivenAt (p :: more) 0 path
    · exact .inl (.inr h)
    · exact .inr ⟨Nat.succ_pos _, not_exists.mp h⟩

theorem modulePaths_eq_ok : modulePaths g given = .ok folded ↔ Inherits given folded := by
  rcases given_or given with h | ⟨hlen, hnone⟩
  · rw [modulePaths_of_given h]
    refine ⟨fun he => ?_, fun hi => congrArg _ ((inherits_foldPaths h []).eq hi)⟩
    cases he
    exact inherits_foldPaths h []
  · rw [modulePaths_of_not_given hlen hnone]
    refine ⟨nofun, fun hi => ?_⟩
    obtain ⟨path, -, j, hj, hgiven, -⟩ := hi.lastGiven 0 hlen
    rw [Nat.le_zero.mp hj] at hgiven
    exact absurd hgiven (hnone path)

theorem modulePaths_eq_error {e : CrateError} : modulePaths g given = .error e ↔
    e = ⟨g, .noFirstPath⟩ ∧ 0 < given.length ∧ ∀ path, ¬ GivenAt given 0 path := by
  rcases given_or given with h | ⟨hlen, hnone⟩
  · rw [modulePaths_of_given h]
    refine ⟨nofun, fun ⟨_, hlen, hnone⟩ => ?_⟩
    rcases h with rfl | ⟨path, hpath⟩
    · exact absurd hlen (Nat.lt_irrefl 0)
    · exact absurd hpath (hnone path)
  · rw [modulePaths_of_not_given hlen hnone]
    refine ⟨fun he => ?_, fun ⟨he, _⟩ => congrArg _ he.symm⟩
    cases he
    exact ⟨rfl, hlen, hnone⟩

section

variable {α : Type} [Document α] {xs : List α} {items : Nat} {pairs : List (Int × Text)}
  {column : List (Option Text)}

/-- The path is in the last pair for the position. -/
def LastPair (pairs : List (Int × Text)) (i : Nat) (path : Text) : Prop :=
  ∃ before after, pairs = before ++ ((i : Int), path) :: after ∧ (i : Int) ∉ after.map (·.1)

/-- A column of module paths for so many items: a text for each of them, or pairs of positions and
texts, of which the last one for a position counts. -/
inductive WritesPaths (items : Nat) (xs : List α) (given : List (Option Text)) : Prop
  | texts {paths : List Text} (h : List.Forall₂ IsText xs paths) (hlen : xs.length = items)
      (hgiven : given = paths.map some)
  | pairs {pairs : List (Int × Text)} (h : List.Forall₂ IsPair xs pairs) (hne : xs ≠ [])
      (hrange : ∀ p ∈ pairs, 0 ≤ p.1 ∧ p.1 < items) (hlen : given.length = items)
      (hgiven : ∀ i path, given[i]? = some (some path) ↔ LastPair pairs i path)

theorem lastPair_cons {p : Int × Text} : LastPair (p :: pairs) i path ↔
    LastPair pairs i path ∨ p = ((i : Int), path) ∧ (i : Int) ∉ pairs.map (·.1) := by
  constructor
  · rintro ⟨before, after, he, hnot⟩
    cases before with
    | nil =>
      cases he
      exact .inr ⟨rfl, hnot⟩
    | cons q before =>
      cases he
      exact .inl ⟨before, after, rfl, hnot⟩
  · rintro (⟨before, after, rfl, hnot⟩ | ⟨rfl, hnot⟩)
    · exact ⟨p :: before, after, rfl, hnot⟩
    · exact ⟨[], pairs, rfl, hnot⟩

theorem LastPair.mem (h : LastPair pairs i path) : (i : Int) ∈ pairs.map (·.1) := by
  obtain ⟨before, after, rfl, -⟩ := h
  simp

/-- The induction is on the pairs; a later one is put over an earlier one of the same place. -/
theorem getElem?_place (hpos : ∀ p ∈ pairs, 0 ≤ p.1) (hi : i < column.length) :
    (place column pairs)[i]? = some (some path) ↔ LastPair pairs i path ∨
      (i : Int) ∉ pairs.map (·.1) ∧ column[i]? = some (some path) := by
  induction pairs generalizing column with
  | nil =>
    simp [place, LastPair]
  | cons p pairs ih =>
    have hp := hpos p (by simp)
    have hset : (column.set p.1.toNat (some p.2))[i]? = some (some path) ↔
        p = ((i : Int), path) ∨ p.1 ≠ i ∧ column[i]? = some (some path) := by
      obtain ⟨n, t⟩ := p
      by_cases hn : n = i
      · subst hn
        simp [List.getElem?_set_self hi]
      · simp only [Prod.mk.injEq, hn, false_and, false_or, ne_eq, not_false_eq_true, true_and]
        rw [List.getElem?_set_ne (by simp only at hp; omega)]
    rw [place, List.foldl_cons, ← place, ih (fun q hq => hpos q (by simp [hq])) (by simpa using hi),
      hset, lastPair_cons]
    simp only [List.map_cons, List.mem_cons, not_or]
    tauto

theorem textOf?_eq_some {x : α} {t : Text} : textOf? x = some t ↔ IsText x t := by
  unfold textOf? IsText
  split
  · next u hu => simp [hu]
  · next hne => simpa using hne t

theorem pathPair_eq_ok {x : α} {p : Int × Text} : pathPair x = .ok p ↔ IsPair x p := by
  constructor
  · intro h
    unfold pathPair at h
    split at h
    · next n t hs =>
      split at h
      · next hn ht =>
        cases h
        exact ⟨n, t, hs, hn, ht⟩
      · cases h
    · cases h
  · rintro ⟨n, t, hs, hn, ht⟩
    rw [pathPair, hs]
    simp only
    rw [hn, ht]

theorem spread_eq_ok : spread items column xs = .ok given ↔ ∃ pairs,
    List.Forall₂ IsPair xs pairs ∧ (∀ p ∈ pairs, 0 ≤ p.1 ∧ p.1 < items) ∧
      given = place column pairs := by
  constructor
  · intro h
    induction xs generalizing column with
    | nil =>
      cases h
      exact ⟨[], .nil, by simp, rfl⟩
    | cons x xs ih =>
      obtain ⟨p, hp, h⟩ := bind_eq_ok.mp h
      simp only at h
      split at h
      · next hrange =>
        obtain ⟨pairs, hall, hpairs, rfl⟩ := ih h
        refine ⟨p :: pairs, .cons (pathPair_eq_ok.mp hp) hall, fun q hq => ?_, rfl⟩
        rcases List.mem_cons.mp hq with rfl | hq
        · exact hrange
        · exact hpairs q hq
      · cases h
  · rintro ⟨pairs, hall, hpairs, rfl⟩
    exact spread_of_isPair hall hpairs

/-- Columns of one length are told apart by the paths in them. -/
theorem eq_of_given {column' : List (Option Text)} (hlen : column.length = column'.length)
    (h : ∀ i < column.length, ∀ path, column[i]? = some (some path) ↔
      column'[i]? = some (some path)) : column = column' := by
  apply List.ext_getElem hlen
  intro i hi hi'
  have hpath := h i hi
  rw [List.getElem?_eq_getElem hi, List.getElem?_eq_getElem hi'] at hpath
  simp only [Option.some.injEq] at hpath
  exact Option.ext hpath

theorem place_replicate (hrange : ∀ p ∈ pairs, 0 ≤ p.1 ∧ p.1 < items) :
    (place (List.replicate items none) pairs)[i]? = some (some path) ↔ LastPair pairs i path := by
  have hlen : (place (List.replicate items none) pairs).length = items := by
    rw [length_place, List.length_replicate]
  by_cases hi : i < items
  · rw [getElem?_place (fun p hp => (hrange p hp).1) (by simpa using hi)]
    simp [hi]
  · rw [List.getElem?_eq_none (by omega)]
    refine ⟨nofun, fun h => ?_⟩
    obtain ⟨p, hp, hpi⟩ := List.mem_map.mp h.mem
    have := (hrange p hp).2
    omega

theorem mapM_textOf?_of_isPair (h : List.Forall₂ IsPair xs pairs) (hne : xs ≠ []) :
    xs.mapM textOf? = none := by
  cases h with
  | nil => exact absurd rfl hne
  | cons hx _ =>
    obtain ⟨n, t, hs, -, -⟩ := hx
    rw [List.mapM_cons, textOf?, hs]
    rfl

theorem pathColumn_eq_ok : pathColumn items xs = .ok given ↔ WritesPaths items xs given := by
  constructor
  · intro h
    unfold pathColumn at h
    split at h
    · next paths hread =>
      obtain ⟨_, hlen, h⟩ := bind_eq_ok.mp h
      cases h
      have hall : List.Forall₂ IsText xs paths :=
        (mapM_eq_some.mp hread).imp fun x t => textOf?_eq_some.mp
      exact .texts hall (hall.length_eq.trans (checkLength_eq_ok.mp hlen)) rfl
    · next hread =>
      obtain ⟨pairs, hall, hrange, rfl⟩ := spread_eq_ok.mp h
      refine .pairs hall (fun hnil => ?_) hrange ?_ fun i path => place_replicate hrange
      · rw [hnil] at hread
        cases hread
      · rw [length_place, List.length_replicate]
  · rintro (⟨hall, hlen, rfl⟩ | ⟨hall, hne, hrange, hlen, hgiven⟩)
    · next paths =>
      have hread : xs.mapM textOf? = some paths :=
        mapM_eq_some.mpr (hall.imp fun x t => textOf?_eq_some.mpr)
      have hcheck : checkLength "q" items paths = .ok () :=
        checkLength_eq_ok.mpr (hall.length_eq.symm.trans hlen)
      rw [pathColumn, hread]
      exact bind_eq_ok.mpr ⟨(), hcheck, rfl⟩
    · rw [pathColumn, mapM_textOf?_of_isPair hall hne]
      refine spread_eq_ok.mpr ⟨_, hall, hrange, eq_of_given ?_ fun i _ path => ?_⟩
      · rw [hlen, length_place, List.length_replicate]
      · rw [hgiven, place_replicate hrange]

end

theorem modulePath_of_rowsOf {entries : List Entry} {rows : List Row}
    (h : rowsOf g entries = .ok rows) : modulePaths g (entries.map (·.path)) = .ok (rows.map (·.modulePath)) := by
  obtain ⟨paths, hpaths, h⟩ := bind_eq_ok.mp h
  cases h
  have hlen : paths.length = entries.length := by
    rw [(modulePaths_eq_ok.mp hpaths).length_eq, List.length_map]
  have hsnd : (List.zipWith Entry.row entries paths).map (·.modulePath) = paths := by
    rw [List.map_zipWith, ← List.map_uncurry_zip_eq_zipWith]
    exact List.map_snd_zip (Nat.le_of_eq hlen)
  rw [hpaths, hsnd]

/-- Columns of module paths are read as they are written, one entry for each item. Whatever the
entries come from, a column or rows, every item has the last path given up to it, which is not
empty, and this fails only where there are items of which the first is given none. -/
theorem modulePaths_inherits (α : Type) [Document α] (g : Generation) :
    (∀ (items : Nat) (xs : List α) (given : List (Option Text)),
      (pathColumn items xs = .ok given ↔ WritesPaths items xs given) ∧
      (pathColumn items xs = .ok given → given.length = items)) ∧
    (∀ (given : List (Option Text)) (folded : List Text),
      (modulePaths g given = .ok folded ↔ Inherits given folded) ∧
      (modulePaths g given = .ok folded → ∀ path ∈ folded, path ≠ [])) ∧
    (∀ (given : List (Option Text)) (e : CrateError), modulePaths g given = .error e ↔
      e = ⟨g, .noFirstPath⟩ ∧ 0 < given.length ∧ ∀ path, ¬ GivenAt given 0 path) ∧
    ∀ (entries : List Entry) (rows : List Row), rowsOf g entries = .ok rows →
      Inherits (entries.map (·.path)) (rows.map (·.modulePath)) := by
  refine ⟨fun items xs given => ⟨pathColumn_eq_ok, length_pathColumn⟩,
    fun given folded => ⟨modulePaths_eq_ok, fun h => ?_⟩, fun given e => modulePaths_eq_error,
    fun entries rows h => ?_⟩
  · exact (modulePaths_eq_ok.mp h).ne_nil
  · exact modulePaths_eq_ok.mp (modulePath_of_rowsOf h)

/-- Pairs out of order, two of them for the last item. -/
example :
    let pair (n : Int) (path : Text) : Json := .array [.int n, .text path]
    (pathColumn 4 [pair 3 "c", pair 0 "a", pair 2 "", pair 3 "d"] >>= modulePaths .v3) =
      .ok ["a", "a", "a", "d"] := rfl

end RustdocIndex.Payload
