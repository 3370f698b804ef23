import RustdocIndex.Proofs.Document.Part
import RustdocIndex.Proofs.Fields
import RustdocIndex.Proofs.Json.Reading
import RustdocIndex.Proofs.Json.Token

/-! How deep a JSON value is that was read, and how deep its parts are. -/
namespace RustdocIndex.Json

/-- How many arrays and objects stand inside one another. -/
def depth (x : Json) : Nat := (picture x).depth

theorem depthAll_pictures_le {xs : List Json} {n : Nat} :
    Tree.depthAll (pictures xs) ≤ n ↔ ∀ x ∈ xs, depth x ≤ n := by
  induction xs with
  | nil => simp [pictures, Tree.depthAll]
  | cons x xs ih =>
    rw [pictures, Tree.depthAll, Nat.max_le, ih, List.forall_mem_cons]
    rfl

theorem depthFields_pictures_le {fields : List (Text × Json)} {n : Nat} :
    Tree.depthFields (fieldPictures fields) ≤ n ↔ ∀ f ∈ fields, depth f.2 ≤ n := by
  induction fields with
  | nil => simp [fieldPictures, Tree.depthFields]
  | cons f fields ih =>
    rw [fieldPictures, Tree.depthFields, Nat.max_le, ih, List.forall_mem_cons]
    rfl

/-- A list is one level above its elements. -/
theorem depth_array_le {xs : List Json} {n : Nat} :
    depth (.array xs) ≤ n + 1 ↔ ∀ x ∈ xs, depth x ≤ n := by
  simp only [depth, picture, Tree.depth, Nat.add_le_add_iff_right]
  exact depthAll_pictures_le

theorem depth_object_le {fields : List (Text × Json)} {n : Nat} :
    depth (.object fields) ≤ n + 1 ↔ ∀ f ∈ fields, depth f.2 ≤ n := by
  simp only [depth, picture, Tree.depth, Nat.add_le_add_iff_right]
  exact depthFields_pictures_le

/-- A field that replaces another one keeps to the bound too. -/
theorem depth_put_le {seen : Fields Text Json} {key : Text} {x : Json} {n : Nat}
    (hseen : ∀ f ∈ seen, depth f.2 ≤ n) (hx : depth x ≤ n) : ∀ f ∈ seen.put key x, depth f.2 ≤ n := by
  intro f hf
  rcases Fields.mem_put hf with rfl | hf
  · exact hx
  · exact hseen f hf

theorem depth_scanLiteral? {s rest : List Char} {x : Json}
    (h : scanLiteral? s = some (x, rest)) : depth x = 0 := by
  obtain ⟨_, -, hm⟩ := scanLiteral?_cases h
  rcases hm with ⟨-, rfl⟩ | ⟨-, rfl⟩ | ⟨-, rfl⟩ | ⟨-, rfl⟩ | ⟨-, rfl⟩ | ⟨-, rfl⟩ <;> rfl

theorem depth_scanNumber {s rest : List Char} {x : Json}
    (h : scanNumber s = .ok (x, rest)) : depth x = 0 := by
  obtain ⟨_, _, _, -, -, ⟨rfl, -, -⟩ | ⟨_, _, _, rfl, -, -⟩⟩ := scanNumber_cases h <;> rfl

/-- The levels that a reading may use up at a place, if what was seen there keeps within them. -/
def Place.KeepsWithin (n : Nat) : Place → Json → Prop
  | .value, x => depth x ≤ n
  | .elements seen, x => (∀ y ∈ seen, depth y ≤ n) → depth x ≤ n + 1
  | .members seen, x => (∀ f ∈ seen, depth f.2 ≤ n) → depth x ≤ n + 1

/-- By induction on the derivation: each bracket takes one of the levels that are left. -/
theorem Reads.keepsWithin {allowed : Json → Prop} {place : Place} {n : Nat} {s rest : List Char}
    {x : Json} (h : Reads allowed place n s x rest) : place.KeepsWithin n x := by
  induction h with
  | string _ => exact Nat.zero_le _
  | emptyArray _ => exact depth_array_le.mpr (by simp)
  | array _ ih => exact ih (by simp)
  | emptyObject _ => exact depth_object_le.mpr (by simp)
  | object _ ih => exact ih (by simp)
  | literal h _ => simp [Place.KeepsWithin, depth_scanLiteral? h]
  | number h _ => simp [Place.KeepsWithin, depth_scanNumber h]
  | lastElement _ _ ihx =>
    intro hseen
    apply depth_array_le.mpr
    intro y hy
    rcases List.mem_cons.mp (List.mem_reverse.mp hy) with rfl | hy
    · exact ihx
    · exact hseen y hy
  | nextElement _ _ _ ihx ihy =>
    intro hseen
    exact ihy fun y hy => by
      rcases List.mem_cons.mp hy with rfl | hy
      · exact ihx
      · exact hseen y hy
  | lastMember _ _ _ _ ihx => exact fun hseen => depth_object_le.mpr (depth_put_le hseen ihx)
  | nextMember _ _ _ _ _ ihx ihy => exact fun hseen => ihy (depth_put_le hseen ihx)

/-- The parser counts the levels that it opens. -/
theorem depth_le_of_parse {s : List Char} {x : Json} (h : parse s = .ok x) :
    depth x ≤ maxDepth := by
  obtain ⟨rest, hr, -⟩ := reads_of_parse h
  exact hr.keepsWithin

/-- A part is no deeper than the whole. -/
theorem depth_le_of_part {x y : Json} (h : Document.Part x y) : depth y ≤ depth x := by
  induction h with
  | refl => exact Nat.le_refl _
  | @element a xs b c h hb _ ih =>
    cases a <;> cases h
    have hle : ∀ z ∈ xs, depth z ≤ Tree.depthAll (pictures xs) :=
      depthAll_pictures_le.mp (Nat.le_refl _)
    exact Nat.le_trans (Nat.le_trans ih (hle b hb)) (Nat.le_succ _)
  | @field a fields k b c h hb _ ih =>
    cases a <;> cases h
    have hle : ∀ f ∈ fields, depth f.2 ≤ Tree.depthFields (fieldPictures fields) :=
      depthFields_pictures_le.mp (Nat.le_refl _)
    exact Nat.le_trans (Nat.le_trans ih (hle (k, b) hb)) (Nat.le_succ _)

end RustdocIndex.Json
