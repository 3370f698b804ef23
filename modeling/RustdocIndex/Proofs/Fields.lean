import Mathlib.Data.List.Forall2
import RustdocIndex.Fields

/-! Lookups after changes of ordered fields. -/
namespace RustdocIndex

namespace Fields

variable {κ α β : Type} [DecidableEq κ]

theorem get?_append (k : κ) (fields more : Fields κ α) :
    get? k (fields ++ more) = (get? k fields).or (get? k more) := by
  induction fields with
  | nil => rfl
  | cons entry fields ih =>
    simp only [List.cons_append, get?]
    split
    · rfl
    · exact ih

@[simp]
theorem get?_put_self (k : κ) (v : α) (fields : Fields κ α) : get? k (put k v fields) = some v := by
  induction fields with
  | nil => simp [put, get?]
  | cons entry fields ih =>
    rw [put]
    split
    · simp [get?]
    · next hk => rw [get?, if_neg hk, ih]

/-- What is there stays, and only a new key is added. -/
theorem get?_putNew (k k' : κ) (v : α) (fields : Fields κ α) :
    get? k (putNew k' v fields) = (get? k fields).or (if k' = k then some v else none) := by
  unfold putNew
  split
  · next h =>
    by_cases hk : k' = k
    · subst hk
      simp [h]
    · simp [hk]
  · simp [get?_append, get?]

/-- Of entries with one key, the first counts. -/
theorem get?_foldl_putNew (k : κ) (entries fields : Fields κ α) :
    get? k (entries.foldl (fun found (k', v) => putNew k' v found) fields) =
      (get? k fields).or (get? k entries) := by
  induction entries generalizing fields with
  | nil => simp [get?]
  | cons entry entries ih =>
    rw [List.foldl_cons, ih, get?_putNew, Option.or_assoc]
    congr 1
    by_cases h : entry.1 = k <;> simp [get?, h]

theorem get?_map (k : κ) (f : α → β) (fields : Fields κ α) :
    get? k (fields.map fun (k', v) => (k', f v)) = (get? k fields).map f := by
  induction fields with
  | nil => rfl
  | cons entry fields ih =>
    simp only [List.map_cons, get?]
    split
    · rfl
    · exact ih

theorem mem_of_get? {k : κ} {v : α} {fields : Fields κ α}
    (h : fields.get? k = some v) : (k, v) ∈ fields := by
  induction fields with
  | nil => cases h
  | cons entry fields ih =>
    simp only [get?] at h
    split at h
    · next hk =>
      cases h
      simp [← hk]
    · exact List.mem_cons_of_mem _ (ih h)

/-- A key that is there is found, though perhaps with an earlier value. -/
theorem exists_get? {k : κ} {v : α} {fields : Fields κ α} (h : (k, v) ∈ fields) :
    ∃ v', fields.get? k = some v' := by
  induction fields with
  | nil => cases h
  | cons entry fields ih =>
    by_cases hk : entry.1 = k
    · exact ⟨entry.2, if_pos hk⟩
    · rcases List.mem_cons.mp h with rfl | h
      · exact absurd rfl hk
      · obtain ⟨v', hv⟩ := ih h
        exact ⟨v', (if_neg hk).trans hv⟩

theorem mem_put {k : κ} {v : α} {fields : Fields κ α} {f : κ × α}
    (h : f ∈ fields.put k v) : f = (k, v) ∨ f ∈ fields := by
  induction fields with
  | nil => simpa [put] using h
  | cons entry fields ih =>
    simp only [put] at h
    split at h
    · rcases List.mem_cons.mp h with h | h
      · exact .inl h
      · exact .inr (List.mem_cons_of_mem _ h)
    · rcases List.mem_cons.mp h with rfl | h
      · exact .inr (by simp)
      · exact (ih h).imp_right (List.mem_cons_of_mem _)

theorem get?_of_forall₂ {R : α → β → Prop} {fs : Fields κ α} {gs : Fields κ β} {k : κ} {y : β}
    (h : List.Forall₂ (fun f g => f.1 = g.1 ∧ R f.2 g.2) fs gs) (hy : get? k gs = some y) :
    ∃ x, get? k fs = some x ∧ R x y := by
  induction h with
  | nil => cases hy
  | cons hf _ ih =>
    simp only [get?, hf.1] at hy ⊢
    split at hy
    · cases hy
      exact ⟨_, if_pos ‹_›, hf.2⟩
    · rw [if_neg ‹_›]
      exact ih hy

theorem get?_put_of_ne {k k' : κ} (h : k ≠ k') (v : α) (fields : Fields κ α) :
    get? k (put k' v fields) = get? k fields := by
  induction fields with
  | nil => simp [put, get?, h.symm]
  | cons entry fields ih =>
    rw [put]
    split
    · next hk => rw [get?, get?, if_neg h.symm, if_neg (hk ▸ h.symm)]
    · rw [get?, get?, ih]

/-- Entries stay related if related values are put under one key. -/
theorem put_forall₂ {R : α → β → Prop} {fs : Fields κ α} {gs : Fields κ β} {k : κ} {x : α} {y : β}
    (h : List.Forall₂ (fun f g => f.1 = g.1 ∧ R f.2 g.2) fs gs) (hxy : R x y) :
    List.Forall₂ (fun f g => f.1 = g.1 ∧ R f.2 g.2) (put k x fs) (put k y gs) := by
  induction h with
  | nil => exact .cons ⟨rfl, hxy⟩ .nil
  | @cons f g fs gs hf hrest ih =>
    rw [put, put, hf.1]
    split
    · exact .cons ⟨rfl, hxy⟩ hrest
    · exact .cons ⟨rfl, hf.2⟩ ih

/-- A new key is put last. -/
theorem put_of_notMem {k : κ} (v : α) {fields : Fields κ α} (h : k ∉ fields.map (·.1)) :
    fields.put k v = fields ++ [(k, v)] := by
  induction fields with
  | nil => rfl
  | cons entry fields ih =>
    simp only [List.map_cons, List.mem_cons, not_or] at h
    rw [put, if_neg (Ne.symm h.1), ih h.2]
    rfl

omit [DecidableEq κ] in
theorem notMem_of_nodup {entry : κ × α} {entries fields : Fields κ α}
    (h : ((fields ++ entry :: entries).map (·.1)).Nodup) : entry.1 ∉ fields.map (·.1) := by
  rw [List.map_append, List.nodup_append] at h
  intro hm
  exact h.2.2 _ hm entry.1 (by simp) rfl

/-- Entries with different keys are put one behind the other. -/
theorem foldl_put {entries fields : Fields κ α} (h : ((fields ++ entries).map (·.1)).Nodup) :
    entries.foldl (fun found e => found.put e.1 e.2) fields = fields ++ entries := by
  induction entries generalizing fields with
  | nil => simp
  | cons entry entries ih =>
    rw [List.foldl_cons, put_of_notMem _ (notMem_of_nodup h), ih]
    · simp
    · simpa using h

end Fields

end RustdocIndex
