import RustdocIndex.Proofs.Result
import RustdocIndex.Text.Utf8

/-! The bytes of texts add up. Texts of one byte per character are read back, strictly as well as
with replacement. -/
namespace RustdocIndex.Utf8

theorem foldl_size (s : List Char) (n : Nat) :
    s.foldl (fun n c => n + c.utf8Size) n = n + size s := by
  induction s generalizing n with
  | nil => rfl
  | cons c s ih =>
    rw [size, List.foldl_cons, List.foldl_cons, ih, ih]
    omega

/-- Offsets count bytes from the front, so the size of a rest is what is left to the whole. -/
theorem size_append (s t : List Char) : size (s ++ t) = size s + size t := by
  rw [size, List.foldl_append]
  exact foldl_size t _

/-- The bytes of a text of characters below 128. -/
def ascii (s : List Char) : Bytes := s.map fun c => UInt8.ofNat c.toNat

/-- A text of such characters. -/
def IsAscii (s : List Char) : Prop := s.all (·.toNat < 128) = true

instance (s : List Char) : Decidable (IsAscii s) :=
  inferInstanceAs (Decidable (s.all (·.toNat < 128) = true))

theorem isAscii_cons {c : Char} {s : List Char} : IsAscii (c :: s) ↔ c.toNat < 128 ∧ IsAscii s := by
  simp [IsAscii]

/-- A byte below 128 is a character by itself, whatever follows it. -/
theorem next_ascii {c : Char} (h : c.toNat < 128) (bytes : Bytes) :
    next (UInt8.ofNat c.toNat) bytes = (.ok c, bytes) := by
  have hlead : (UInt8.ofNat c.toNat).toNat = c.toNat := Nat.mod_eq_of_lt (by omega)
  rw [next, hlead, following?, if_pos (by omega)]
  simp [follow]

theorem pieces_ascii {s : List Char} (h : IsAscii s)
    (seen : List (Except (Defect × Nat) Char)) :
    pieces seen (ascii s) = seen.reverse ++ s.map .ok := by
  induction s generalizing seen with
  | nil => simp [ascii, pieces]
  | cons c s ih =>
    obtain ⟨hc, hs⟩ := isAscii_cons.mp h
    have hnext := next_ascii hc (ascii s)
    rw [show ascii (c :: s) = UInt8.ofNat c.toNat :: ascii s from rfl, pieces]
    split
    · next c' rest hn =>
      cases hnext.symm.trans hn
      rw [ih hs]
      simp
    · next d rest hn => cases hnext.symm.trans hn

/-- Strict decoding reads the text back. -/
theorem decode_ascii {s : List Char} (h : IsAscii s) :
    decode (ascii s) = .ok s := by
  rw [decode, pieces_ascii h, List.reverse_nil, List.nil_append, mapError_eq_ok, mapM_eq_ok,
    List.forall₂_map_left_iff]
  exact List.forall₂_same.mpr fun _ _ => rfl

theorem decodeLossy_ascii {s : List Char} (h : IsAscii s) :
    decodeLossy (ascii s) = s := by
  rw [decodeLossy, pieces_ascii h, List.reverse_nil, List.nil_append, List.map_map]
  exact List.map_id s

end RustdocIndex.Utf8
