/-! UTF-8, read strictly or with replacement of what is malformed. -/
namespace RustdocIndex

abbrev Bytes := List UInt8

namespace Utf8

inductive Defect
  | invalidStart
  | invalidContinuation
  | unexpectedEnd
  deriving DecidableEq

def Defect.message : Defect → String
  | .invalidStart => "invalid start byte"
  | .invalidContinuation => "invalid continuation byte"
  | .unexpectedEnd => "unexpected end of data"

/-- The bytes that may follow a lead byte, each as a range, and the bits that the lead byte gives.
The first range is narrower where it would allow a surrogate, an overlong form or a code point
beyond the last one. -/
def following? (lead : Nat) : Option (List (Nat × Nat) × Nat) :=
  if lead < 0x80 then some ([], lead)
  else if lead < 0xC2 then none
  else if lead < 0xE0 then some ([(0x80, 0xBF)], lead - 0xC0)
  else if lead = 0xE0 then some ([(0xA0, 0xBF), (0x80, 0xBF)], 0)
  else if lead = 0xED then some ([(0x80, 0x9F), (0x80, 0xBF)], 13)
  else if lead < 0xF0 then some ([(0x80, 0xBF), (0x80, 0xBF)], lead - 0xE0)
  else if lead = 0xF0 then some ([(0x90, 0xBF), (0x80, 0xBF), (0x80, 0xBF)], 0)
  else if lead < 0xF4 then some ([(0x80, 0xBF), (0x80, 0xBF), (0x80, 0xBF)], lead - 0xF0)
  else if lead = 0xF4 then some ([(0x80, 0x8F), (0x80, 0xBF), (0x80, 0xBF)], 4)
  else none

/-- Reads the bytes that follow a lead byte; a byte outside its range is left unread. -/
def follow (value : Nat) : List (Nat × Nat) → Bytes → Except Defect Char × Bytes
  | [], bytes => (.ok (Char.ofNat value), bytes)
  | _ :: _, [] => (.error .unexpectedEnd, [])
  | (low, high) :: more, b :: bytes =>
    if low ≤ b.toNat ∧ b.toNat ≤ high then follow (value * 64 + (b.toNat - 0x80)) more bytes
    else (.error .invalidContinuation, b :: bytes)

theorem follow_length_le (value : Nat) (ranges : List (Nat × Nat)) (bytes : Bytes) :
    (follow value ranges bytes).2.length ≤ bytes.length := by
  fun_induction follow value ranges bytes <;> simp_all
  omega

/-- The character or the malformed part at the front, and what follows it. -/
def next (lead : UInt8) (bytes : Bytes) : Except Defect Char × Bytes :=
  match following? lead.toNat with
  | none => (.error .invalidStart, bytes)
  | some (ranges, value) => follow value ranges bytes

/-- What a character leaves is never longer than what stands behind its first byte, so that reading
goes on to the end of the bytes. -/
theorem next_length_le (lead : UInt8) (bytes : Bytes) :
    (next lead bytes).2.length ≤ bytes.length := by
  unfold next
  split
  · simp
  · exact follow_length_le ..

/-- The characters and malformed parts in order, in front of which `seen` are added in reverse. -/
def pieces (seen : List (Except (Defect × Nat) Char)) : Bytes → List (Except (Defect × Nat) Char)
  | [] => seen.reverse
  | lead :: bytes =>
    match h : next lead bytes with
    | (.ok c, rest) => pieces (.ok c :: seen) rest
    | (.error d, rest) => pieces (.error (d, bytes.length + 1) :: seen) rest
termination_by bytes => bytes.length
decreasing_by all_goals
  have := next_length_le lead bytes
  rw [h] at this
  exact Nat.lt_succ_of_le this

/-- The text, or the first defect and the offset of the character that it spoils. -/
def decode (bytes : Bytes) : Except (Defect × Nat) (List Char) :=
  ((pieces [] bytes).mapM id).mapError fun (d, left) => (d, bytes.length - left)

/-- The text, with a replacement character for each malformed part. -/
def decodeLossy (bytes : Bytes) : List Char :=
  (pieces [] bytes).map fun
    | .ok c => c
    | .error _ => '\uFFFD'

/-- The number of bytes that a text takes. -/
def size (s : List Char) : Nat := s.foldl (fun n c => n + c.utf8Size) 0

end Utf8

end RustdocIndex
