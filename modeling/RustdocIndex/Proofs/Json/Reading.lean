import RustdocIndex.Json.Parser
import RustdocIndex.Proofs.Result

/-! Readings of JSON text without a budget: what the parser accepts, rule by rule. -/
namespace RustdocIndex.Json

/-- Where in the grammar a text begins: at a value, or inside an array or object behind what was
`seen` of it. -/
inductive Place
  | value
  | elements (seen : List Json)
  | members (seen : Fields Text Json)

/-- From a place, with `depth` more levels allowed and only numbers and literal names that are
`allowed`, the text gives a value and leaves a rest. -/
inductive Reads (allowed : Json → Prop) : Place → Nat → List Char → Json → List Char → Prop
  | string {depth t str rest} (h : scanString ('"' :: t) [] t = .ok (str, rest)) :
      Reads allowed .value depth ('"' :: t) (.text str) rest
  | emptyArray {depth t rest} (h : skipSpace t = ']' :: rest) :
      Reads allowed .value (depth + 1) ('[' :: t) (.array []) rest
  | array {depth t x rest} (h : Reads allowed (.elements []) depth (skipSpace t) x rest) :
      Reads allowed .value (depth + 1) ('[' :: t) x rest
  | emptyObject {depth t rest} (h : skipSpace t = '\x7d' :: rest) :
      Reads allowed .value (depth + 1) ('\x7b' :: t) (.object []) rest
  | object {depth t x rest} (h : Reads allowed (.members []) depth (skipSpace t) x rest) :
      Reads allowed .value (depth + 1) ('\x7b' :: t) x rest
  | literal {depth s x rest} (h : scanLiteral? s = some (x, rest)) (hx : allowed x) :
      Reads allowed .value depth s x rest
  | number {depth s x rest} (h : scanNumber s = .ok (x, rest)) (hx : allowed x) :
      Reads allowed .value depth s x rest
  | lastElement {depth seen s x t rest} (hx : Reads allowed .value depth s x t)
      (ht : skipSpace t = ']' :: rest) :
      Reads allowed (.elements seen) depth s (.array (x :: seen).reverse) rest
  | nextElement {depth seen s x t more y rest} (hx : Reads allowed .value depth s x t)
      (ht : skipSpace t = ',' :: more)
      (hy : Reads allowed (.elements (x :: seen)) depth (skipSpace more) y rest) :
      Reads allowed (.elements seen) depth s y rest
  | lastMember {depth seen t key u v x w rest} (hk : scanString ('"' :: t) [] t = .ok (key, u))
      (hu : skipSpace u = ':' :: v) (hx : Reads allowed .value depth (skipSpace v) x w)
      (hw : skipSpace w = '\x7d' :: rest) :
      Reads allowed (.members seen) depth ('"' :: t) (.object (seen.put key x)) rest
  | nextMember {depth seen t key u v x w more y rest}
      (hk : scanString ('"' :: t) [] t = .ok (key, u)) (hu : skipSpace u = ':' :: v)
      (hx : Reads allowed .value depth (skipSpace v) x w) (hw : skipSpace w = ',' :: more)
      (hy : Reads allowed (.members (seen.put key x)) depth (skipSpace more) y rest) :
      Reads allowed (.members seen) depth ('"' :: t) y rest

/-- Any number and any literal name. -/
def AnyScalar (_ : Json) : Prop := True

/-- What the parser reads at a place. -/
def readAt (budget depth : Nat) (s : List Char) : Place → Except Stop (Json × List Char)
  | .value => value budget depth s
  | .elements seen => elements budget depth seen s
  | .members seen => members budget depth seen s

variable {budget depth : Nat} {s rest : List Char} {x : Json}

/-- With this budget, the parser accepts at each place only what the rules give. -/
def Sound (budget : Nat) : Prop :=
  ∀ (place : Place) {depth : Nat} {s : List Char} {x : Json} {rest : List Char},
    readAt budget depth s place = .ok (x, rest) → Reads AnyScalar place depth s x rest

/-- Each case of the reader is a rule of the readings. -/
theorem Sound.value (ih : Sound budget) (h : value (budget + 1) depth s = .ok (x, rest)) :
    Reads AnyScalar .value depth s x rest := by
  simp only [Json.value] at h
  split at h
  · cases h
  · next c t =>
    split at h
    · next hc =>
      subst hc
      obtain ⟨⟨str, rest⟩, hs, h⟩ := bind_eq_ok.mp h
      cases h
      exact .string hs
    · split at h
      · next hc =>
        subst hc
        split at h
        · cases h
        · next heq =>
          cases h
          exact .emptyArray heq
        · exact .array (ih (.elements []) h)
      · split at h
        · next hc =>
          subst hc
          split at h
          · cases h
          · next heq =>
            cases h
            exact .emptyObject heq
          · exact .object (ih (.members []) h)
        · split at h
          · next hl =>
            cases h
            exact .literal hl trivial
          · exact .number h trivial

theorem Sound.elements {seen : List Json} (ih : Sound budget)
    (h : elements (budget + 1) depth seen s = .ok (x, rest)) :
    Reads AnyScalar (.elements seen) depth s x rest := by
  simp only [Json.elements] at h
  obtain ⟨⟨y, t⟩, hy, h⟩ := bind_eq_ok.mp h
  have hy := ih .value hy
  simp only at h
  split at h
  · next heq =>
    cases h
    exact .lastElement hy heq
  · next heq => exact .nextElement hy heq (ih (.elements _) h)
  · cases h

theorem Sound.members {seen : Fields Text Json} (ih : Sound budget)
    (h : members (budget + 1) depth seen s = .ok (x, rest)) :
    Reads AnyScalar (.members seen) depth s x rest := by
  simp only [Json.members] at h
  split at h
  · next t =>
    obtain ⟨⟨key, u⟩, hk, h⟩ := bind_eq_ok.mp h
    simp only at h
    split at h
    · next hu =>
      obtain ⟨⟨y, w⟩, hy, h⟩ := bind_eq_ok.mp h
      have hy := ih .value hy
      simp only at h
      split at h
      · next hw =>
        cases h
        exact .lastMember hk hu hy hw
      · next hw => exact .nextMember hk hu hy hw (ih (.members _) h)
      · cases h
    · cases h
  · cases h

/-- By induction on the budget: the three readers call each other with one less. -/
theorem reads_of_readAt (budget : Nat) : Sound budget := by
  induction budget with
  | zero =>
    intro place depth s x rest h
    cases place <;> simp [readAt, value, elements, members] at h
  | succ budget ih =>
    intro place depth s x rest h
    cases place with
    | value => exact ih.value h
    | elements seen => exact ih.elements h
    | members seen => exact ih.members h

/-- A text is read as one value with nothing but white space around it. -/
theorem reads_of_parse {s : List Char} {x : Json} (h : parse s = .ok x) :
    ∃ rest, Reads AnyScalar .value maxDepth (skipSpace s) x rest ∧ skipSpace rest = [] := by
  unfold parse at h
  split at h
  · cases h
  · obtain ⟨⟨y, rest⟩, hy, h⟩ := bind_eq_ok.mp h
    have hy : readAt (2 * s.length + 2) maxDepth (skipSpace s) .value = .ok (y, rest) := hy
    simp only at h
    split at h
    · next hrest =>
      cases h
      exact ⟨rest, reads_of_readAt _ .value hy, hrest⟩
    · cases h

end RustdocIndex.Json
