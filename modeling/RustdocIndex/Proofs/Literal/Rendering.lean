import RustdocIndex.Json.Basic
import RustdocIndex.Proofs.Literal.Statement

/-! The ways to write values in a literal program: as literals or by the names of variables that
stand for them. -/
namespace RustdocIndex.Literal

/-- The ways to write a character of a string between two marks: as it is, behind a backslash, by
two or four hexadecimal digits, or by those of a surrogate pair. -/
inductive Spells (mark c : Char) : List Char → Prop
  | plain (hm : c ≠ mark) (hn : c ≠ '\n') (hb : c ≠ '\\') : Spells mark c [c]
  | quote (hc : c = '\'') : Spells mark c ['\\', c]
  | escaped {e} (h : escaped? e = some c) : Spells mark c ['\\', e]
  | pair {a b} (h : hexPair? a b = some (.ofChar c)) : Spells mark c ['\\', 'x', a, b]
  | unit {a b d e} (h : hexUnit? a b d e = some (.ofChar c)) : Spells mark c ['\\', 'u', a, b, d, e]
  | surrogates {a b d e a' b' d' e' high low} (h : hexUnit? a b d e = some high)
      (h' : hexUnit? a' b' d' e' = some low) (hhigh : high.isHighSurrogate)
      (hlow : low.isLowSurrogate) (hc : CodePoint.ofPair high low = .ofChar c) :
      Spells mark c ['\\', 'u', a, b, d, e, '\\', 'u', a', b', d', e']

/-- A way to write a text between two marks. -/
inductive Quotes (mark : Char) : List Char → List Char → Prop
  | nil : Quotes mark [] []
  | cons {c s t u} (hc : Spells mark c t) (hs : Quotes mark s u) : Quotes mark (c :: s) (t ++ u)

/-- A string between double or single quotes. -/
inductive WritesText (s : List Char) : List Char → Prop
  | between {mark t} (hm : mark = '"' ∨ mark = '\'') (h : Quotes mark s t) :
      WritesText s (mark :: (t ++ [mark]))

/-- A key of an object: a string or a name. -/
inductive WritesKey : Text → List Char → Prop
  | text {s t} (h : WritesText s t) : WritesKey (.ofChars s) t
  | name {name} (hn : IsName name) : WritesKey (.ofString name) name.toList

/-- The ways to write a value without brackets of its own, where the variables stand for the values
of `env`: by a literal, by the name of a variable, or by an element of an array that a variable is. -/
inductive WritesLeaf (env : Fields String Json) : Json → List Char → Prop
  | null : WritesLeaf env .null "null".toList
  | true : WritesLeaf env (.bool .true) "true".toList
  | false : WritesLeaf env (.bool .false) "false".toList
  | int {sign digits} (hi : IsInteger sign digits) (hlen : digits.length ≤ maxIntegerDigits) :
      WritesLeaf env (.int (signed sign digits)) (sign ++ digits)
  | text {s t} (h : WritesText s t) : WritesLeaf env (.text (.ofChars s)) t
  | named {name x} (hn : IsVariable name) (hx : env.get? name = some x) :
      WritesLeaf env x name.toList
  | slot {name xs w v u digits x} (hn : IsVariable name) (hxs : env.get? name = some (.array xs))
      (hw : skipSpace w = []) (hv : skipSpace v = []) (hu : skipSpace u = [])
      (hi : IsInteger [] digits) (hlen : digits.length ≤ maxIntegerDigits)
      (hx : xs[ofDigits (digits.map (·.toNat - 48))]? = some x) :
      WritesLeaf env x (name.toList ++ (w ++ '[' :: (v ++ (digits ++ (u ++ [']'])))))

/-- What a text is written for: a value, or what stands behind an opening bracket or brace, with the
closing one. -/
inductive Piece
  | value (x : Json)
  | elements (xs : List Json)
  | members (ys : Fields Text Json)

/-- The ways to write a piece with no more than `n` brackets and braces open at once. White space may
stand anywhere between tokens, and a comma before a closing bracket or brace. -/
inductive Renders (env : Fields String Json) : Nat → Piece → List Char → Prop
  | leaf {n x t} (h : WritesLeaf env x t) : Renders env n (.value x) t
  | array {n xs t} (h : Renders env n (.elements xs) t) :
      Renders env (n + 1) (.value (.array xs)) ('[' :: t)
  | object {n ys t} (hkeys : (ys.map (·.1)).Nodup) (h : Renders env n (.members ys) t) :
      Renders env (n + 1) (.value (.object ys)) ('\x7b' :: t)
  | before {n x w t} (hw : skipSpace w = []) (h : Renders env n (.value x) t) :
      Renders env n (.value x) (w ++ t)
  | behind {n x w t} (hw : skipSpace w = []) (h : Renders env n (.value x) t) :
      Renders env n (.value x) (t ++ w)
  | noElement {n w} (hw : skipSpace w = []) : Renders env n (.elements []) (w ++ [']'])
  | lastElement {n x t} (hx : Renders env n (.value x) t) :
      Renders env n (.elements [x]) (t ++ [']'])
  | element {n x xs t u} (hx : Renders env n (.value x) t) (h : Renders env n (.elements xs) u) :
      Renders env n (.elements (x :: xs)) (t ++ ',' :: u)
  | noMember {n w} (hw : skipSpace w = []) : Renders env n (.members []) (w ++ ['\x7d'])
  | lastMember {n key x w k v t} (hw : skipSpace w = []) (hk : WritesKey key k)
      (hv : skipSpace v = []) (hx : Renders env n (.value x) t) :
      Renders env n (.members [(key, x)]) (w ++ (k ++ (v ++ ':' :: (t ++ ['\x7d']))))
  | member {n key x ys w k v t u} (hw : skipSpace w = []) (hk : WritesKey key k)
      (hv : skipSpace v = []) (hx : Renders env n (.value x) t)
      (h : Renders env n (.members ys) u) :
      Renders env n (.members ((key, x) :: ys)) (w ++ (k ++ (v ++ ':' :: (t ++ ',' :: u))))

/-- What a name, an equals sign and a value set. -/
inductive Sets (env : Fields String Json) : List Char → Fields String Json → Prop
  | mk {w name v x t} (hw : skipSpace w = []) (hn : IsName name) (hv : skipSpace v = [])
      (hx : Renders env maxDepth (.value x) t) :
      Sets env (w ++ (name.toList ++ (v ++ '=' :: t))) (env.put name x)

/-- What is set by one after the other, with commas between them. -/
inductive SetsAll : Fields String Json → List Char → Fields String Json → Prop
  | last {env t env'} (h : Sets env t env') : SetsAll env t env'
  | more {env t env' u env''} (h : Sets env t env') (hu : SetsAll env' u env'') :
      SetsAll env (t ++ ',' :: u) env''

/-- What declarations set, with semicolons or white space between them. -/
inductive Declares : Fields String Json → List Char → Fields String Json → Prop
  | nil {env} : Declares env [] env
  | skip {env c t env'} (hc : isSpace c = true ∨ c = ';') (h : Declares env t env') :
      Declares env (c :: t) env'
  | var {env c t env' d u env''} (hc : isSpace c = true) (ht : SetsAll env t env')
      (hd : isSpace d = true ∨ d = ';') (h : Declares env' u env'') :
      Declares env ("var".toList ++ c :: (t ++ d :: u)) env''

end RustdocIndex.Literal
