import RustdocIndex.Text.Scan
import RustdocIndex.Text.Split

/-! Hosts between brackets. -/
namespace RustdocIndex.Host

/-- A decimal number up to 255 without a needless zero. -/
def isOctet (s : List Char) : Bool :=
  !s.isEmpty && s.length ≤ 3 && s.all Char.isDigit && (s.length == 1 || s.head? != some '0') &&
    (s.foldl (fun n c => 10 * n + (c.toNat - 48)) 0 ≤ 255)

/-- Four octets with points between them. -/
def isIpv4 (s : List Char) : Bool :=
  let octets := splitAt '.' s
  octets.length == 4 && octets.all isOctet

/-- One to four hexadecimal digits. -/
def isHextet (s : List Char) : Bool :=
  !s.isEmpty && s.length ≤ 4 && s.all fun c => (hexValue? c).isSome

/-- The parts between the colons, where an address of four octets at the end counts as two. -/
def hextets? (s : List Char) : Option (List (List Char)) :=
  let parts := splitAt ':' s
  if parts.length < 3 then none
  else
    match parts.getLast? with
    | some last =>
      if last.contains '.' then
        if isIpv4 last then some (parts.dropLast ++ [['0'], ['0']]) else none
      else some parts
    | none => none

/-- The parts on one side of a gap; at the very end of the address, one empty part belongs to the
gap. -/
def sideOfGap (empty : List (List Char)) (side : List (List Char)) : List (List Char) :=
  if side == empty then [] else side

/-- Eight hextets, or fewer with one gap between them that stands for zeros. -/
def areHextets (parts : List (List Char)) : Bool :=
  let inner := (parts.drop 1).dropLast
  match inner.findIdx? (·.isEmpty) with
  | none => parts.length == 8 && parts.all isHextet
  | some i =>
    let before := sideOfGap [[]] (parts.take (i + 1))
    let after := sideOfGap [[]] (parts.drop (i + 2))
    before.length + after.length ≤ 7 && (before ++ after).all isHextet

/-- An address of hextets, perhaps with the name of a zone. -/
def isIpv6 (s : List Char) : Bool :=
  let (address, zone) := cutAt '%' s
  zone.all (fun z => !z.isEmpty && !z.contains '%') &&
    (match hextets? address with
      | some parts => areHextets parts
      | none => false)

/-- The form for addresses of later versions: a hexadecimal version, a point, and anything. -/
def isFuture (s : List Char) : Bool :=
  match s with
  | 'v' :: s =>
    let version := s.takeWhile fun c => (hexValue? c).isSome
    match s.drop version.length with
    | '.' :: _ :: _ => !version.isEmpty
    | _ => false
  | _ => false

end RustdocIndex.Host
