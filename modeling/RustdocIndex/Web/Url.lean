import RustdocIndex.Text.Blank
import RustdocIndex.Text.Quoted
import RustdocIndex.Web.Host

/-! The paths of web addresses. -/
namespace RustdocIndex.Url

/-- What is wrong with the host of an address. -/
inductive Problem
  | misplacedBracket
  | notAHost (host : List Char)
  | ipv4InBrackets
  | invalidFuture
  /-- A character of the host looks like a delimiter. -/
  | lookalike (host : List Char)

def Problem.message : Problem → String
  | misplacedBracket => "Invalid IPv6 URL"
  | notAHost host =>
    quote (String.ofList host) ++ " does not appear to be an IPv4 or IPv6 address"
  | ipv4InBrackets => "An IPv4 address cannot be in brackets"
  | invalidFuture => "IPvFuture address is invalid"
  | lookalike host =>
    "netloc '" ++ String.ofList host ++ "' contains invalid characters under NFKC normalization"

/-- The characters whose compatibility forms have a slash, a question mark, a number sign, an at
sign or a colon. -/
def lookalikes : List Nat := [
  0x2047, 0x2048, 0x2049, 0x2100, 0x2101, 0x2105, 0x2106, 0x2A74, 0xFE13, 0xFE16, 0xFE55, 0xFE56,
  0xFE5F, 0xFE6B, 0xFF03, 0xFF0F, 0xFF1A, 0xFF1F, 0xFF20]

/-- The text without the controls and spaces at its front, and without line breaks and tabs. -/
def clean (s : List Char) : List Char :=
  (s.dropWhile (·.toNat ≤ 32)).filter fun c => c != '\t' && c != '\r' && c != '\n'

def isSchemeChar (c : Char) : Bool := c.isAlphanum || c == '+' || c == '-' || c == '.'

/-- The text after the scheme, if it has one. -/
def dropScheme (s : List Char) : List Char :=
  match cutAt ':' s with
  | (c :: scheme, some rest) => if c.isAlpha && scheme.all isSchemeChar then rest else s
  | _ => s

/-- The address in a host with brackets. After the name of a user, only the address stands in
brackets, and only a port follows them; without brackets there, a port ends the address. -/
def addressIn (host : List Char) : Except Problem (List Char) :=
  let host := (afterLast? ['@'] host).getD host
  match cutAt '[' host with
  | (_, none) => .ok (cutAt ':' host).1
  | (front, some rest) =>
    let (address, port) := cutAt ']' rest
    if front.isEmpty && port.all fun port => port.isEmpty || port.head? == some ':' then .ok address
    else .error .misplacedBracket

/-- An address of a form that stands between brackets. -/
def checkAddress (address : List Char) : Except Problem Unit :=
  if address.head? == some 'v' then
    if Host.isFuture address then .ok () else .error .invalidFuture
  else if Host.isIpv4 address then .error .ipv4InBrackets
  else if Host.isIpv6 address then .ok ()
  else .error (.notAHost address)

/-- Brackets in a host hold an address. -/
def checkBrackets (host : List Char) : Except Problem Unit :=
  if host.contains '[' != host.contains ']' then .error .misplacedBracket
  else if !host.contains '[' then .ok ()
  else do checkAddress (← addressIn host)

def checkHost (host : List Char) : Except Problem Unit := do
  checkBrackets host
  if host.any fun c => lookalikes.contains c.toNat then .error (.lookalike host)

/-- The host after two slashes, up to the next delimiter, and what follows it. -/
def cutHost (s : List Char) : List Char × List Char :=
  match s with
  | '/' :: '/' :: s => s.span fun c => c != '/' && c != '?' && c != '#'
  | s => ([], s)

/-- The path of an address: what follows the host, up to the query or the fragment. -/
def path (url : String) : Except Problem (List Char) := do
  let (host, rest) := cutHost (dropScheme (clean url.toList))
  checkHost host
  pure (cutAt '?' (cutAt '#' rest).1).1

end RustdocIndex.Url
