import EvmProbe.Domain.Name
import EvmProbe.Hex

/-!
Which texts are URLs.

Of a URL only the parts that can be faulty are looked at: the scheme, the host and the port.  In the
schemes of the web there is always a host, a domain name or an address; a host that ends in a number
is an IPv4 address.
-/

namespace EvmProbe.Url

/-- Why a text is no URL. -/
inductive Error where
  /-- There is no scheme. -/
  | noScheme
  | emptyHost
  | invalidPort
  | invalidIpv4
  | invalidIpv6
  /-- A host of a scheme of the web is no domain name. -/
  | invalidName
  /-- A host of any other scheme has a character that is not allowed. -/
  | invalidCharacter
  deriving DecidableEq, Repr

/-- The wording of an error. -/
def Error.message : Error → String
  | .noScheme => "relative URL without a base"
  | .emptyHost => "empty host"
  | .invalidPort => "invalid port number"
  | .invalidIpv4 => "invalid IPv4 address"
  | .invalidIpv6 => "invalid IPv6 address"
  | .invalidName => "invalid international domain name"
  | .invalidCharacter => "invalid domain character"

/-- The text without control characters and spaces at its ends, and without line breaks and tabs. -/
def trim (cs : List Char) : List Char :=
  let isEdge := fun (c : Char) => c.toNat ≤ 0x20
  ((cs.dropWhile isEdge).reverse.dropWhile isEdge).reverse.filter fun c =>
    c ≠ '\t' ∧ c ≠ '\n' ∧ c ≠ '\r'

/-- The scheme, in small letters, and what follows its colon. -/
def scheme? (cs : List Char) : Option (String × List Char) :=
  let isMark := fun (c : Char) => c.isAlphanum || c = '+' || c = '-' || c = '.'
  match cs.takeWhile isMark, cs.dropWhile isMark with
  | first :: rest, ':' :: behind =>
    if first.isAlpha then some ((String.ofList (first :: rest)).toLower, behind) else none
  | _, _ => none

/-- The schemes of the web. -/
def webSchemes : List String := ["http", "https", "ws", "wss", "ftp"]

/-- Whether a character ends the part that names the host. -/
def endsAuthority (web : Bool) (c : Char) : Bool :=
  c = '/' || c = '?' || c = '#' || (web && c = '\\')

/-- Cuts an authority at the last `@`, if there is one, into a user and what follows. -/
def cutUser (authority : List Char) : Option (List Char) × List Char :=
  if authority.contains '@' then
    let host := (authority.reverse.takeWhile (· ≠ '@')).reverse
    (some (authority.take (authority.length - host.length - 1)), host)
  else (none, authority)

/-- Whether a user has a name or a password. -/
def hasCredentials (user : List Char) : Bool := user ≠ [] && user ≠ [':']

/-- Cuts a host at the colon of its port; colons between brackets do not count. -/
def cutPort (inside : Bool) : List Char → List Char × Option (List Char)
  | [] => ([], none)
  | c :: rest =>
    if c = ':' ∧ !inside then ([], some rest)
    else
      let (host, port) := cutPort (if c = '[' then true else if c = ']' then false else inside) rest
      (c :: host, port)

/-- Digits of a radix as a number. -/
def number? (radix : Nat) (digits : List Char) : Option Nat :=
  digits.foldlM (fun n c =>
    let d :=
      if c.isDigit then c.toNat - 48
      else if 97 ≤ c.toNat ∧ c.toNat ≤ 102 then c.toNat - 87
      else if 65 ≤ c.toNat ∧ c.toNat ≤ 70 then c.toNat - 55
      else radix
    if d < radix then some (n * radix + d) else none) 0

/-- A port is a number of 16 bits, or is left out. Before a backslash it ends. -/
def checkPort (port : List Char) : Except Error Unit :=
  match number? 10 (port.takeWhile (· ≠ '\\')) with
  | some n => if n < capacity 2 then .ok () else .error .invalidPort
  | none => .error .invalidPort

/-- A number of an IPv4 address: decimal, or octal or hexadecimal with a marker. -/
def ipv4Number? : List Char → Option Nat
  | [] => none
  | '0' :: 'x' :: digits | '0' :: 'X' :: digits => number? 16 digits
  | '0' :: c :: digits => number? 8 (c :: digits)
  | digits => number? 10 digits

/-- The labels of a name; a dot at its end does not count. -/
def labels (host : List Char) : List (List Char) :=
  let all := host.splitOn '.'
  if all.length > 1 ∧ all.getLast? = some [] then all.dropLast else all

/-- Whether a host ends in a number. -/
def endsInNumber (host : List Char) : Bool :=
  match (labels host).getLast? with
  | none | some [] => false
  | some last => last.all Char.isDigit || (ipv4Number? last).isSome

/-- An IPv4 address has up to four numbers, all but the last of eight bits. -/
def checkIpv4 (host : List Char) : Except Error Unit :=
  match (labels host).mapM ipv4Number? with
  | none => .error .invalidIpv4
  | some numbers =>
    let last := numbers.getLastD 0
    if numbers.length ≤ 4 ∧ numbers.dropLast.all (· < 256) ∧
        last < capacity (5 - numbers.length) then .ok ()
    else .error .invalidIpv4

/-- A group of an IPv6 address. -/
def isGroup (group : List Char) : Bool :=
  1 ≤ group.length && group.length ≤ 4 && (number? 16 group).isSome

/-- Four decimal numbers of eight bits, without leading zeros. -/
def isDotted (text : List Char) : Bool :=
  let parts := text.splitOn '.'
  parts.length = 4 && parts.all fun part =>
    match part with
    | [] | '0' :: _ :: _ => false
    | digits => (number? 10 digits).any (· < 256)

/-- How many groups a part of an IPv6 address stands for; only the last may be dotted. -/
def groups? (isLast : Bool) (part : List Char) : Option Nat :=
  if part.isEmpty then some 0
  else
    let pieces := part.splitOn ':'
    if pieces.all isGroup then some pieces.length
    else if isLast ∧ pieces.dropLast.all isGroup ∧ isDotted (pieces.getLastD []) then
      some (pieces.length + 1)
    else none

/-- Cuts a text at its first double colon. -/
def cutDouble : List Char → List Char × Option (List Char)
  | ':' :: ':' :: rest => ([], some rest)
  | c :: rest => let (before, behind) := cutDouble rest; (c :: before, behind)
  | [] => ([], none)

/-- An IPv6 address has eight groups; a double colon stands for at least one of them. -/
def checkIpv6 (text : List Char) : Except Error Unit :=
  let isValid : Bool := match cutDouble text with
    | (whole, none) => groups? true whole == some 8
    | (before, some behind) =>
      match groups? false before, groups? true behind with
      | some a, some b => a + b ≤ 7
      | _, _ => false
  if isValid then .ok () else .error .invalidIpv6

/-- Replaces the escapes of bytes: a percent sign and two hex digits. -/
def unescape : Bytes → Bytes
  | 0x25 :: a :: b :: rest =>
    match Hex.value? a, Hex.value? b with
    | some high, some low => UInt8.ofNat (16 * high + low) :: unescape rest
    | _, _ => 0x25 :: unescape (a :: b :: rest)
  | byte :: rest => byte :: unescape rest
  | [] => []

/-- The text that a host with escapes stands for. -/
def unescaped? (host : List Char) : Option (List Char) :=
  let content := unescape (Hex.textBytes host)
  (String.fromUTF8? ⟨content.toArray⟩).map String.toList

/-- The characters that a host of no other scheme has. -/
def isForbidden (c : Char) : Bool :=
  c.toNat = 0 || " #/:<>?@[\\]^|".toList.contains c

/-- A host in brackets. -/
def checkBracketed (host : List Char) : Except Error Unit :=
  if host.getLast? = some ']' then checkIpv6 (host.drop 1).dropLast else .error .invalidIpv6

/-- A domain name or an IPv4 address. -/
def checkName (host : List Char) : Except Error Unit :=
  match (unescaped? host).bind Domain.normalized? with
  | none => .error .invalidName
  | some [] => .error .emptyHost
  | some name => if endsInNumber name then checkIpv4 name else .ok ()

/-- A host of a scheme of the web. -/
def checkWebHost (host : List Char) : Except Error Unit :=
  if host.isEmpty then .error .emptyHost
  else if host.head? = some '[' then checkBracketed host
  else checkName host

/-- A host of any other scheme. It may be empty. -/
def checkOtherHost (host : List Char) : Except Error Unit :=
  if host.head? = some '[' then checkBracketed host
  else if host.any isForbidden then .error .invalidCharacter
  else .ok ()

/-- What follows the slashes of a URL: a user, if there is one, a host and a port. An empty user in
front of an empty host is no fault if the text ends there and the scheme needs no host. -/
def checkAuthority (web : Bool) (behind : List Char) : Except Error Unit := do
  let authority := behind.takeWhile fun c => !endsAuthority web c
  let (user, place) := cutUser authority
  if user = some [] ∧ place.isEmpty ∧ authority.length < behind.length then .error .emptyHost
  let (host, port) := cutPort false place
  if web then checkWebHost host else checkOtherHost host
  if host.isEmpty ∧ (user.any hasCredentials ∨ port.isSome) then .error .emptyHost
  port.elim (.ok ()) checkPort

/-- Whether a text is the letter of a drive. -/
def isDrive : List Char → Bool
  | [letter, mark] => letter.isAlpha && (mark = ':' || mark = '|')
  | _ => false

/-- What follows the colon of the URL of a file: after two slashes a host, which may be empty, or a
drive. -/
def checkFile (behind : List Char) : Except Error Unit :=
  if (behind.take 2).all (fun c => c = '/' || c = '\\') then
    let host := (behind.drop 2).takeWhile fun c => !endsAuthority true c
    if host.isEmpty ∨ isDrive host then .ok () else checkWebHost host
  else .ok ()

/-- Checks that a text is a URL. -/
def check (s : String) : Except Error Unit :=
  match scheme? (trim s.toList) with
  | none => .error .noScheme
  | some (scheme, behind) =>
    if scheme = "file" then checkFile behind
    else if webSchemes.contains scheme then
      checkAuthority true (behind.dropWhile fun c => c = '/' || c = '\\')
    else match behind with
      | '/' :: '/' :: behind => checkAuthority false behind
      | _ => .ok ()

end EvmProbe.Url
