import DocSplice.Text.Utf8

/-!
# Addresses of services

An address is written as a scheme, a host and a path, possibly with a query and a fragment, and the
same address can be written in many ways.  `Address.read?` reads one and `Address.text` writes it in
the one form that messages show: the scheme and the host in small letters, without the channel that
the scheme implies, the path without dots, and every character that may not stand in its part as
percent signs with the digits of its bytes.

Names and passwords in front of a host are not part of what is shown.
-/

namespace DocSplice.Service

/-- An address, each part already in the form in which it is written. -/
structure Address where
  scheme : Text
  host : Text
  /-- The number behind the host. -/
  channel : Option Nat
  path : Text
  query : Option Text
  fragment : Option Text
  deriving DecidableEq, Repr

namespace Address

/-! ## Percent signs -/

/-- The upper-case hexadecimal digit of a number below sixteen. -/
def hexDigit (n : Nat) : Char := Char.ofNat (if n < 10 then 48 + n else 55 + n)

/-- A byte written with a percent sign. -/
def encodeByte (b : UInt8) : Text := ['%', hexDigit (b.toNat / 16), hexDigit (b.toNat % 16)]

/-- A text in which the control characters, the characters beyond ASCII and those of a list are
written with percent signs. -/
def encode (special : List Char) (t : Text) : Text :=
  t.flatMap fun c =>
    if c.toNat < 32 || 127 ≤ c.toNat || special.contains c then
      (Utf8.encodeChar c).flatMap encodeByte
    else [c]

/-- The characters that may not stand in a fragment. -/
def notInFragment : List Char := [' ', '"', '<', '>', '`']

/-- The characters that may not stand in a path. -/
def notInPath : List Char := notInFragment ++ ['#', '?', '\x7b', '\x7d']

/-- The characters that may not stand in a query. -/
def notInQuery : List Char := [' ', '"', '#', '<', '>', '\'']

/-! ## Paths -/

/-- Whether a part of a path means the directory it stands in. -/
def isDot (part : Text) : Bool :=
  [".".toList, "%2e".toList].contains (part.map Char.toLower)

/-- Whether a part of a path means the directory above. -/
def isDotDot (part : Text) : Bool :=
  ["..".toList, ".%2e".toList, "%2e.".toList, "%2e%2e".toList].contains (part.map Char.toLower)

/-- The parts of a path without dots; `above` holds those read before, the last one first. -/
def resolve (above : List Text) : List Text → List Text
  | [] => above.reverse
  | part :: rest =>
    let above := if isDotDot part then above.drop 1 else if isDot part then above
      else encode notInPath part :: above
    let open? := rest.isEmpty && (isDotDot part || isDot part)
    resolve (if open? then [] :: above else above) rest

/-- A path in the form in which it is written. -/
def pathText (t : Text) : Text :=
  let t := t.map fun c => if c = '\\' then '/' else c
  (resolve [] (Text.split '/' (t.drop 1))).flatMap ('/' :: ·)

/-! ## Reading -/

/-- The channel that a scheme implies; other schemes have no addresses of services. -/
def usualChannel? (scheme : Text) : Option Nat :=
  if scheme = "http".toList then some 80
  else if scheme = "https".toList then some 443
  else none

/-- Whether a character ends the host. -/
def endsHost (c : Char) : Bool := c == '/' || c == '\\' || c == '?' || c == '#'

/-- Whether a character may stand in a host. -/
def isHostChar (c : Char) : Bool :=
  32 < c.toNat && c.toNat != 127 && !"#%/<>?@[\\]^|:".toList.contains c

/-- The number of a channel; nothing stands for none. -/
def channel? (t : Text) : Option (Option Nat) :=
  if t.isEmpty then some none
  else if t.all Char.isDigit then
    let n := t.foldl (fun n c => 10 * n + (c.toNat - 48)) 0
    if n < Nat.pow 2 16 then some (some n) else none
  else none

/-- The host and the channel, without a name and a password in front of them. -/
def hostAndChannel? (t : Text) : Option (Text × Option Nat) := do
  let t := ((Text.split '@' t).getLast?).getD []
  let host := t.takeWhile (· != ':')
  let channel ← channel? ((t.drop host.length).drop 1)
  if host.isEmpty || !host.all isHostChar then none else some (host.map Char.toLower, channel)

/-- What stands behind the first one of a character, if there is one. -/
def behind? (c : Char) (t : Text) : Option Text := (t.dropWhile (· != c)).tail?

/-- The address that a text is. -/
def read? (t : Text) : Option Address := do
  let t := Text.dropAroundWhile (fun c => c.toNat ≤ 32) t
  let t := t.filter fun c => c != '\t' && c != '\n' && c != '\r'
  let rest ← behind? ':' t
  let scheme := (t.takeWhile (· != ':')).map Char.toLower
  let usual ← usualChannel? scheme
  let rest := rest.dropWhile fun c => c == '/' || c == '\\'
  let authority := rest.takeWhile fun c => !endsHost c
  let (host, channel) ← hostAndChannel? authority
  let rest := rest.drop authority.length
  let front := rest.takeWhile (· != '#')
  some
    { scheme := scheme
      host := host
      channel := channel.filter (· != usual)
      path := pathText (front.takeWhile (· != '?'))
      query := (behind? '?' front).map (encode notInQuery)
      fragment := (behind? '#' rest).map (encode notInFragment) }

/-! ## Writing -/

/-- A part that may be missing, behind its sign. -/
def optionalText (sign : Char) : Option Text → Text
  | some t => sign :: t
  | none => []

/-- The address as it is shown. -/
def text (a : Address) : Text :=
  a.scheme ++ "://".toList ++ a.host
    ++ optionalText ':' (a.channel.map fun n => (toString n).toList)
    ++ a.path ++ optionalText '?' a.query ++ optionalText '#' a.fragment

end Address

end DocSplice.Service
