import PageSketch.Text.Digits
import PageSketch.Web.Server

/-!
# Web addresses

An absolute address begins with a scheme. In the schemes of the web a server follows, which a user
may stand before and a number behind, and then a path, a query and a fragment. The parts are kept in
their canonical form: schemes and servers in lower case, without the number that goes without
saying, paths without detours, and everything else escaped where it has to be. So `text` is the
canonical text of an address.
-/

namespace PageSketch.Web

/-- Who is asked: a server, with the name and the password of a user, and a number. The parts of a
user are escaped, and empty if they are missing. -/
structure Authority where
  user : List Char
  password : List Char
  server : Option Server
  hostNumber : Option Nat
deriving DecidableEq, Repr

/-- The authority without any part. In an address of a file it stands for this machine. -/
def Authority.empty : Authority := ⟨[], [], none, none⟩

/-- An absolute address. -/
structure Address where
  scheme : String
  authority : Option Authority
  path : List Char
  query : Option (List Char)
  fragment : Option (List Char)
deriving DecidableEq, Repr

/-! ## Paths -/

namespace AddressPath

/-- A piece with points in place of their escapes. -/
def plainPiece : List Char → List Char
  | '%' :: '2' :: c :: rest =>
    if c = 'e' ∨ c = 'E' then '.' :: plainPiece rest else '%' :: '2' :: c :: rest
  | c :: rest => c :: plainPiece rest
  | [] => []

/-- Whether a piece stands for the place itself. -/
def isHere (piece : List Char) : Bool := plainPiece piece = ['.']

/-- Whether a piece stands for the place above. -/
def isAbove (piece : List Char) : Bool := plainPiece piece = ['.', '.']

/-- Whether a piece names a drive. -/
def isDrive : List Char → Bool
  | [letter, mark] => letter.isAlpha && (mark = ':' || mark = '|')
  | _ => false

/-- Whether a piece names a drive, by itself or in front of a backslash. -/
def startsWithDrive (piece : List Char) : Bool :=
  isDrive (piece.take 2) && (piece.length = 2 || piece[2]? = some '\\')

/-- The pieces, the innermost one first, without the innermost one. A drive is never left, in
whatever address it stands. -/
def ascend : List (List Char) → List (List Char)
  | [] => []
  | piece :: done => if startsWithDrive piece then piece :: done else done

/-- The pieces with another one inside. A drive that an address of a file begins with is marked by a
colon. -/
def descend (isFile : Bool) (done : List (List Char)) (piece : List Char) : List (List Char) :=
  if isFile && done.isEmpty && isDrive piece then [piece.take 1 ++ [':']]
  else escape reservedInPath piece :: done

/-- Follows pieces; a path that ends at a place itself ends in a slash. -/
def follow (isFile : Bool) : List (List Char) → List (List Char) → List (List Char)
  | done, [] => done
  | done, piece :: rest =>
    if isAbove piece then
      if rest.isEmpty then [] :: ascend done else follow isFile (ascend done) rest
    else if isHere piece then
      if rest.isEmpty then [] :: done else follow isFile done rest
    else follow isFile (descend isFile done piece) rest

/-- The text of pieces, the innermost one first. -/
def textOf (done : List (List Char)) : List Char := done.reverse.flatMap ('/' :: ·)

/-- The canonical text of the path that pieces make. -/
def canonical (pieces : List (List Char)) : List Char := textOf (follow false [] pieces)

/-- The canonical text of the path that pieces make in an address of a file: there is one slash at
its beginning. -/
def canonicalFile (pieces : List (List Char)) : List Char :=
  '/' :: (textOf (follow true [] pieces)).dropWhile (· = '/')

/-- Whether the path that pieces make in an address of a file begins with a drive. -/
def beginsWithDrive (pieces : List (List Char)) : Bool :=
  (follow true [] pieces).getLast?.any isDrive

end AddressPath

namespace Address

/-! ## Parts -/

/-- The schemes in which a server has to follow, with the number that goes without saying. -/
def serverSchemes : List (String × Nat) :=
  [("http", 80), ("https", 443), ("ws", 80), ("wss", 443), ("ftp", 21)]

/-- The scheme of files. -/
def fileScheme : String := "file"

/-- The schemes that requests can be sent with. -/
def isWeb (address : Address) : Bool := address.scheme == "http" || address.scheme == "https"

/-- The server, if there is one. -/
def server? (address : Address) : Option Server := address.authority.bind Authority.server

/-! ## Texts -/

/-- The text of the user of an authority. -/
def userText (authority : Authority) : List Char :=
  let password := if authority.password.isEmpty then [] else ':' :: authority.password
  if authority.user.isEmpty && password.isEmpty then [] else authority.user ++ password ++ ['@']

/-- The text of an authority. -/
def authorityText (authority : Authority) : String :=
  String.ofList (userText authority) ++ (authority.server.map Server.text).getD "" ++
    match authority.hostNumber with
    | some number => ":" ++ toString number
    | none => ""

/-- What stands before the path. Without an authority a path must not begin with two slashes. -/
def beforePath (address : Address) : String :=
  match address.authority with
  | some authority => "//" ++ authorityText authority
  | none => if ['/', '/'].isPrefixOf address.path then "/." else ""

/-- A part behind its mark, if it is there. -/
def marked (mark : String) : Option (List Char) → String
  | some cs => mark ++ String.ofList cs
  | none => ""

/-- The part that is sent to the server: a fragment stays at home. -/
def target (address : Address) : String :=
  String.ofList address.path ++ marked "?" address.query

/-- The canonical text. -/
def text (address : Address) : String :=
  address.scheme ++ ":" ++ address.beforePath ++ address.target ++ marked "#" address.fragment

/-! ## Users -/

/-- The name and the password of the user, without escapes; none if there is no user, or if the
name is not text. -/
def user? (address : Address) : Option (String × Option String) :=
  match address.authority with
  | none => none
  | some authority =>
    match unescapeText? authority.user with
    | none => none
    | some user =>
      let password :=
        if authority.password.isEmpty then none else unescapeText? authority.password
      if user.isEmpty && password.isNone then none else some (user, password)

/-- The address without the user that it names. -/
def withoutUser (address : Address) : Address :=
  match address.user?, address.authority with
  | some _, some authority =>
    { address with authority := some { authority with user := [], password := [] } }
  | _, _ => address

/-- What a user shows to be let in. -/
def userProof (user : String × Option String) : String :=
  Text.base64 (user.1 ++ ":" ++ user.2.getD "")

/-! ## Sending -/

/-- The longest address of a request, in bytes. -/
def longestText : Nat := 65534

/-- Whether a request can name a server with this character. -/
def isSendableChar (c : Char) : Bool :=
  c ≠ '"' && c.toNat ≠ 0x60 && c.toNat ≠ 0x7B && c.toNat ≠ 0x7D

/-- Whether requests can be sent to the address. -/
def isSendable (address : Address) : Bool :=
  address.isWeb &&
    (address.server?.any fun server => server.text.toList.all isSendableChar) &&
    address.text.utf8ByteSize ≤ longestText

/-! ## Reading -/

/-- Whether a character is dropped at the ends of an address. -/
def isPadding (c : Char) : Bool := c.toNat ≤ 0x20

/-- Whether a character is dropped everywhere. -/
def isLineBreak (c : Char) : Bool := c = '\t' || c = '\n' || c = '\r'

/-- The characters of an address that count. -/
def withoutPadding (cs : List Char) : List Char :=
  (((cs.dropWhile isPadding).reverse.dropWhile isPadding).reverse).filter (!isLineBreak ·)

/-- Whether a character may stand in a scheme behind its first letter. -/
def isSchemeChar (c : Char) : Bool :=
  c.isAlpha || isDigit c || c = '+' || c = '-' || c = '.'

/-- The scheme in front of a colon, and what follows the colon. -/
def splitScheme? (cs : List Char) : Option (String × List Char) :=
  match cs.takeWhile isSchemeChar, cs.dropWhile isSchemeChar with
  | first :: others, ':' :: rest =>
    if first.isAlpha then some (String.ofList ((first :: others).map Char.toLower), rest)
    else none
  | _, _ => none

/-- What stands before a mark, and what stands behind it if it occurs. -/
def splitAt (mark : Char) (cs : List Char) : List Char × Option (List Char) :=
  (cs.takeWhile (· ≠ mark),
    match cs.dropWhile (· ≠ mark) with
    | [] => none
    | _ :: rest => some rest)

/-- The host that some characters begin with, and what follows it. A colon in brackets does not end
a host. -/
def splitHost : Bool → List Char → List Char × List Char
  | _, [] => ([], [])
  | inBrackets, c :: rest =>
    if c = ':' && !inBrackets then ([], c :: rest)
    else
      let (host, behind) := splitHost (c = '[' || (inBrackets && c ≠ ']')) rest
      (c :: host, behind)

/-- The number behind a host, and what follows it: none if it is left out. A backslash ends a
number. -/
def readHostNumber? : List Char → Option (Option Nat × List Char)
  | [] => some (none, [])
  | ':' :: behind =>
    let digits := behind.takeWhile isDigit
    let rest := behind.dropWhile isDigit
    if digitsValue digits < 65536 && (rest.isEmpty || rest.head? = some '\\') then
      some (if digits.isEmpty then none else some (digitsValue digits), rest)
    else none
  | _ => none

/-- The parts of a user. -/
def readUser (cs : List Char) : List Char × List Char :=
  match splitAt ':' cs with
  | (user, password) =>
    (escape reservedInUser user, escape reservedInUser (password.getD []))

/-- Reads a host with its number, behind the parts of a user, and gives what follows them. -/
def readHost? (usualNumber : Option Nat) (user : List Char × List Char) (cs : List Char) :
    Option (Authority × List Char) :=
  match splitHost false cs with
  | (host, behind) =>
    let server? := if usualNumber.isSome then Server.readWeb? host else Server.readOther? host
    match server?, readHostNumber? behind with
    | some server, some (number, rest) =>
      some (⟨user.1, user.2, some server, if number = usualNumber then none else number⟩, rest)
    | _, _ => none

/-- Reads an authority, and gives what follows it. It may be empty, but not behind a user, and not
in the schemes of the web. -/
def readAuthority? (usualNumber : Option Nat) (cs : List Char) :
    Option (Authority × List Char) :=
  let host := (cs.reverse.takeWhile (· ≠ '@')).reverse
  let before := cs.take (cs.length - host.length)
  let user := readUser before.dropLast
  if host.isEmpty then
    if usualNumber.isSome || before = ['@'] || user ≠ ([], []) then none
    else some (.empty, [])
  else if host.head? = some ':' then none
  else readHost? usualNumber user host

/-- Whether a character separates the pieces of a path. -/
def isSeparator (isWeb : Bool) (c : Char) : Bool := c = '/' || (isWeb && c = '\\')

/-- The pieces of a path behind an authority; in the schemes of the web there is always one. -/
def piecesOf (isWeb : Bool) (cs : List Char) : List (List Char) :=
  match cs with
  | [] => if isWeb then [[]] else []
  | c :: rest =>
    Text.piecesBy (isSeparator isWeb) (if isSeparator isWeb c then rest else c :: rest)

/-- Reads an authority and a path, behind the slashes of a scheme. -/
def readServed? (usualNumber : Option Nat) (cs : List Char) :
    Option (Option Authority × List Char) :=
  let isWeb := usualNumber.isSome
  (readAuthority? usualNumber (cs.takeWhile fun c => !isSeparator isWeb c)).map
    fun (authority, rest) =>
      (some authority,
        AddressPath.canonical
          (piecesOf isWeb (rest ++ cs.dropWhile fun c => !isSeparator isWeb c)))

/-- The parts of an address of a file on this machine. -/
def onThisMachine (pieces : List (List Char)) : Option Authority × List Char :=
  (some .empty, AddressPath.canonicalFile pieces)

/-- Reads the host and the path of an address of a file, behind two slashes. This machine needs no
name, and a drive is on this machine. -/
def readFileHost? (cs : List Char) : Option (Option Authority × List Char) :=
  let host := cs.takeWhile fun c => !isSeparator true c
  let behind := cs.dropWhile fun c => !isSeparator true c
  if AddressPath.isDrive host then some (onThisMachine (Text.piecesBy (isSeparator true) cs))
  else if host.isEmpty then some (onThisMachine (Text.piecesBy (isSeparator true) behind))
  else
    (Server.readWeb? host).map fun server =>
      let pieces := piecesOf true behind
      if server = Server.named "localhost" then
        onThisMachine (Text.piecesBy (isSeparator true) behind)
      else if AddressPath.beginsWithDrive pieces then onThisMachine pieces
      else (some { Authority.empty with server := some server }, AddressPath.canonicalFile pieces)

/-- Reads an address of a file behind its scheme. -/
def readFile? : List Char → Option (Option Authority × List Char)
  | first :: second :: rest =>
    if isSeparator true first && isSeparator true second then readFileHost? rest
    else some (onThisMachine (piecesOf true (first :: second :: rest)))
  | cs => some (onThisMachine (piecesOf true cs))

/-- Reads an address of a scheme that is not known. Without a slash the path is not made of
pieces. -/
def readOther? : List Char → Option (Option Authority × List Char)
  | '/' :: '/' :: rest => readServed? none rest
  | '/' :: rest => some (none, AddressPath.canonical (Text.pieces '/' rest))
  | cs => some (none, escape reservedNowhere cs)

/-- Reads the authority and the path behind a scheme. -/
def readPlace? (scheme : String) (cs : List Char) : Option (Option Authority × List Char) :=
  if scheme = fileScheme then readFile? cs
  else
    match serverSchemes.lookup scheme with
    | some number => readServed? (some number) (cs.dropWhile (isSeparator true))
    | none => readOther? cs

/-- Whether a scheme is one of the web. -/
def isKnownScheme (scheme : String) : Bool :=
  scheme = fileScheme || (serverSchemes.lookup scheme).isSome

/-- Reads a text as an absolute address. -/
def read? (text : String) : Option Address :=
  match splitScheme? (withoutPadding text.toList) with
  | none => none
  | some (scheme, rest) =>
    let (beforeFragment, fragment) := splitAt '#' rest
    let (place, query) := splitAt '?' beforeFragment
    (readPlace? scheme place).map fun (authority, path) =>
      { scheme, authority, path
        query := query.map (escape (reservedInQuery (isKnownScheme scheme)))
        fragment := fragment.map (escape reservedInFragment) }

end Address

end PageSketch.Web
