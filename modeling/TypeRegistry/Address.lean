import TypeRegistry.Address.Authority

/-!
# Addresses

Schemas have addresses, and references name them, in full or from where they stand.  An address has
a scheme, an authority behind two slashes, a path with parameters behind a semicolon, a query and a
fragment, each of which may be missing; an empty one is a missing one.  Blanks and control
characters in front of an address and line breaks anywhere in it do not count.

A reference is joined to the address where it stands if its scheme is one that orders addresses by
paths: what the reference lacks is taken from that address, and its path is walked from there.
Nothing is made of an address whose authority is malformed.

Main definitions:

- `Address`, `Address.split?`, `Address.text`: the parts of an address.
- `Address.normal?`: an address without what does not count.
- `Address.join?`: what a reference means where it stands.
- `Address.withoutFragment?`: an address cut at its fragment.
-/

namespace TypeRegistry

/-- The parts of an address. -/
structure Address where
  scheme : List Char := []
  authority : List Char := []
  path : List Char := []
  parameters : List Char := []
  query : List Char := []
  fragment : List Char := []
deriving DecidableEq, Repr

namespace Address

/-! ## Schemes -/

/-- The schemes whose addresses are ordered by paths. -/
def pathSchemes : List String :=
  ["", "ftp", "http", "gopher", "nntp", "imap", "wais", "file", "https", "shttp", "mms", "prospero",
   "rtsp", "rtspu", "sftp", "svn", "svn+ssh", "ws", "wss"]

/-- The schemes whose addresses have authorities. -/
def authoritySchemes : List String :=
  pathSchemes ++ ["telnet", "snews", "rsync", "nfs", "git", "git+ssh"]

/-- The schemes whose paths have parameters. -/
def parameterSchemes : List String :=
  ["", "ftp", "hdl", "prospero", "http", "imap", "https", "shttp", "rtsp", "rtspu", "sip", "sips",
   "mms", "sftp", "tel"]

/-- Whether a scheme is in a list. -/
def isScheme (schemes : List String) (scheme : List Char) : Bool :=
  schemes.contains (String.ofList scheme)

/-! ## Cutting -/

/-- An address without the blanks and control characters in front and the line breaks in it. -/
def cleaned (cs : List Char) : List Char :=
  (cs.dropWhile fun c => c.toNat ≤ 32).filter fun c => c ≠ '\t' && c ≠ '\n' && c ≠ '\x0d'

/-- Whether a character may stand in a scheme. -/
def isSchemeChar (c : Char) : Bool :=
  c.isAlphanum || c = '+' || c = '-' || c = '.'

/-- A text cut behind the scheme at its front, if there is one. -/
def cutScheme? (cs : List Char) : Option (List Char × List Char) :=
  match Text.cutAt? ':' cs with
  | some (c :: lead, rest) =>
    if c.isAlpha && lead.all isSchemeChar then some ((c :: lead).map Char.toLower, rest) else none
  | _ => none

/-- A text cut behind the authority at its front. -/
def cutAuthority : List Char → List Char × List Char
  | '/' :: '/' :: rest => rest.span fun c => c ≠ '/' && c ≠ '?' && c ≠ '#'
  | cs => ([], cs)

/-- A text cut at a mark; nothing stands behind a mark that is missing. -/
def cutAtMark (mark : Char) (cs : List Char) : List Char × List Char :=
  (Text.cutAt? mark cs).getD (cs, [])

/-- The parts of an address whose scheme is given unless it has one, the parameters being left in
the path.  A malformed authority makes it no address. -/
def split? (scheme : List Char) (cs : List Char) : Option Address :=
  let (scheme, rest) := (cutScheme? (cleaned cs)).getD (scheme, cleaned cs)
  let (authority, rest) := cutAuthority rest
  let (rest, fragment) := cutAtMark '#' rest
  let (path, query) := cutAtMark '?' rest
  if isAuthority authority then some { scheme, authority, path, query, fragment } else none

/-- A path cut at its last slash. -/
def cutAtLastSlash (path : List Char) : List Char × List Char :=
  let last := path.reverse.takeWhile (· ≠ '/')
  ((path.reverse.drop last.length).reverse, last.reverse)

/-- The address with the parameters of its path apart: what follows the first semicolon in the last
step, in a scheme that has parameters. -/
def withParameters (address : Address) : Address :=
  if isScheme parameterSchemes address.scheme then
    let (lead, last) := cutAtLastSlash address.path
    let (step, parameters) := cutAtMark ';' last
    { address with path := lead ++ step, parameters }
  else address

/-! ## Writing -/

/-- The text of an authority and a path.  Where the scheme has authorities an empty one is written
too, unless the path begins with two slashes itself. -/
def placeText (scheme authority path : List Char) : List Char :=
  if !authority.isEmpty || (!scheme.isEmpty && isScheme authoritySchemes scheme &&
      !"//".toList.isPrefixOf path) then
    let path := if path.isEmpty || path.head? = some '/' then path else '/' :: path
    '/' :: '/' :: authority ++ path
  else path

/-- A part of an address behind its mark, if it is not missing. -/
def marked (mark : Char) (part : List Char) : List Char :=
  if part.isEmpty then [] else mark :: part

/-- The text of an address. -/
def text (address : Address) : List Char :=
  (if address.scheme.isEmpty then [] else address.scheme ++ [':']) ++
    placeText address.scheme address.authority (address.path ++ marked ';' address.parameters) ++
    marked '?' address.query ++ marked '#' address.fragment

/-- An address without what does not count. -/
def normal? (address : String) : Option String :=
  (split? [] address.toList).map fun parts => String.ofList parts.text

/-! ## Joining -/

/-- The steps of a path without empty ones, those at its ends apart. -/
def withoutEmptySteps (steps : List (List Char)) : List (List Char) :=
  match steps with
  | [] => []
  | first :: rest => first :: ((rest.dropLast.filter (!·.isEmpty)) ++ rest.getLast?.toList)

/-- The steps of a path without those to the same place, and without the steps that a step up takes
back. -/
def walkedFrom : (sofar : List (List Char)) → List (List Char) → List (List Char)
  | sofar, [] => sofar
  | sofar, step :: rest =>
    if step = ['.', '.'] then walkedFrom sofar.dropLast rest
    else if step = ['.'] then walkedFrom sofar rest
    else walkedFrom (sofar ++ [step]) rest

/-- The path of steps with a slash between any two. -/
def pathOfSteps : List (List Char) → List Char
  | [] => []
  | [step] => step
  | step :: rest => step ++ '/' :: pathOfSteps rest

/-- The steps that lead to where a path stands: all but the last one, unless that is empty. -/
def leadingSteps (path : List Char) : List (List Char) :=
  let steps := Text.splitOn '/' path
  if steps.getLast? = some [] then steps else steps.dropLast

/-- The path that a path means from another one. -/
def joinPaths (base path : List Char) : List Char :=
  let steps :=
    if path.head? = some '/' then Text.splitOn '/' path
    else withoutEmptySteps (leadingSteps base ++ Text.splitOn '/' path)
  let walked := walkedFrom [] steps
  let ended :=
    if steps.getLast? = some ['.'] || steps.getLast? = some ['.', '.'] then walked ++ [[]]
    else walked
  let path := pathOfSteps ended
  if path.isEmpty then ['/'] else path

/-- The parts of what a reference means at an address, both in one scheme. -/
def joined (base ref : Address) : Address :=
  if !ref.authority.isEmpty then ref
  else if ref.path.isEmpty && ref.parameters.isEmpty then
    { base with query := if ref.query.isEmpty then base.query else ref.query
                fragment := ref.fragment }
  else { ref with authority := base.authority, path := joinPaths base.path ref.path }

/-- What a reference means where it stands. -/
def join? (base ref : String) : Option String :=
  if base.isEmpty then some ref
  else if ref.isEmpty then some base
  else do
    let standing := (← split? [] base.toList).withParameters
    let meant := (← split? standing.scheme ref.toList).withParameters
    if meant.scheme ≠ standing.scheme || !isScheme pathSchemes meant.scheme then return ref
    else return String.ofList (joined standing meant).text

/-- An address cut at its fragment. -/
def withoutFragment? (address : String) : Option (String × String) :=
  if address.toList.contains '#' then
    (split? [] address.toList).map fun parts =>
      let parts := parts.withParameters
      (String.ofList { parts with fragment := [] }.text, String.ofList parts.fragment)
  else some (address, "")

/-- Joined to a missing address a reference means itself. -/
@[simp]
theorem join?_empty (ref : String) : join? "" ref = some ref := by
  simp [join?]

end Address

end TypeRegistry
