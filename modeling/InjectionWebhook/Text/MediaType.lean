/-
# Media types

A media type names the format of a body: a type, a subtype with an optional suffix, and parameters.
`isJson` tells whether a header value names JSON: `application/json`, `application/json+…` or
`application/…+json` in any case, with well-formed parameters.
-/
namespace InjectionWebhook
namespace MediaType

/-- The character may stand in a token. -/
def isToken (c : Char) : Bool :=
  c.isAlphanum || "!#$%&'*+-.^_`|~".toList.contains c

/-- The character may stand between quotes. -/
def isQuotable (c : Char) : Bool := 31 < c.toNat && c.toNat ≠ 127

/-- Where a reader of parameters stands. -/
inductive Place where
  | nameStart | name | valueStart | value | quotedStart | quoted | afterQuoted
deriving DecidableEq

/-- One character of the parameters. -/
def Place.step : Place → Char → Option Place
  | .nameStart, c => if c = ' ' then some .nameStart else if isToken c then some .name else none
  | .name, c => if isToken c then some .name else if c = '=' then some .valueStart else none
  | .valueStart, c =>
    if c = '"' then some .quotedStart else if isToken c then some .value else none
  | .value, c => if isToken c then some .value else if c = ';' then some .nameStart else none
  | .quotedStart, c => if isQuotable c then some .quoted else none
  | .quoted, c =>
    if c = '"' then some .afterQuoted else if isQuotable c then some .quoted else none
  | .afterQuoted, c =>
    if c = ';' then some .nameStart else if c = ' ' then some .afterQuoted else none

/-- The parameters may end here. -/
def Place.isEnd : Place → Bool
  | .nameStart | .valueStart | .value | .afterQuoted => true
  | _ => false

/-- The characters are well-formed parameters. -/
def areParameters (cs : List Char) : Bool :=
  match cs.foldlM Place.step .nameStart with
  | some place => place.isEnd
  | none => false

/-- The text as ASCII lower case. -/
def lower (cs : List Char) : List Char := cs.map Char.toLower

/-- The subtype without its suffix, and the suffix: what follows the last plus sign that is not at
the front. -/
def splitSuffix (subtype : List Char) : List Char × Option (List Char) :=
  match subtype with
  | [] => ([], none)
  | first :: rest =>
    if '+' ∈ rest then
      let suffix := (rest.reverse.takeWhile (· ≠ '+')).reverse
      (first :: rest.take (rest.length - suffix.length - 1), some suffix)
    else (subtype, none)

/-- The header value names JSON. -/
def isJson (header : String) : Bool :=
  let cs := header.toList
  let type := cs.takeWhile isToken
  match cs.dropWhile isToken with
  | '/' :: rest =>
    let subtype := rest.takeWhile isToken
    let wellFormed :=
      match rest.dropWhile isToken with
      | [] => true
      | c :: parameters =>
        c = ';' && !subtype.isEmpty && areParameters parameters
    let (name, suffix) := splitSuffix (lower subtype)
    cs.all (fun c => (32 ≤ c.toNat && c.toNat < 127) || c = '\t') && wellFormed &&
      lower type = "application".toList &&
      (name = "json".toList || suffix = some "json".toList)
  | _ => false

end MediaType
end InjectionWebhook
