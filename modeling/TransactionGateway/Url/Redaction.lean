import TransactionGateway.Text.Cut

/-! # Redaction of connection strings

A connection string as it may be shown: every password is replaced by three stars.

* **Two forms.** A text with a `://` is a URL, any other text a keyword string of items parted by
  single spaces.
* **URL.** The authority reaches to the first `/` or `?`. Inside it the user information ends at the
  first `@`, and the password is what follows its first `:`. In the query, which follows the first
  `?`, each item between `&` is masked as a keyword item is.
* **Items.** An item `key=value` whose key is `password`, in letters of any case, keeps its key and
  loses its value. -/

namespace TransactionGateway.Url

open TransactionGateway.Text

/-- What is shown in place of a secret. -/
def mask : List Char := "***".toList

/-- The key names a password, in letters of either case. -/
def isPasswordKey (key : List Char) : Bool := key.map Char.toLower == "password".toList

/-- An item with its value masked when its key names a password. -/
def maskItem (item : List Char) : List Char :=
  match cut '=' item with
  | some (key, _) => if isPasswordKey key then key ++ '=' :: mask else item
  | none => item

/-- The items between the separators `c`, each masked. -/
def maskItems (c : Char) (s : List Char) : List Char := join c ((pieces c s).map maskItem)

/-- An authority with the password of its user information masked. -/
def redactAuthority (authority : List Char) : List Char :=
  match cut '@' authority with
  | some (userinfo, host) =>
    match cut ':' userinfo with
    | some (user, _) => user ++ ':' :: mask ++ '@' :: host
    | none => authority
  | none => authority

/-- A path and query with the passwords of the query masked. -/
def redactTail (tail : List Char) : List Char :=
  match cut '?' tail with
  | some (path, query) => path ++ '?' :: maskItems '&' query
  | none => tail

/-- The character ends the authority. -/
def endsAuthority (c : Char) : Bool := c == '/' || c == '?'

/-- The text of a connection string with its passwords masked. -/
def redact (url : List Char) : List Char :=
  match cutAtMark "://".toList url with
  | none => maskItems ' ' url
  | some (scheme, rest) =>
    let authority := rest.takeWhile fun c => !endsAuthority c
    let tail := rest.dropWhile fun c => !endsAuthority c
    scheme ++ "://".toList ++ redactAuthority authority ++ redactTail tail

/-- A connection string with its passwords masked. -/
def redacted (url : String) : String := String.ofList (redact url.toList)

end TransactionGateway.Url
