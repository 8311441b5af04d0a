import TransactionGateway.Proofs.Items

/-! # Addresses

The URLs by which servers are reached, written from their parts, and what redaction shows of them.

* **Addresses** (`Address`). A scheme, a user with or without a password, a host, a path and a query
  of items. Each part lacks the characters that would end it, and no others.
* **Shown addresses** (`Address.shown`). The same parts, with the password of the user and those of
  the query masked. Redaction finds the parts again (`redact_parts`).
* **Logins** (`Login`). A URL around a password that may have an at sign in it. What follows its
  first at sign is shown and nothing else of it (`exposed`), so that passwords without an at sign
  are hidden altogether. -/

namespace TransactionGateway.Url

open TransactionGateway.Text

/-- None of the characters is in the text. -/
def Lacks (chars : String) (s : List Char) : Prop := ∀ c ∈ chars.toList, c ∉ s

/-- The user in front of a host. -/
structure User where
  name : List Char
  password : Option (List Char)
  name_closed : Lacks ":@/?" name
  password_closed : ∀ p ∈ password, Lacks "@/?" p

/-- A URL in its parts. -/
structure Address where
  scheme : List Char
  user : Option User
  host : List Char
  path : List Char
  query : Option (List (Item '&'))
  scheme_closed : ¬ schemeMark <:+: scheme
  host_closed : Lacks "/?" host
  host_alone : user = none → '@' ∉ host
  path_rooted : ∀ c ∈ path.head?, c = '/'
  path_closed : '?' ∉ path

/-- The user as it is written. -/
def User.text (u : User) : List Char :=
  match u.password with
  | none => u.name
  | some p => u.name ++ ':' :: p

/-- The user as it may be shown. -/
def User.shown (u : User) : List Char :=
  match u.password with
  | none => u.name
  | some _ => u.name ++ ':' :: mask

namespace Address

/-- The user and the host, with the user in some writing. -/
def authority (user : User → List Char) (a : Address) : List Char :=
  match a.user with
  | none => a.host
  | some u => user u ++ '@' :: a.host

/-- The path and the query, with the items in some writing. -/
def tail (item : Item '&' → List Char) (a : Address) : List Char :=
  match a.query with
  | none => a.path
  | some items => a.path ++ '?' :: join '&' (items.map item)

/-- The address as it is written. -/
def text (a : Address) : List Char :=
  a.scheme ++ schemeMark ++ a.authority User.text ++ a.tail Item.text

/-- The address as it may be shown. -/
def shown (a : Address) : List Char :=
  a.scheme ++ schemeMark ++ a.authority User.shown ++ a.tail Item.shown

end Address

/-! ### The parts found again -/

theorem lacks_append {chars : String} {s t : List Char} :
    Lacks chars (s ++ t) ↔ Lacks chars s ∧ Lacks chars t := by
  simp only [Lacks, List.mem_append, not_or]
  exact ⟨fun h => ⟨fun c hc => (h c hc).1, fun c hc => (h c hc).2⟩,
    fun h c hc => ⟨h.1 c hc, h.2 c hc⟩⟩

theorem lacks_cons {chars : String} {d : Char} {s : List Char} :
    Lacks chars (d :: s) ↔ d ∉ chars.toList ∧ Lacks chars s := by
  rw [← List.singleton_append, lacks_append]
  refine and_congr_left fun _ => ?_
  simp only [Lacks, List.mem_singleton]
  exact ⟨fun h hd => h d hd rfl, fun h c hc hcd => h (hcd ▸ hc)⟩

theorem Lacks.mono {chars fewer : String} {s : List Char} (h : Lacks chars s)
    (hsub : ∀ c ∈ fewer.toList, c ∈ chars.toList) : Lacks fewer s :=
  fun c hc => h c (hsub c hc)

theorem endsAuthority_iff {c : Char} : endsAuthority c = true ↔ c ∈ "/?".toList := by
  simp [endsAuthority]

theorem schemeMark_overlap : ∀ k, k <+: schemeMark → k <:+ schemeMark → k = [] ∨ k = schemeMark := by
  intro k hk
  rw [← List.mem_inits] at hk
  revert k
  decide +kernel

/-- The scheme, the authority and the rest are found where they were put. -/
theorem redact_parts {scheme authority tail : List Char} (hscheme : ¬ schemeMark <:+: scheme)
    (hauthority : Lacks "/?" authority) (htail : ∀ c ∈ tail.head?, c = '/' ∨ c = '?') :
    redact (scheme ++ schemeMark ++ authority ++ tail) =
      scheme ++ schemeMark ++ redactAuthority authority ++ redactTail tail := by
  have hcut : cutAtMark schemeMark (scheme ++ schemeMark ++ (authority ++ tail)) =
      some (scheme, authority ++ tail) :=
    cutAtMark_append schemeMark_overlap hscheme _
  have hinside : ∀ c ∈ authority, (!endsAuthority c) = true := by
    intro c hc
    rw [Bool.not_eq_true', ← Bool.not_eq_true, endsAuthority_iff]
    exact fun hend => hauthority c hend hc
  have hends : tail.takeWhile (fun c => !endsAuthority c) = [] ∧
      tail.dropWhile (fun c => !endsAuthority c) = tail := by
    cases tail with
    | nil => exact ⟨rfl, rfl⟩
    | cons c tail =>
      have hc : endsAuthority c = true := by simpa [endsAuthority] using htail c rfl
      simp [hc]
  rw [List.append_assoc, redact_of_cut hcut, List.takeWhile_append_of_pos hinside,
    List.dropWhile_append_of_pos hinside, hends.1, hends.2, List.append_nil]

/-- What is shown of a password besides the mask: what follows its first at sign. -/
def exposed (password : List Char) : List Char :=
  match cut '@' password with
  | none => []
  | some (_, rest) => rest ++ ['@']

theorem exposed_of_not_mem {password : List Char} (h : '@' ∉ password) : exposed password = [] := by
  rw [exposed, cut_eq_none_iff.mpr h]

theorem redactAuthority_of_not_mem {host : List Char} (h : '@' ∉ host) :
    redactAuthority host = host := by
  rw [redactAuthority, cut_eq_none_iff.mpr h]

theorem redactAuthority_of_name {name : List Char} (h : Lacks ":@" name) (host : List Char) :
    redactAuthority (name ++ '@' :: host) = name ++ '@' :: host := by
  rw [redactAuthority, cut_append (h '@' (by simp))]
  dsimp only
  rw [cut_eq_none_iff.mpr (h ':' (by simp))]

theorem redactAuthority_of_password {name : List Char} (h : Lacks ":@" name)
    (password host : List Char) :
    redactAuthority (name ++ ':' :: password ++ '@' :: host) =
      name ++ ':' :: mask ++ '@' :: (exposed password ++ host) := by
  have hname (part : List Char) (hpart : '@' ∉ part) : '@' ∉ name ++ ':' :: part := by
    simp [h '@' (by simp), hpart]
  have hcolon : ':' ∉ name := h ':' (by simp)
  cases hcut : cut '@' password with
  | none =>
    have hat : '@' ∉ password := cut_eq_none_iff.mp hcut
    rw [redactAuthority, cut_append (hname password hat)]
    dsimp only
    rw [cut_append hcolon, exposed_of_not_mem hat]
    simp
  | some p =>
    obtain ⟨part, rest⟩ := p
    have hsplit : name ++ ':' :: password ++ '@' :: host =
        (name ++ ':' :: part) ++ '@' :: (rest ++ '@' :: host) := by
      simp [eq_of_cut hcut]
    rw [redactAuthority, hsplit, cut_append (hname part (not_mem_of_cut hcut))]
    dsimp only
    rw [cut_append hcolon, exposed, hcut]
    simp

theorem redactTail_of_path {path : List Char} (h : '?' ∉ path) : redactTail path = path := by
  rw [redactTail, cut_eq_none_iff.mpr h]

theorem redactTail_of_query {path : List Char} (h : '?' ∉ path) (items : List (Item '&')) :
    redactTail (path ++ '?' :: listed items) = path ++ '?' :: listedShown items := by
  rw [redactTail, cut_append h]
  dsimp only
  rw [maskItems_listed (by decide)]

/-! ### Addresses -/

namespace Address

theorem redactAuthority_authority (a : Address) :
    redactAuthority (a.authority User.text) = a.authority User.shown := by
  unfold authority
  cases huser : a.user with
  | none => exact redactAuthority_of_not_mem (a.host_alone huser)
  | some u =>
    have hname : Lacks ":@" u.name := u.name_closed.mono (by simp)
    unfold User.text User.shown
    dsimp only
    cases hpassword : u.password with
    | none => exact redactAuthority_of_name hname a.host
    | some p =>
      dsimp only
      rw [redactAuthority_of_password hname,
        exposed_of_not_mem (u.password_closed p hpassword '@' (by simp)), List.nil_append]

theorem redactTail_tail (a : Address) : redactTail (a.tail Item.text) = a.tail Item.shown := by
  unfold tail
  cases a.query with
  | none => exact redactTail_of_path a.path_closed
  | some items => exact redactTail_of_query a.path_closed items

theorem lacks_authority (a : Address) : Lacks "/?" (a.authority User.text) := by
  unfold authority
  cases a.user with
  | none => exact a.host_closed
  | some u =>
    have hname : Lacks "/?" u.name := u.name_closed.mono (by simp)
    dsimp only
    rw [lacks_append, lacks_cons]
    refine ⟨?_, by simp, a.host_closed⟩
    unfold User.text
    cases hpassword : u.password with
    | none => exact hname
    | some p =>
      dsimp only
      rw [lacks_append, lacks_cons]
      exact ⟨hname, by simp, (u.password_closed p hpassword).mono (by simp)⟩

theorem head_tail (item : Item '&' → List Char) (a : Address) :
    ∀ c ∈ (a.tail item).head?, c = '/' ∨ c = '?' := by
  have hrooted := a.path_rooted
  unfold tail
  cases hpath : a.path with
  | nil => cases a.query <;> simp
  | cons d path =>
    rw [hpath] at hrooted
    cases a.query <;> simpa using .inl (hrooted d rfl)

end Address

/-- An address is shown with the password of its user and the passwords of its query masked, and
with every other character as it is; any text may be the query. -/
theorem redacted_address :
    (∀ a : Address, redacted (String.ofList a.text) = String.ofList a.shown) ∧
    ∀ query : List Char, ∃ items : List (Item '&'), items ≠ [] ∧ listed items = query := by
  refine ⟨fun a => ?_, exists_listed '&'⟩
  rw [redacted_ofList, Address.text,
    redact_parts a.scheme_closed a.lacks_authority (a.head_tail Item.text),
    a.redactAuthority_authority, a.redactTail_tail, Address.shown]

/-- An address whose password has a colon in it, with at signs in its host, its path and its query,
and with two items named after a password. -/
def appAddress : Address where
  scheme := "postgres".toList
  user := some {
    name := "app".toList
    password := some "a:b".toList
    name_closed := by simp [Lacks]
    password_closed := by simp [Lacks] }
  host := "c@db:5432".toList
  path := "/x@y:z".toList
  query := some [
    { key := "opt".toList, value := some "a@b".toList
      key_closed := by simp
      value_closed := by simp },
    { key := "PassWord".toList, value := some "p=q".toList
      key_closed := by simp
      value_closed := by simp },
    { key := "password".toList, value := none
      key_closed := by simp
      value_closed := by simp }]
  scheme_closed := by decide +kernel
  host_closed := by simp [Lacks]
  host_alone := nofun
  path_rooted := by simp
  path_closed := by simp

theorem appAddress_redacted :
    appAddress.text = "postgres://app:a:b@c@db:5432/x@y:z?opt=a@b&PassWord=p=q&password".toList ∧
    redacted (String.ofList appAddress.text) =
      "postgres://app:***@c@db:5432/x@y:z?opt=a@b&PassWord=***&password" := by
  refine ⟨by decide +kernel, ?_⟩
  rw [redacted_address.1 appAddress]
  decide +kernel

/-! ### Logins -/

/-- A URL around a password. -/
structure Login where
  scheme : List Char
  name : List Char
  host : List Char
  tail : List Char
  scheme_closed : ¬ schemeMark <:+: scheme
  name_closed : Lacks ":@/?" name
  host_closed : Lacks "@/?" host
  tail_rooted : ∀ c ∈ tail.head?, c = '/' ∨ c = '?'

namespace Login

/-- The URL with a password. -/
def text (l : Login) (password : List Char) : List Char :=
  l.scheme ++ schemeMark ++ (l.name ++ ':' :: password ++ '@' :: l.host) ++ l.tail

theorem redact_text (l : Login) {password : List Char} (h : Lacks "/?" password) :
    redact (l.text password) =
      l.scheme ++ schemeMark ++ (l.name ++ ':' :: mask ++ '@' :: (exposed password ++ l.host)) ++
        redactTail l.tail := by
  have hauthority : Lacks "/?" (l.name ++ ':' :: password ++ '@' :: l.host) := by
    simp only [lacks_append, lacks_cons]
    exact ⟨⟨l.name_closed.mono (by simp), by simp, h⟩, by simp, l.host_closed.mono (by simp)⟩
  rw [text, redact_parts l.scheme_closed hauthority l.tail_rooted,
    redactAuthority_of_password (l.name_closed.mono (by simp))]

end Login

/-- Of the password in a URL no more is shown than what follows its first at sign.

* Passwords without an at sign are hidden: the URL is shown alike with any of them.
* Any two passwords are shown alike just if the same follows their first at signs. -/
theorem redacted_login_eq_iff (l : Login) {p q : List Char} (hp : Lacks "/?" p)
    (hq : Lacks "/?" q) :
    ('@' ∉ p → '@' ∉ q →
      redacted (String.ofList (l.text p)) = redacted (String.ofList (l.text q))) ∧
    (redacted (String.ofList (l.text p)) = redacted (String.ofList (l.text q)) ↔
      exposed p = exposed q) := by
  have hiff : redacted (String.ofList (l.text p)) = redacted (String.ofList (l.text q)) ↔
      exposed p = exposed q := by
    rw [redacted_ofList, redacted_ofList, String.ofList_inj, l.redact_text hp,
      l.redact_text hq]
    simp only [List.append_cancel_left_eq, List.append_cancel_right_eq, List.cons.injEq, true_and]
  refine ⟨fun hatp hatq => ?_, hiff⟩
  rw [hiff, exposed_of_not_mem hatp, exposed_of_not_mem hatq]

/-- A user of a database. -/
def appLogin : Login where
  scheme := "mysql".toList
  name := "app".toList
  host := "db".toList
  tail := "/app".toList
  scheme_closed := by decide +kernel
  name_closed := by simp [Lacks]
  host_closed := by simp [Lacks]
  tail_rooted := by simp

/-- Two passwords shown alike, and one that is not shown like them. -/
theorem appLogin_redacted_eq_iff :
    Lacks "/?" "a:b".toList ∧ Lacks "/?" "c".toList ∧ Lacks "/?" "c@d".toList ∧
    redacted (String.ofList (appLogin.text "a:b".toList)) =
      redacted (String.ofList (appLogin.text "c".toList)) ∧
    redacted (String.ofList (appLogin.text "a:b".toList)) ≠
      redacted (String.ofList (appLogin.text "c@d".toList)) := by
  have hab : Lacks "/?" "a:b".toList := by simp [Lacks]
  have hc : Lacks "/?" "c".toList := by simp [Lacks]
  have hcd : Lacks "/?" "c@d".toList := by simp [Lacks]
  refine ⟨hab, hc, hcd, (redacted_login_eq_iff appLogin hab hc).1 (by simp) (by simp), ?_⟩
  rw [ne_eq, (redacted_login_eq_iff appLogin hab hcd).2]
  simp [exposed, cut]

/-- A password with an at sign in it is not hidden. -/
theorem not_always_hidden :
    ¬ ∀ (l : Login) (p q : List Char), Lacks "/?" p → Lacks "/?" q →
      redacted (String.ofList (l.text p)) = redacted (String.ofList (l.text q)) := by
  intro h
  have halike := h appLogin "p@ss".toList "p".toList (by simp [Lacks]) (by simp [Lacks])
  revert halike
  decide +kernel

end TransactionGateway.Url
