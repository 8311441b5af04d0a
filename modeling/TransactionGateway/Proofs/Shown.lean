import TransactionGateway.Proofs.Addresses

/-! # Shown texts

What redaction shows is not changed by redacting it again.

* **Items.** A shown item is an item itself (`Item.masked`), and shown as it is. So masking the
  items of a text twice is masking them once (`maskItems_maskItems`), and the masks put no `://`
  into a text that has none.
* **URLs.** The mask holds none of the characters at which a URL is cut, so every cut of the shown
  text is where it was in the text: the authority still lacks the characters that would end it, and
  what follows it still begins with one of them. -/

namespace TransactionGateway.Url

open TransactionGateway.Text

/-! ### Items -/

namespace Item

variable {sep : Char} (hmask : sep ∉ mask) (i : Item sep)

/-- The item with the mask for the value of a password. -/
def masked : Item sep where
  key := i.key
  value := i.value.map fun v => if NamesPassword i.key then mask else v
  key_closed := i.key_closed
  value_closed := by
    intro v hv
    obtain ⟨w, hw, rfl⟩ := Option.map_eq_some_iff.mp hv
    split
    · exact hmask
    · exact i.value_closed w hw

theorem text_masked : (i.masked hmask).text = i.shown := by
  cases hv : i.value <;> simp [masked, text, shown, hv]

theorem shown_masked : (i.masked hmask).shown = i.shown := by
  cases hv : i.value with
  | none => simp [masked, shown, hv]
  | some v => by_cases h : NamesPassword i.key <;> simp [masked, shown, hv, h]

/-- A mark that is not in an item is not in what is shown of it, as neither the mask nor what
stands around it is part of the mark. -/
theorem not_infix_shown {m : List Char} (hm : m ≠ []) (heq : '=' ∉ m) (hhidden : ¬ m <:+: mask)
    (h : ¬ m <:+: i.text) : ¬ m <:+: i.shown := by
  unfold text at h
  unfold shown
  cases hv : i.value with
  | none => simpa [hv] using h
  | some v =>
    rw [hv] at h
    dsimp only at h ⊢
    split
    · have hkey : ¬ m <:+: i.key := fun hin => h (hin.trans (List.prefix_append _ _).isInfix)
      exact not_infix_append_cons hm heq hkey hhidden
    · exact h

end Item

section Masking

variable {sep : Char} (hsep : sep ≠ '=') (hmask : sep ∉ mask)

theorem listed_masked (items : List (Item sep)) :
    listed (items.map (Item.masked hmask)) = listedShown items := by
  rw [listed, listedShown, List.map_map]
  exact congrArg _ (List.map_congr_left fun i _ => i.text_masked hmask)

theorem listedShown_masked (items : List (Item sep)) :
    listedShown (items.map (Item.masked hmask)) = listedShown items := by
  rw [listedShown, listedShown, List.map_map]
  exact congrArg _ (List.map_congr_left fun i _ => i.shown_masked hmask)

include hsep hmask in
theorem maskItems_maskItems (s : List Char) :
    maskItems sep (maskItems sep s) = maskItems sep s := by
  obtain ⟨items, -, rfl⟩ := exists_listed sep s
  calc maskItems sep (maskItems sep (listed items))
      = maskItems sep (listed (items.map (Item.masked hmask))) := by
        rw [maskItems_listed hsep, listed_masked hmask]
    _ = listedShown items := by rw [maskItems_listed hsep, listedShown_masked hmask]
    _ = maskItems sep (listed items) := (maskItems_listed hsep items).symm

end Masking

theorem text_infix_of_mem {sep : Char} {i : Item sep} {items : List (Item sep)} (h : i ∈ items) :
    i.text <:+: listed items := by
  obtain ⟨before, after, rfl⟩ := List.append_of_mem h
  have hlast := text_infix_listed i after
  cases before with
  | nil => exact hlast
  | cons j before =>
    have hjoin : listed ((j :: before) ++ i :: after) =
        listed (j :: before) ++ sep :: listed (i :: after) := by
      rw [listed, List.map_append, join_append sep (by simp) (by simp)]
      rfl
    rw [hjoin]
    exact hlast.trans ((List.suffix_cons sep _).trans (List.suffix_append _ _)).isInfix

/-- A keyword string stays one: masking its items makes no URL of it. -/
theorem not_infix_maskItems {s : List Char} (h : ¬ schemeMark <:+: s) :
    ¬ schemeMark <:+: maskItems ' ' s := by
  have hhidden : ¬ schemeMark <:+: mask := by decide +kernel
  obtain ⟨items, -, rfl⟩ := exists_listed ' ' s
  rw [maskItems_listed (by decide), ← listed_masked (by decide)]
  refine not_infix_listed fun i hi => ?_
  obtain ⟨j, hj, rfl⟩ := List.mem_map.mp hi
  rw [Item.text_masked]
  exact j.not_infix_shown schemeMark_ne_nil (by simp [schemeMark]) hhidden
    fun hin => h (hin.trans (text_infix_of_mem hj))

/-! ### URLs -/

theorem redactAuthority_redactAuthority (authority : List Char) :
    redactAuthority (redactAuthority authority) = redactAuthority authority := by
  cases hat : cut '@' authority with
  | none =>
    have hkept : redactAuthority authority = authority :=
      redactAuthority_of_not_mem (cut_eq_none_iff.mp hat)
    rw [hkept, hkept]
  | some parts =>
    obtain ⟨userinfo, host⟩ := parts
    have huserinfo : '@' ∉ userinfo := not_mem_of_cut hat
    obtain rfl := eq_of_cut hat
    cases hcolon : cut ':' userinfo with
    | none =>
      have hname : Lacks ":@" userinfo := by simp [Lacks, huserinfo, cut_eq_none_iff.mp hcolon]
      rw [redactAuthority_of_name hname, redactAuthority_of_name hname]
    | some login =>
      obtain ⟨user, password⟩ := login
      obtain rfl := eq_of_cut hcolon
      simp only [List.mem_append, List.mem_cons, not_or] at huserinfo
      have hname : Lacks ":@" user := by simp [Lacks, huserinfo.1, not_mem_of_cut hcolon]
      have hhidden (p : List Char) (hp : '@' ∉ p) :
          redactAuthority (user ++ ':' :: p ++ '@' :: host)
            = user ++ ':' :: mask ++ '@' :: host := by
        rw [redactAuthority_of_password hname, exposed_of_not_mem hp, List.nil_append]
      rw [hhidden password huserinfo.2.2, hhidden mask (by decide)]

theorem lacks_redactAuthority {authority : List Char} (h : Lacks "/?" authority) :
    Lacks "/?" (redactAuthority authority) := by
  unfold redactAuthority
  split
  · next userinfo host hat =>
    rw [eq_of_cut hat, lacks_append, lacks_cons] at h
    split
    · next user password hcolon =>
      rw [eq_of_cut hcolon, lacks_append] at h
      simp only [lacks_append, lacks_cons]
      exact ⟨⟨h.1.1, by simp, by simp [Lacks, mask]⟩, h.2⟩
    · rw [eq_of_cut hat, lacks_append, lacks_cons]
      exact h
  · exact h

theorem redactTail_redactTail (tail : List Char) :
    redactTail (redactTail tail) = redactTail tail := by
  cases hquery : cut '?' tail with
  | none =>
    have hkept : redactTail tail = tail := redactTail_of_path (cut_eq_none_iff.mp hquery)
    rw [hkept, hkept]
  | some parts =>
    obtain ⟨path, query⟩ := parts
    have hpath : '?' ∉ path := not_mem_of_cut hquery
    obtain rfl := eq_of_cut hquery
    have hmasked (q : List Char) :
        redactTail (path ++ '?' :: q) = path ++ '?' :: maskItems '&' q := by
      rw [redactTail, cut_append hpath]
    rw [hmasked, hmasked, maskItems_maskItems (by decide) (by decide)]

theorem head?_redactTail (tail : List Char) : (redactTail tail).head? = tail.head? := by
  unfold redactTail
  split
  · next path query hquery =>
    rw [eq_of_cut hquery]
    cases path <;> rfl
  · rfl

theorem lacks_takeWhile (rest : List Char) :
    Lacks "/?" (rest.takeWhile fun c => !endsAuthority c) := by
  intro c hc hmem
  have hinside := List.mem_takeWhile_imp hmem
  simp [endsAuthority_iff.mpr hc] at hinside

theorem head_dropWhile (rest : List Char) :
    ∀ c ∈ (rest.dropWhile fun c => !endsAuthority c).head?, c = '/' ∨ c = '?' := by
  intro c hc
  have hends := List.head?_dropWhile_not (fun c => !endsAuthority c) rest
  rw [hc] at hends
  simpa [endsAuthority, or_iff_not_imp_left] using hends

theorem redact_redact (s : List Char) : redact (redact s) = redact s := by
  cases hcut : cutAtMark schemeMark s with
  | none =>
    have hmark : ¬ schemeMark <:+: s := cutAtMark_eq_none_iff.mp hcut
    have hkept : redact s = maskItems ' ' s := redact_of_not_infix hmark
    rw [hkept, redact_of_not_infix (not_infix_maskItems hmark),
      maskItems_maskItems (by decide) (by decide)]
  | some parts =>
    obtain ⟨scheme, rest⟩ := parts
    have hscheme : ¬ schemeMark <:+: scheme := not_infix_of_cutAtMark schemeMark_ne_nil hcut
    have hauthority := lacks_redactAuthority (lacks_takeWhile rest)
    rw [redact_of_cut hcut, redact_parts hscheme hauthority
      (by rw [head?_redactTail]; exact head_dropWhile rest), redactAuthority_redactAuthority,
      redactTail_redactTail]

/-- What is shown of a connection string is shown as it is. -/
theorem redacted_redacted (url : String) : redacted (redacted url) = redacted url := by
  show redacted (String.ofList (redact url.toList)) = String.ofList (redact url.toList)
  rw [redacted_ofList, redact_redact]

end TransactionGateway.Url
