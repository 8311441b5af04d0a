import TransactionGateway.Proofs.Lines
import TransactionGateway.Yaml.Assembly
import Mathlib.Data.List.Forall2

/-! # Block mappings as documents

The document of a text that is one block mapping.

* **Nodes.** An entry is shown by two nodes: a scalar without a label, which is its key, plain, and
  a node that shows its value (`EntryShown`). Where they begin is left open.
* **Values.** If the tokens of values are read as nodes that show them, where a key or the end of a
  mapping comes next (`Assembles`), so are those of mappings with these values
  (`assembles_mapping`). An assembly may make at least as many calls as there are tokens, so there
  are enough of them for all the entries (`exists_blockEntries`).
* **Documents.** The lines of entries are a document with the nodes of the entries
  (`exists_ofText_lines`); with a section below a key, that key and the nodes of its own entries
  come last (`exists_ofText_section`). -/

namespace TransactionGateway.Yaml

/-- A node that is a scalar without a label. -/
def Node.IsScalar (text : List Char) (style : Style) (x : Node) : Prop :=
  ∃ start, x = .scalar { start } (String.ofList text) style

/-! ### Tokens and nodes of entries -/

section Entries

variable {γ : Type}

/-- The tokens of an entry with a plain key. -/
def entryTokens (tokens : γ → List Token) (x : String × γ) : List Token :=
  [.key, .scalar x.1.toList .plain, .value] ++ tokens x.2

/-- The tokens of a block mapping. -/
def mappingTokens (tokens : γ → List Token) (xs : List (String × γ)) : List Token :=
  .mappingStart :: (xs.flatMap (entryTokens tokens) ++ [.blockEnd])

/-- The two nodes of an entry. -/
def EntryShown (Shown : γ → Node → Prop) (x : String × γ) (p : Node × Node) : Prop :=
  p.1.IsScalar x.1.toList .plain ∧ Shown x.2 p.2

/-- A node that is a mapping of entries. -/
def MappingShown (Shown : γ → Node → Prop) (xs : List (String × γ)) (y : Node) : Prop :=
  ∃ start ps, y = .mapping { start } ps ∧ List.Forall₂ (EntryShown Shown) xs ps

end Entries

namespace Assembly

variable {c : Assembly} {t : PlacedToken} {rest : List PlacedToken} {n : Nat}

/-- The assembly with other tokens to come. -/
def having (tokens : List PlacedToken) (c : Assembly) : Assembly := { c with tokens }

theorem ask_having {α : Type} (ifStruck : Fault → α) (go : PlacedToken → Part α) :
    (c.having (t :: rest)).ask ifStruck go = go t := rfl

/-- A token that begins a node without a label. -/
theorem node_unlabelled {inBlock indentless : Bool} (hreference : ∀ name, t.token ≠ .reference name)
    (hanchor : ∀ name, t.token ≠ .anchor name) (htag : ∀ tag, t.token ≠ .tag tag) :
    node (n + 1) inBlock indentless (c.having (t :: rest))
      = content n inBlock indentless { start := t.start } t (c.having (t :: rest)) := by
  have hwritten : written { start := t.start } (t :: rest) = ({ start := t.start }, t :: rest) := by
    unfold written
    split <;> simp_all
  rw [node, ask_having]
  split
  · next name h => exact absurd h (hreference name)
  · simp only [having, hwritten]
    rfl

theorem node_scalar {text : List Char} {style : Style} (ht : t.token = .scalar text style)
    (inBlock indentless : Bool) :
    node (n + 2) inBlock indentless (c.having (t :: rest))
      = .whole (.scalar { start := t.start } (String.ofList text) style) (c.having rest) := by
  rw [node_unlabelled (by simp [ht]) (by simp [ht]) (by simp [ht]), content]
  simp only [ht]
  rfl

theorem node_mapping (ht : t.token = .mappingStart) (indentless : Bool) :
    node (n + 2) true indentless (c.having (t :: rest))
      = (blockEntries n t.start (c.having rest)).map (.mapping { start := t.start }) := by
  rw [node_unlabelled (by simp [ht]) (by simp [ht]) (by simp [ht]), content]
  simp only [ht]
  cases indentless <;> rfl

/-- The value that comes next in an entry, which is left out if the next token ends the entry. -/
def valuePart (n : Nat) (finish : Position) (c : Assembly) : Part Node :=
  c.ask .cut fun u =>
    if endsBlockPart u.token then .whole (.missing finish) c else node n true true c

/-- An entry whose key is a scalar. -/
theorem blockEntries_cons {k s v : PlacedToken} {key : List Char} {style : Style} {since : Position}
    {x : Node} (hk : k.token = .key) (hs : s.token = .scalar key style) (hv : v.token = .value)
    {behind : List PlacedToken}
    (hvalue : valuePart (n + 1) v.finish (c.having behind) = .whole x (c.having rest)) :
    blockEntries (n + 3) since (c.having (k :: s :: v :: behind))
      = (blockEntries (n + 1) since (c.having rest)).map
          ((.scalar { start := s.start } (String.ofList key) style, x) :: ·) := by
  have hkey : (c.having (k :: s :: v :: behind)).skip = c.having (s :: v :: behind) := rfl
  have hmark : (c.having (v :: behind)).skip = c.having behind := rfl
  rw [blockEntries, ask_having]
  simp only [hk]
  rw [hkey, ask_having, if_neg (by simp [hs, endsBlockPart]), node_scalar hs, Part.next_whole,
    blockValue, ask_having]
  simp only [hv]
  rw [valuePart] at hvalue
  rw [hmark, hvalue, Part.next_whole]

theorem blockEntries_end (ht : t.token = .blockEnd) (since : Position) :
    blockEntries (n + 1) since (c.having (t :: rest)) = .whole [] (c.having rest) := by
  rw [blockEntries, ask_having]
  simp only [ht]
  rfl

/-! ### Values -/

section Values

variable {γ δ : Type} {tokens : γ → List Token} {Shown : γ → Node → Prop}

/-- The tokens of a value are read as a node that shows it, before a token that ends its entry. -/
def Assembles (tokens : γ → List Token) (Shown : γ → Node → Prop) : Prop :=
  ∀ {x : γ} {us : List PlacedToken}, us.map (·.token) = tokens x → ∀ finish, ∃ y, Shown x y ∧
    ∀ {n t}, us.length < n → endsBlockPart t.token = true → ∀ rest c,
      valuePart n finish (having (us ++ t :: rest) c) = .whole y (having (t :: rest) c)

/-- The entries of a block mapping, up to its end. -/
theorem exists_blockEntries (hvalues : Assembles tokens Shown) {xs : List (String × γ)}
    {us : List PlacedToken}
    (hus : us.map (·.token) = xs.flatMap (entryTokens tokens) ++ [.blockEnd]) :
    ∃ ps, List.Forall₂ (EntryShown Shown) xs ps ∧ ∀ {n}, us.length ≤ n → ∀ since rest c,
      blockEntries n since (having (us ++ rest) c) = .whole ps (having rest c) := by
  induction xs generalizing us with
  | nil =>
    obtain ⟨b, rfl, hb⟩ := List.map_eq_singleton_iff.mp hus
    refine ⟨[], .nil, fun {n} hn since rest c => ?_⟩
    obtain ⟨n, rfl⟩ := Nat.exists_eq_add_of_le' hn
    exact blockEntries_end hb since
  | cons x xs ih =>
    simp only [List.flatMap_cons, entryTokens, List.cons_append, List.nil_append, List.append_assoc,
      List.map_eq_cons_iff] at hus
    obtain ⟨k, _, rfl, hk, s, _, rfl, hs, v, _, rfl, hv, hus⟩ := hus
    obtain ⟨us, more, rfl, hvalue, hmore⟩ := List.map_eq_append_iff.mp hus
    obtain ⟨y, hy, hread⟩ := hvalues hvalue v.finish
    obtain ⟨ps, hps, hothers⟩ := ih hmore
    -- A key or the end of the mapping comes behind the value.
    obtain ⟨t, behind, rfl, ht⟩ :
        ∃ t behind, more = t :: behind ∧ endsBlockPart t.token = true := by
      cases xs <;> obtain ⟨t, behind, rfl, ht, -⟩ := List.map_eq_cons_iff.mp hmore <;>
        exact ⟨t, behind, rfl, by rw [ht]; rfl⟩
    refine ⟨(_, y) :: ps, .cons ⟨⟨s.start, rfl⟩, hy⟩ hps, fun {n} hn since rest c => ?_⟩
    simp only [List.length_cons, List.length_append] at hn
    obtain ⟨n, rfl⟩ : ∃ m, n = m + 3 := ⟨n - 3, by omega⟩
    have hpart := hread (n := n + 1) (by omega) ht (behind ++ rest) c
    have hall := hothers (n := n + 1) (by rw [List.length_cons]; omega) since rest c
    rw [List.cons_append] at hall
    simp only [List.cons_append, List.append_assoc]
    rw [blockEntries_cons hk hs hv hpart, hall]
    rfl

/-- A block mapping is read if its values are. -/
theorem assembles_mapping (hvalues : Assembles tokens Shown) :
    Assembles (mappingTokens tokens) (MappingShown Shown) := by
  intro xs us hus finish
  obtain ⟨m, us, rfl, hm, hentries⟩ := List.map_eq_cons_iff.mp hus
  obtain ⟨ps, hps, hread⟩ := exists_blockEntries hvalues hentries
  refine ⟨.mapping { start := m.start } ps, ⟨_, _, rfl, hps⟩, fun {n t} hn _ rest c => ?_⟩
  rw [List.length_cons] at hn
  obtain ⟨n, rfl⟩ : ∃ k, n = k + 2 := ⟨n - 2, by omega⟩
  rw [valuePart, List.cons_append, ask_having, if_neg (by simp [hm, endsBlockPart]),
    node_mapping hm, hread (by omega)]
  rfl

/-- A scalar is read as it is. -/
theorem assembles_scalar (text : γ → List Char) (style : γ → Style) :
    Assembles (fun x => [.scalar (text x) (style x)])
      fun x => Node.IsScalar (text x) (style x) := by
  intro x us hus finish
  obtain ⟨u, rfl, hu⟩ := List.map_eq_singleton_iff.mp hus
  refine ⟨_, ⟨u.start, rfl⟩, fun {n t} hn _ rest c => ?_⟩
  obtain ⟨n, rfl⟩ : ∃ k, n = k + 2 := ⟨n - 2, by rw [List.length_singleton] at hn; omega⟩
  rw [valuePart, List.singleton_append, ask_having, if_neg (by simp [hu, endsBlockPart]),
    node_scalar hu]

theorem Assembles.sum {more : δ → List Token} {Shown' : δ → Node → Prop}
    (h : Assembles tokens Shown) (h' : Assembles more Shown') :
    Assembles (Sum.elim tokens more) (Sum.elim Shown Shown') := by
  rintro (x | x) us hus
  · exact h hus
  · exact h' hus

end Values

end Assembly

open Assembly

theorem exists_of_forall₂_append {α β : Type} {R : α → β → Prop} {as as' : List α} {bs : List β}
    (h : List.Forall₂ R (as ++ as') bs) :
    ∃ cs ds, List.Forall₂ R as cs ∧ List.Forall₂ R as' ds ∧ bs = cs ++ ds :=
  ⟨bs.take as.length, bs.drop as.length, by simpa using List.forall₂_take as.length h,
    by simpa using List.forall₂_drop as.length h, (List.take_append_drop _ _).symm⟩

namespace Assembly

variable {γ : Type} {tokens : γ → List Token} {Shown : γ → Node → Prop}

theorem exists_root (hvalues : Assembles tokens Shown) {us : List PlacedToken}
    {xs : List (String × γ)} (hus : us.map (·.token) = mappingTokens tokens xs) :
    ∃ start ps, List.Forall₂ (EntryShown Shown) xs ps ∧ ∀ rest c,
      root (having (us ++ rest) c) = .whole (.mapping { start } ps) (having rest c) := by
  obtain ⟨m, us, rfl, hm, hentries⟩ := List.map_eq_cons_iff.mp hus
  obtain ⟨ps, hps, hread⟩ := exists_blockEntries hvalues hentries
  refine ⟨m.start, ps, hps, fun rest c => ?_⟩
  have hfuel : enoughFor (m :: (us ++ rest)) = 8 * (us ++ rest).length + 14 + 2 := by
    rw [enoughFor, List.length_cons]
    omega
  show node (enoughFor (m :: (us ++ rest))) true false _ = _
  rw [hfuel, List.cons_append, node_mapping hm, hread (by rw [List.length_append]; omega)]
  rfl

/-- A root with nothing but marks of a document's end behind it. -/
theorem documentOf_whole {x : Node} {c : Assembly} {p : Position} (hending : c.ending = .ok p)
    (htokens : ∀ t ∈ c.tokens, t.token = .documentEnd) :
    documentOf (.whole x c) = { root := some x } := by
  have hgoes : c.goesOn = false := by
    rw [goesOn, hending, Bool.or_eq_false_iff, List.any_eq_false]
    exact ⟨fun t ht => by simp [htokens t ht], rfl⟩
  obtain ⟨tokens, ending, handles, anchors⟩ := c
  obtain rfl : ending = .ok p := hending
  cases tokens <;> simp [documentOf, Part.whole, hgoes]

/-- The mark of a document's start is passed. -/
theorem explicitDocument_cons {o m : PlacedToken} {rest : List PlacedToken} {c : Assembly}
    (ho : o.token = .documentStart) (hm : endsDocument m.token = false) :
    explicitDocument (having (o :: m :: rest) c) = documentOf (root (having (m :: rest) c)) := by
  have hskip : (having (o :: m :: rest) c).skip = having (m :: rest) c := rfl
  rw [explicitDocument, ask_having]
  simp only [ho]
  rw [hskip, ask_having, hm]
  rfl

end Assembly

/-- A run that is one block mapping is its document, whether it is marked as one or not. -/
theorem TokenRun.exists_document {γ : Type} {tokens : γ → List Token} {Shown : γ → Node → Prop}
    (hvalues : Assembles tokens Shown) {opening closing : List Token}
    (hopening : opening = [] ∨ opening = [.documentStart])
    (hclosing : ∀ t ∈ closing, t = .documentEnd) {placed : List PlacedToken}
    {xs : List (String × γ)}
    (hplaced : placed.map (·.token) = opening ++ (mappingTokens tokens xs ++ closing))
    (p : Position) :
    ∃ start ps, List.Forall₂ (EntryShown Shown) xs ps
      ∧ TokenRun.document ⟨placed, .ok p⟩ = { root := some (.mapping { start } ps) } := by
  obtain ⟨os, us, rfl, hos, hus⟩ := List.map_eq_append_iff.mp hplaced
  obtain ⟨us, es, rfl, hus, hes⟩ := List.map_eq_append_iff.mp hus
  obtain ⟨start, ps, hps, hroot⟩ := exists_root hvalues hus
  have hends : ∀ t ∈ es, t.token = .documentEnd := fun t ht =>
    hclosing _ (hes ▸ List.mem_map_of_mem ht)
  let c : Assembly := ⟨[], .ok p, commonHandles, []⟩
  have hdocument : documentOf (root (having (us ++ es) c))
      = { root := some (.mapping { start } ps) } := by
    rw [hroot]
    exact documentOf_whole rfl hends
  refine ⟨start, ps, hps, ?_⟩
  obtain ⟨m, us, rfl, hm, -⟩ := List.map_eq_cons_iff.mp hus
  obtain rfl | rfl := hopening
  · obtain rfl := List.map_eq_nil_iff.mp hos
    rw [← hdocument]
    unfold TokenRun.document
    simp only [List.nil_append, List.cons_append, hm]
    rfl
  · obtain ⟨o, rfl, ho⟩ := List.map_eq_singleton_iff.mp hos
    have hbegins : endsDocument m.token = false := by rw [hm]; rfl
    rw [← hdocument]
    refine Eq.trans ?_ (explicitDocument_cons ho hbegins)
    unfold TokenRun.document
    simp only [List.singleton_append, ho, directives]
    rfl

theorem TokenRun.exists_document_unmarked {γ : Type} {tokens : γ → List Token}
    {Shown : γ → Node → Prop} (hvalues : Assembles tokens Shown) {placed : List PlacedToken}
    {xs : List (String × γ)} (hplaced : placed.map (·.token) = mappingTokens tokens xs)
    (p : Position) :
    ∃ start ps, List.Forall₂ (EntryShown Shown) xs ps
      ∧ TokenRun.document ⟨placed, .ok p⟩ = { root := some (.mapping { start } ps) } := by
  rw [← List.append_nil (mappingTokens tokens xs)] at hplaced
  exact exists_document hvalues (.inl rfl) (List.forall_mem_nil _) hplaced p

namespace Entry

/-- The two nodes of an entry. -/
def Shown (e : Entry) (p : Node × Node) : Prop :=
  p.1.IsScalar e.key .plain ∧ p.2.IsScalar e.text e.style

/-- An entry behind its key. -/
def named (e : Entry) : String × Entry := (String.ofList e.key, e)

/-- The tokens of the value of an entry. -/
def valueTokens (e : Entry) : List Token := [.scalar e.text e.style]

/-- A node that shows the value of an entry. -/
def ValueShown (e : Entry) (y : Node) : Prop := y.IsScalar e.text e.style

theorem assembles_values : Assembles valueTokens ValueShown := assembles_scalar text style

theorem entryTokens_named (e : Entry) : entryTokens valueTokens e.named = e.tokens := by
  simp [entryTokens, named, tokens, valueTokens]

theorem flatMap_named (es : List Entry) :
    (es.map named).flatMap (entryTokens valueTokens) = es.flatMap tokens := by
  rw [List.flatMap_map]
  exact List.flatMap_congr fun e _ => entryTokens_named e

theorem shown_named {es : List Entry} {ps : List (Node × Node)}
    (h : List.Forall₂ (EntryShown ValueShown) (es.map named) ps) : List.Forall₂ Shown es ps := by
  rw [List.forall₂_map_left_iff] at h
  exact h.imp fun e p hp => by simpa [EntryShown, named, ValueShown, Shown] using hp

/-- The document of the lines of entries. -/
theorem exists_ofText_lines {e : Entry} {es : List Entry} (hes : ∀ d ∈ e :: es, d.IsRead 1)
    (hkept : AllKept (lines 0 (e :: es))) :
    ∃ start ps, List.Forall₂ Shown (e :: es) ps
      ∧ Document.ofText (String.ofList (lines 0 (e :: es)))
        = { root := some (.mapping { start } ps) } := by
  have hyields : Ahead.Yields ⟨lines 0 (e :: es), 0, [], true⟩
      (.mappingStart :: (e :: es).flatMap tokens) ⟨[], 0, [1], true⟩ := by
    have := Ahead.yields_entries hes (show ([] : List Nat).headD 0 ≤ 0 + 1 by decide)
      (Nat.le_refl 0) lineAhead_nil
    simpa [lines, Ahead.opening, Ahead.opened] using this
  obtain ⟨placed, p, hrun, hplaced⟩ :=
    TokenRun.exists_ofText_of_kept hkept (by simp [lines, line]) (by simp) hyields
  rw [← flatMap_named] at hplaced
  obtain ⟨start, ps, hps, hdocument⟩ := TokenRun.exists_document_unmarked assembles_values hplaced p
  exact ⟨start, ps, shown_named hps, by rw [Document.ofText, hrun, hdocument]⟩

/-- The tokens of entries and of a section below a key, up to the end of the text. -/
theorem yields_section {e d : Entry} {es ds : List Entry} {key : List Char}
    (hes : ∀ c ∈ e :: es, c.IsRead 1) (hkey : Plain.Fits key) (hshort : octetCount key ≤ 1024)
    (hds : ∀ c ∈ d :: ds, c.IsRead 3) :
    Ahead.Yields ⟨lines 0 (e :: es) ++ (key ++ ':' :: '\n' :: lines 2 (d :: ds)), 0, [], true⟩
      (.mappingStart :: ((e :: es).flatMap tokens ++ ([.key, .scalar key .plain, .value,
        .mappingStart] ++ (d :: ds).flatMap tokens))) ⟨[], 0, [3, 1], true⟩ := by
  have hahead := LineAhead.of_fits hkey (':' :: '\n' :: (lines 2 (d :: ds)))
  have hentries := Ahead.yields_entries hes (show ([] : List Nat).headD 0 ≤ 0 + 1 by decide)
    (Nat.le_refl 0) hahead
  have hsection := Ahead.yields_section hkey hshort hds
    (show [1].headD 0 ≤ 0 + 1 by decide) (by decide) (Nat.zero_le 2) lineAhead_nil
  simp only [Ahead.opening, Ahead.opened] at hentries hsection
  simpa [lines] using hentries.trans (by simpa using hsection)

/-- The document of the lines of entries and of a section of further ones below a key. -/
theorem exists_ofText_section {e d : Entry} {es ds : List Entry} {key : List Char}
    (hes : ∀ c ∈ e :: es, c.IsRead 1) (hkey : Plain.Fits key) (hshort : octetCount key ≤ 1024)
    (hds : ∀ c ∈ d :: ds, c.IsRead 3)
    (hkept : AllKept (lines 0 (e :: es) ++ (key ++ ':' :: '\n' :: lines 2 (d :: ds)))) :
    ∃ start start' k ps qs, Node.IsScalar key .plain k ∧ List.Forall₂ Shown (e :: es) ps
      ∧ List.Forall₂ Shown (d :: ds) qs
      ∧ Document.ofText
          (String.ofList (lines 0 (e :: es) ++ (key ++ ':' :: '\n' :: lines 2 (d :: ds))))
        = { root := some (.mapping { start } (ps ++ [(k, .mapping { start := start' } qs)])) } := by
  obtain ⟨placed, p, hrun, hplaced⟩ :=
    TokenRun.exists_ofText_of_kept hkept (by simp [lines, line]) (by simp)
      (yields_section hes hkey hshort hds)
  let tokens' := Sum.elim valueTokens (mappingTokens valueTokens)
  let plain (c : Entry) : String × (Entry ⊕ List (String × Entry)) := (String.ofList c.key, .inl c)
  have hplain : ∀ c, entryTokens tokens' (plain c) = c.tokens := by
    simp [entryTokens, tokens', plain, tokens, valueTokens]
  have hsection : entryTokens tokens' (String.ofList key, .inr ((d :: ds).map named))
      = [.key, .scalar key .plain, .value] ++ .mappingStart ::
          ((d :: ds).flatMap tokens ++ [.blockEnd]) := by
    rw [← flatMap_named]
    simp [entryTokens, tokens', mappingTokens]
  have hsplit : placed.map (·.token) = mappingTokens tokens'
      ((e :: es).map plain ++ [(String.ofList key, .inr ((d :: ds).map named))]) := by
    rw [hplaced, mappingTokens, List.flatMap_append, List.flatMap_map, List.flatMap_singleton,
      hsection, List.flatMap_congr fun c _ => hplain c]
    simp
  obtain ⟨start, rs, hrs, hdocument⟩ := TokenRun.exists_document_unmarked
    (assembles_values.sum (assembles_mapping assembles_values)) hsplit p
  obtain ⟨ps, qs, hps, hqs, rfl⟩ := exists_of_forall₂_append hrs
  rw [List.forall₂_map_left_iff] at hps
  cases hqs with
  | @cons _ p _ _ hp hnil =>
    cases hnil
    obtain ⟨hkey, start', ds', hmapping, hds'⟩ := hp
    obtain ⟨k, v⟩ := p
    obtain rfl : v = _ := hmapping
    refine ⟨start, start', k, ps, ds', ?_, ?_, shown_named hds', by
      rw [Document.ofText, hrun, hdocument]⟩
    · simpa using hkey
    · exact hps.imp fun c p hp => by simpa [EntryShown, plain, ValueShown, Shown] using hp

end Entry

end TransactionGateway.Yaml
