import Mathlib.Data.List.Infix
import Mathlib.Data.List.TakeWhile
import ManifestPublish.Proofs.Url.Segments

/-!
# Addresses under a base

An address is written behind a base and a slash.  Under a scheme with hosts, and if the base holds
neither a query nor a fragment, only path, query and fragment of the URL depend on what is written
there.

* `Url.IsRoot` : the URL of a base with its slash
* `Url.pathPart`, `Url.tailPart` : what is written behind the slash, up to a query or fragment and
  from there

Principal result: `Url.IsRoot.parse_append`.
-/

set_option autoImplicit false

namespace ManifestPublish.Url

/-- The URL of a base with a slash behind it, under a scheme with hosts, where the base holds
neither a query nor a fragment. -/
structure IsRoot (base : String) (root : Url) : Prop where
  parsed : Url.parse (base ++ "/") = .ok root
  special : isSpecial root.scheme = true
  query : root.query = none
  fragment : root.fragment = none

def kept (cs : List Char) : List Char := cs.filter (!isDropped ·)

/-- What is read of a text as a path. -/
def pathPart (cs : List Char) : List Char := (kept cs).takeWhile (!endsPath ·)

/-- What is read of a text as a query and a fragment. -/
def tailPart (cs : List Char) : List Char := (kept cs).dropWhile (!endsPath ·)

/-! ## What is dropped -/

theorem trimEnd_of_getLast? {cs : List Char} {c : Char} (hlast : cs.getLast? = some c)
    (hc : isEdge c = false) : (cs.reverse.dropWhile isEdge).reverse = cs := by
  rw [← List.head?_reverse] at hlast
  cases hreverse : cs.reverse with
  | nil =>
    rw [hreverse] at hlast
    cases hlast
  | cons d ds =>
    rw [hreverse] at hlast
    cases hlast
    rw [List.dropWhile_cons_of_neg (by simp [hc]), ← hreverse, List.reverse_reverse]

theorem exists_dropWhile_append_slash (base : List Char) :
    ∃ front, (base ++ ['/']).dropWhile isEdge = front ++ ['/'] := by
  induction base with
  | nil => exact ⟨[], by decide⟩
  | cons b base ih =>
    by_cases hb : isEdge b = true
    · rw [List.cons_append, List.dropWhile_cons_of_pos hb]
      exact ih
    · rw [List.cons_append, List.dropWhile_cons_of_neg hb]
      exact ⟨b :: base, rfl⟩

/-- A slash inside a text keeps what stands before it apart from what follows. -/
theorem exists_significant_append (base : List Char) :
    ∃ before, significant (base ++ ['/']) = before ++ ['/'] ∧
      ∀ cs c, cs.getLast? = some c → isEdge c = false →
        significant (base ++ '/' :: cs) = before ++ ['/'] ++ kept cs := by
  obtain ⟨front, hfront⟩ := exists_dropWhile_append_slash base
  refine ⟨kept front, ?_, ?_⟩
  · have hlast : (front ++ ['/']).getLast? = some '/' := List.getLast?_concat
    rw [significant, hfront, trimEnd_of_getLast? hlast (by decide), List.filter_append]
    rfl
  · intro cs c hlast hc
    have hsplit : base ++ '/' :: cs = base ++ ['/'] ++ cs := by simp
    have hwhole : (base ++ '/' :: cs).dropWhile isEdge = front ++ ['/'] ++ cs := by
      rw [hsplit, List.dropWhile_append, hfront]
      simp
    have hlast : (front ++ ['/'] ++ cs).getLast? = some c := by
      rw [List.getLast?_append, hlast]
      rfl
    rw [significant, hwhole, trimEnd_of_getLast? hlast hc, List.filter_append, List.filter_append]
    rfl

/-! ## What is written as a path -/

/-- What neither is dropped nor ends a path is read as a path, whatever follows. -/
theorem parts_append {front : List Char}
    (h : ∀ c ∈ front, isDropped c = false ∧ endsPath c = false) (cs : List Char) :
    pathPart (front ++ cs) = front ++ pathPart cs ∧ tailPart (front ++ cs) = tailPart cs := by
  have hkept : kept (front ++ cs) = front ++ kept cs := by
    have hfront : front.filter (!isDropped ·) = front :=
      List.filter_eq_self.2 fun c hc => by rw [(h c hc).1]; rfl
    rw [kept, List.filter_append, hfront, kept]
  have hall : ∀ c ∈ front, (!endsPath c) = true := fun c hc => by rw [(h c hc).2]; rfl
  rw [pathPart, tailPart, hkept]
  exact ⟨List.takeWhile_append_of_pos hall, List.dropWhile_append_of_pos hall⟩

/-- What follows a text is read as a path behind it, or not at all. -/
theorem pathPart_append (cs more : List Char) :
    pathPart (cs ++ more) = pathPart cs ∨ pathPart (cs ++ more) = pathPart cs ++ pathPart more := by
  have hkept : kept (cs ++ more) = kept cs ++ kept more := List.filter_append ..
  rw [pathPart, hkept, List.takeWhile_append]
  split
  · rename_i hwhole
    have hself : pathPart cs = kept cs := (List.takeWhile_prefix _).eq_of_length hwhole
    rw [hself]
    exact .inr rfl
  · exact .inl rfl

/-- What is read as a segment is a part of what is written, without the characters that are dropped
or end it. -/
theorem mem_splitOnP_pathPart {cs piece : List Char}
    (h : piece ∈ List.splitOnP (isSlash true) (pathPart cs)) :
    piece.Sublist cs ∧
      ∀ c ∈ piece, isSlash true c = false ∧ isDropped c = false ∧ endsPath c = false := by
  obtain ⟨hpiece, hslash⟩ := sublist_of_mem_splitOnP h
  have hkept : (pathPart cs).Sublist (kept cs) := List.takeWhile_sublist _
  refine ⟨hpiece.trans (hkept.trans List.filter_sublist), fun c hc => ⟨hslash c hc, ?_, ?_⟩⟩
  · have hmem := List.of_mem_filter ((hpiece.trans hkept).subset hc)
    simpa using hmem
  · have hmem := List.mem_takeWhile_imp (hpiece.subset hc)
    simpa using hmem

/-! ## What stands before the path -/

/-- What ends a run of characters ends it in every longer text. -/
theorem span_append {p : Char → Bool} {cs ds : List Char} {d : Char}
    (h : cs.dropWhile p = d :: ds) (more : List Char) :
    (cs ++ more).takeWhile p = cs.takeWhile p ∧ (cs ++ more).dropWhile p = d :: (ds ++ more) := by
  have hshort : (cs.takeWhile p).length ≠ cs.length := by
    have hlength := congrArg List.length (List.takeWhile_append_dropWhile (p := p) (l := cs))
    rw [h, List.length_append, List.length_cons] at hlength
    omega
  constructor
  · rw [List.takeWhile_append, if_neg hshort]
  · rw [List.dropWhile_append, h]
    rfl

theorem readScheme?_append {cs scheme rest : List Char}
    (h : readScheme? cs = some (scheme, rest)) :
    rest <:+ cs ∧ ∀ more, readScheme? (cs ++ more) = some (scheme, rest ++ more) := by
  cases cs with
  | nil => cases h
  | cons c cs =>
    rw [readScheme?] at h
    split at h
    · rename_i hletter
      split at h
      · rename_i rest' hcolon
        cases h
        refine ⟨(List.suffix_cons ':' rest).trans (hcolon ▸ List.dropWhile_suffix _), ?_⟩
        intro more
        obtain ⟨htake, hdrop⟩ := span_append hcolon more
        rw [List.cons_append] at htake hdrop ⊢
        simp only [readScheme?, if_pos hletter, hdrop, htake]
      · cases h
    · cases h

/-! ## What stands behind the path -/

theorem readTail_eq_none {special : Bool} {cs : List Char}
    (h : readTail special (cs.dropWhile (!endsPath ·)) = (none, none)) :
    ∀ c ∈ cs, (!endsPath c) = true := by
  rw [← List.dropWhile_eq_nil_iff]
  cases hdrop : cs.dropWhile (!endsPath ·) with
  | nil => rfl
  | cons c tail =>
    have hends := List.head?_dropWhile_not (!endsPath ·) cs
    rw [hdrop] at h hends
    have hc : c = '?' ∨ c = '#' := by simpa [endsPath, Decidable.or_iff_not_imp_left] using hends
    rcases hc with rfl | rfl <;> cases h

/-! ## The path -/

/-- What is written behind a slash of a path goes on from where the path before it leads. -/
theorem exists_readSegments_append {path : List Char}
    (h : path = [] ∨ ∃ front, path = front ++ ['/']) :
    ∃ stack, ∀ more, readSegments true (path ++ more) =
      (walkSegments stack ((List.splitOnP (isSlash true) more).map
        (Percent.encode Percent.inPath))).map String.ofList := by
  rcases h with rfl | ⟨front, rfl⟩
  · exact ⟨[], fun more => rfl⟩
  · refine ⟨((List.splitOnP (isSlash true) front).map (Percent.encode Percent.inPath)).foldl
      advance [], ?_⟩
    intro more
    have hmore : (List.splitOnP (isSlash true) more).map (Percent.encode Percent.inPath) ≠ [] := by
      simp
    rw [readSegments, List.append_assoc, List.singleton_append,
      List.splitOnP_append_cons _ _ (by decide), List.map_append, walkSegments_append _ _ hmore]

theorem readAuthority_nil {scheme : String} (hspecial : isSpecial scheme = true) :
    readAuthority scheme [] = .error .emptyHost := by
  simp [readAuthority, hspecial, cutAtLastAt, cutHost]

/-- The URL of the parts before the path and of the text from there on. -/
def Authority.url (scheme : String) (rest : List Char) (authority : Authority) : Url where
  scheme := scheme
  username := authority.username
  password := authority.password
  host := authority.host
  port := authority.port
  path := .segments (match rest.takeWhile (!endsPath ·) with
    | [] => [""]
    | _ :: path => readSegments true path)
  query := (readTail true (rest.dropWhile (!endsPath ·))).1
  fragment := (readTail true (rest.dropWhile (!endsPath ·))).2

theorem readHierarchical_eq {scheme : String} (hspecial : isSpecial scheme = true)
    (cs : List Char) :
    readHierarchical scheme cs = (readAuthority scheme (cs.takeWhile (!endsAuthority true ·))).map
      (Authority.url scheme (cs.dropWhile (!endsAuthority true ·))) := by
  rw [readHierarchical, hspecial]
  cases readAuthority scheme (cs.takeWhile (!endsAuthority true ·)) <;> rfl

/-- Only path, query and fragment of a URL depend on what follows the last slash of its path. -/
theorem readHierarchical_append {scheme : String} {cs : List Char} {root : Url}
    (hspecial : isSpecial scheme = true) (hroot : readHierarchical scheme (cs ++ ['/']) = .ok root)
    (hquery : root.query = none) (hfragment : root.fragment = none) :
    ∃ stack, ∀ more, readHierarchical scheme (cs ++ ['/'] ++ more) = .ok { root with
      path := .segments ((walkSegments stack ((List.splitOnP (isSlash true)
        (more.takeWhile (!endsPath ·))).map (Percent.encode Percent.inPath))).map String.ofList)
      query := (readTail true (more.dropWhile (!endsPath ·))).1
      fragment := (readTail true (more.dropWhile (!endsPath ·))).2 } := by
  -- The path starts at the final slash or before it.
  obtain ⟨c, path, hpath⟩ :
      ∃ c path, (cs ++ ['/']).dropWhile (!endsAuthority true ·) = c :: path := by
    refine List.exists_cons_of_ne_nil fun hnil => ?_
    have hslash := List.dropWhile_eq_nil_iff.1 hnil '/' (by simp)
    cases hslash
  have hslash : path = [] ∨ ∃ front, path = front ++ ['/'] := by
    have hsuffix : c :: path <:+ cs ++ ['/'] := hpath ▸ List.dropWhile_suffix _
    rcases List.suffix_concat_iff.1 ((List.suffix_cons c path).trans hsuffix) with
      hnil | ⟨front, hfront, -⟩
    · exact .inl hnil
    · exact .inr ⟨front, hfront⟩
  obtain ⟨stack, hstack⟩ := exists_readSegments_append hslash
  refine ⟨stack, fun more => ?_⟩
  obtain ⟨htake, hdrop⟩ := span_append hpath more
  rw [readHierarchical_eq hspecial, hpath] at hroot
  rw [readHierarchical_eq hspecial, htake, hdrop]
  cases hauthority : readAuthority scheme ((cs ++ ['/']).takeWhile (!endsAuthority true ·)) with
  | error fault =>
    rw [hauthority] at hroot
    cases hroot
  | ok authority =>
    rw [hauthority] at hroot
    cases hroot
    have hall : ∀ d ∈ c :: path, (!endsPath d) = true :=
      readTail_eq_none (Prod.ext hquery hfragment)
    have hmore : (c :: path ++ more).takeWhile (!endsPath ·) =
        c :: (path ++ more.takeWhile (!endsPath ·)) := List.takeWhile_append_of_pos hall
    have htail : (c :: path ++ more).dropWhile (!endsPath ·) = more.dropWhile (!endsPath ·) :=
      List.dropWhile_append_of_pos hall
    rw [← List.cons_append]
    simp only [Except.map, Authority.url, hmore, htail, hstack]

/-! ## The scheme -/

theorem bind_eq_ok {ε α β : Type} {x : Except ε α} {f : α → Except ε β} {b : β}
    (h : x.bind f = .ok b) : ∃ a, x = .ok a ∧ f a = .ok b := by
  cases x with
  | error fault => cases h
  | ok a => exact ⟨a, rfl, h⟩

theorem readHierarchical_scheme {scheme : String} {cs : List Char} {url : Url}
    (h : readHierarchical scheme cs = .ok url) : url.scheme = scheme := by
  obtain ⟨authority, -, hurl⟩ := bind_eq_ok h
  cases hurl
  rfl

theorem readPlain_scheme {scheme : String} {cs : List Char} {url : Url}
    (h : readPlain scheme cs = .ok url) : url.scheme = scheme := by
  unfold readPlain at h
  split at h
  · exact readHierarchical_scheme h
  · cases h
    rfl

theorem readFile_scheme {cs : List Char} {url : Url} (h : readFile cs = .ok url) :
    url.scheme = "file" := by
  obtain ⟨host, -, hurl⟩ := bind_eq_ok h
  cases hurl
  rfl

theorem parseChars_of_readScheme? {scheme : String} {cs rest : List Char}
    (h : readScheme? cs = some (scheme.toList, rest)) (hspecial : isSpecial scheme = true) :
    parseChars cs = readHierarchical scheme (rest.dropWhile (isSlash true)) := by
  have hfile : scheme ≠ "file" := by
    rintro rfl
    cases hspecial
  simp only [parseChars, h, String.ofList_toList, if_neg hfile, hspecial, if_true]

theorem exists_readScheme? {cs : List Char} {url : Url} (h : parseChars cs = .ok url)
    (hspecial : isSpecial url.scheme = true) :
    ∃ rest, readScheme? cs = some (url.scheme.toList, rest) := by
  unfold parseChars at h
  cases hscheme : readScheme? cs with
  | none =>
    rw [hscheme] at h
    cases h
  | some found =>
    obtain ⟨found, rest⟩ := found
    rw [hscheme] at h
    simp only at h
    have hfound : url.scheme = String.ofList found := by
      split at h
      · rw [readFile_scheme h] at hspecial
        cases hspecial
      split at h
      · exact readHierarchical_scheme h
      · exact readPlain_scheme h
    rw [hfound, String.toList_ofList]
    exact ⟨rest, rfl⟩

/-- A URL under a scheme with hosts is read behind the slashes that follow the scheme. -/
theorem parseChars_special {cs : List Char} {url : Url} (h : parseChars cs = .ok url)
    (hspecial : isSpecial url.scheme = true) :
    ∃ rest, rest <:+ cs ∧ readHierarchical url.scheme (rest.dropWhile (isSlash true)) = .ok url ∧
      ∀ more, parseChars (cs ++ more) =
        readHierarchical url.scheme ((rest ++ more).dropWhile (isSlash true)) := by
  obtain ⟨rest, hscheme⟩ := exists_readScheme? h hspecial
  obtain ⟨hsuffix, hmore⟩ := readScheme?_append hscheme
  refine ⟨rest, hsuffix, ?_, fun more => parseChars_of_readScheme? (hmore more) hspecial⟩
  rw [← parseChars_of_readScheme? hscheme hspecial]
  exact h

/-! ## The host -/

theorem host_ne_empty {cs : List Char} {host : Host} (h : Host.parse cs = .ok host) :
    host ≠ .domain "" := by
  unfold Host.parse at h
  split at h
  · unfold Host.parseBracketed at h
    split at h
    · split at h
      · cases h
        exact Host.noConfusion
      · cases h
    · cases h
  · split at h
    · cases h
    · cases h
    · rename_i name hname _
      split at h
      · split at h
        · cases h
          exact Host.noConfusion
        · cases h
      · cases h
        intro hempty
        exact hname (by simpa using hempty)

theorem readAuthority_host {scheme : String} {cs : List Char} {authority : Authority}
    (hspecial : isSpecial scheme = true) (h : readAuthority scheme cs = .ok authority) :
    ∃ host, authority.host = some host ∧ host ≠ .domain "" := by
  unfold readAuthority at h
  simp only [hspecial, if_true] at h
  split at h
  · cases h
  · obtain ⟨host, hhost, h⟩ := bind_eq_ok h
    obtain ⟨port, -, h⟩ := bind_eq_ok h
    cases h
    exact ⟨host, rfl, host_ne_empty hhost⟩

theorem IsRoot.host {base : String} {root : Url} (h : IsRoot base root) :
    ∃ host, root.host = some host ∧ host ≠ .domain "" := by
  obtain ⟨rest, -, hroot, -⟩ := parseChars_special h.parsed h.special
  rw [readHierarchical_eq h.special] at hroot
  cases hauthority : readAuthority root.scheme
      ((rest.dropWhile (isSlash true)).takeWhile (!endsAuthority true ·)) with
  | error fault =>
    rw [hauthority] at hroot
    cases hroot
  | ok authority =>
    rw [hauthority, Except.map, Except.ok.injEq] at hroot
    rw [← hroot]
    exact readAuthority_host h.special hauthority

/-! ## The whole -/

/-- **Under a base only path, query and fragment depend on what is written there.** -/
theorem IsRoot.parse_append {base : String} {root : Url} (h : IsRoot base root) :
    ∃ stack : List (List Char), root.path = .segments (stack.reverse.map String.ofList ++ [""]) ∧
      ∀ (text : String) (c : Char), text.toList.getLast? = some c → isEdge c = false →
        Url.parse (base ++ "/" ++ text) = .ok { root with
          path := .segments ((walkSegments stack ((List.splitOnP (isSlash true)
            (pathPart text.toList)).map (Percent.encode Percent.inPath))).map String.ofList)
          query := (readTail true (tailPart text.toList)).1
          fragment := (readTail true (tailPart text.toList)).2 } := by
  obtain ⟨before, hbefore, hunder⟩ := exists_significant_append base.toList
  have hparsed : parseChars (before ++ ['/']) = .ok root := by
    rw [← hbefore, ← h.parsed, Url.parse, String.toList_append]
    rfl
  obtain ⟨rest, hsuffix, hroot, hmore⟩ := parseChars_special hparsed h.special
  have hslash : ∃ front, rest.dropWhile (isSlash true) = front ++ ['/'] := by
    rcases List.suffix_concat_iff.1 ((List.dropWhile_suffix _).trans hsuffix) with
      hnil | ⟨front, hfront, -⟩
    · rw [hnil, readHierarchical_eq h.special, List.takeWhile_nil, readAuthority_nil h.special]
        at hroot
      cases hroot
    · exact ⟨front, hfront⟩
  obtain ⟨front, hfront⟩ := hslash
  rw [hfront] at hroot
  obtain ⟨stack, hstack⟩ := readHierarchical_append h.special hroot h.query h.fragment
  refine ⟨stack, ?_, ?_⟩
  · have hself := hstack []
    rw [List.append_nil, hroot, Except.ok.injEq] at hself
    rw [hself]
    simp [Percent.encode, walkSegments, isDoubleDot, isSingleDot, dropDot?]
  · intro text c hlast hc
    have htext : (base ++ "/" ++ text).toList = base.toList ++ '/' :: text.toList := by simp
    have hdrop : (rest ++ kept text.toList).dropWhile (isSlash true) =
        front ++ ['/'] ++ kept text.toList := by
      rw [List.dropWhile_append, hfront]
      simp
    rw [Url.parse, htext, hunder _ c hlast hc, hmore, hdrop, hstack]
    rfl

end ManifestPublish.Url
