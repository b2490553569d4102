import ManifestPublish.Proofs.Url.Authority

/-!
# Addresses behind a base that has lost its final slashes

A base is read with all of its slashes, an address behind it is written with one.  Controls and
spaces at the end of a base are not read there, but inside an address they are.

* `userOf` : the user of what stands before the last `@`
* `SharesUser` : an address under the scheme of a base and with its user

Principal results: `exists_readAuthority` (the authority of an address is that of the base, with
what was not read there at its end) and `parse_behind`.
-/

set_option autoImplicit false

namespace ManifestPublish.Url

/-! ## The text that is read -/

theorem takeWhile_edge_of_plain {cs : List Char}
    (h : ∀ c, cs.getLast? = some c → isEdge c = false) :
    (cs.dropWhile isEdge).reverse.takeWhile isEdge = [] := by
  cases hreverse : (cs.dropWhile isEdge).reverse with
  | nil => rfl
  | cons c rest =>
    have hlast : cs.getLast? = some c := by
      have hne : cs.dropWhile isEdge ≠ [] := by
        intro hnil
        rw [hnil] at hreverse
        cases hreverse
      rw [← List.takeWhile_append_dropWhile (p := isEdge) (l := cs),
        List.getLast?_append_of_ne_nil _ hne, ← List.head?_reverse, hreverse]
      rfl
    rw [List.takeWhile_cons_of_neg (by simp [h c hlast])]

/-- The edges at the end of a text, which are not read, are read in front of a slash. -/
theorem exists_significant_edges (cs : List Char) :
    ∃ edges, (∀ c ∈ edges, isEdge c = true) ∧
      ((∀ c, cs.getLast? = some c → isEdge c = false) → edges = []) ∧
      significant (cs ++ ['/']) = significant cs ++ edges ++ ['/'] := by
  have hsplit : cs.dropWhile isEdge = ((cs.dropWhile isEdge).reverse.dropWhile isEdge).reverse ++
      ((cs.dropWhile isEdge).reverse.takeWhile isEdge).reverse := by
    rw [← List.reverse_append, List.takeWhile_append_dropWhile, List.reverse_reverse]
  have hdrop : (cs ++ ['/']).dropWhile isEdge = cs.dropWhile isEdge ++ ['/'] := by
    rw [List.dropWhile_append]
    split
    · rename_i hempty
      rw [List.isEmpty_iff.1 hempty]
      rfl
    · rfl
  have hlast : (cs.dropWhile isEdge ++ ['/']).getLast? = some '/' := List.getLast?_concat
  refine ⟨kept ((cs.dropWhile isEdge).reverse.takeWhile isEdge).reverse, ?_, ?_, ?_⟩
  · intro c hc
    exact List.mem_takeWhile_imp (List.mem_reverse.1 (List.mem_of_mem_filter hc))
  · intro hplain
    rw [takeWhile_edge_of_plain hplain]
    rfl
  · rw [significant, hdrop, trimEnd_of_getLast? hlast (by decide)]
    conv_lhs => rw [hsplit]
    rw [List.filter_append, List.filter_append]
    rfl

/-- What is read of a text with slashes at its end is read in front of one slash as well, and there
may be edges between the two. -/
theorem exists_significant_slashes (front : List Char) (n : Nat) :
    ∃ read edges, (∀ c ∈ edges, isEdge c = true) ∧
      ((∀ c, (front ++ List.replicate n '/').getLast? = some c → isEdge c = false) → edges = []) ∧
      significant (front ++ List.replicate n '/') = read ++ List.replicate n '/' ∧
      ∀ cs c, cs.getLast? = some c → isEdge c = false →
        significant (front ++ '/' :: cs) = read ++ (edges ++ '/' :: kept cs) := by
  obtain ⟨before, hbefore, hunder⟩ := exists_significant_append front
  cases n with
  | zero =>
    obtain ⟨edges, hedges, hplain, hsplit⟩ := exists_significant_edges front
    rw [hbefore, List.append_cancel_right_eq] at hsplit
    refine ⟨significant front, edges, hedges, ?_, ?_, ?_⟩
    · simpa using hplain
    · simp
    · intro cs c hlast hc
      rw [hunder cs c hlast hc, hsplit]
      simp
  | succ n =>
    refine ⟨before, [], by rintro c ⟨⟩, fun _ => rfl, ?_, ?_⟩
    · cases n with
      | zero => exact hbefore
      | succ n =>
        have hlast : (List.replicate (n + 1) '/').getLast? = some '/' := by
          rw [List.replicate_succ', List.getLast?_concat]
        have hkept : kept (List.replicate (n + 1) '/') = List.replicate (n + 1) '/' :=
          List.filter_eq_self.2 fun c hc => by rw [(List.mem_replicate.1 hc).2]; rfl
        rw [List.replicate_succ, hunder _ _ hlast (by decide), hkept]
        simp
    · intro cs c hlast hc
      rw [hunder cs c hlast hc]
      simp

/-! ## Scheme and authority -/

section Read

variable {scheme : String} {cs rest : List Char}

theorem readScheme?_of_append_slashes {found : List Char} {n : Nat}
    (h : readScheme? (cs ++ List.replicate n '/') = some (found, rest)) :
    ∃ rest', readScheme? cs = some (found, rest') ∧ rest = rest' ++ List.replicate n '/' := by
  cases cs with
  | nil =>
    cases n with
    | zero => cases h
    | succ n =>
      rw [List.nil_append, List.replicate_succ, readScheme?, if_neg (by decide)] at h
      cases h
  | cons c cs =>
    rw [List.cons_append, readScheme?] at h
    split at h
    · rename_i hletter
      split at h
      · rename_i after hcolon
        cases h
        have hcolon' := hcolon
        rw [← List.cons_append, List.dropWhile_append] at hcolon'
        cases hshort : (c :: cs).dropWhile isSchemeCharacter with
        | nil =>
          -- No slash is a colon.
          rw [hshort, List.isEmpty_nil, if_pos rfl] at hcolon'
          have hmem : ':' ∈ List.replicate n '/' :=
            (List.dropWhile_sublist _).subset (hcolon' ▸ List.mem_cons_self)
          exact absurd (List.mem_replicate.1 hmem).2 (by decide)
        | cons d ds =>
          rw [hshort] at hcolon'
          obtain ⟨rfl, rfl⟩ := List.cons.inj hcolon'
          obtain ⟨htake, -⟩ := span_append hshort (List.replicate n '/')
          refine ⟨ds, ?_, rfl⟩
          rw [List.cons_append] at htake
          simp only [readScheme?, if_pos hletter, hshort, htake]
      · cases h
    · cases h

theorem takeWhile_append_slashes (cs : List Char) (n : Nat) :
    (cs ++ List.replicate n '/').takeWhile (!endsAuthority true ·) =
      cs.takeWhile (!endsAuthority true ·) := by
  cases n with
  | zero => simp
  | succ n => rw [List.replicate_succ, takeWhile_append_slash]

/-- Edges in front of a slash are read at the end of the authority, if they are not read behind
it. -/
theorem exists_takeWhile_edges (cs : List Char) {edges : List Char}
    (hedges : ∀ c ∈ edges, isEdge c = true) :
    ∃ edges', (∀ c ∈ edges', isEdge c = true) ∧ (edges = [] → edges' = []) ∧ ∀ more,
      (cs ++ (edges ++ '/' :: more)).takeWhile (!endsAuthority true ·) =
        cs.takeWhile (!endsAuthority true ·) ++ edges' := by
  by_cases hwhole : (cs.takeWhile (!endsAuthority true ·)).length = cs.length
  · refine ⟨edges.takeWhile (!endsAuthority true ·), ?_, ?_, fun more => ?_⟩
    · exact fun c hc => hedges c ((List.takeWhile_sublist _).subset hc)
    · rintro rfl
      rfl
    · rw [List.takeWhile_append, if_pos hwhole, takeWhile_append_slash,
        (List.takeWhile_prefix _).eq_of_length hwhole]
  · refine ⟨[], by rintro c ⟨⟩, fun _ => rfl, fun more => ?_⟩
    rw [List.takeWhile_append, if_neg hwhole, List.append_nil]

end Read

/-- What an address behind a base is read as: the authority of the base with edges at its end, which
there are only if the base ends in one. -/
theorem exists_readAuthority {front : List Char} {n : Nat} {root : Url}
    (hparse : parseChars (significant (front ++ List.replicate n '/')) = .ok root)
    (hspecial : isSpecial root.scheme = true) :
    ∃ cs edges, readAuthority root.scheme cs = .ok root.authority ∧
      (∀ c ∈ edges, isEdge c = true) ∧
      ((∀ c, (front ++ List.replicate n '/').getLast? = some c → isEdge c = false) → edges = []) ∧
      ∀ text c, text.getLast? = some c → isEdge c = false → ∃ rest,
        parseChars (significant (front ++ '/' :: text)) =
          (readAuthority root.scheme (cs ++ edges)).map (Authority.url root.scheme rest) := by
  obtain ⟨read, edges, hedges, hplain, hread, hunder⟩ := exists_significant_slashes front n
  rw [hread] at hparse
  obtain ⟨rest, hscheme⟩ := exists_readScheme? hparse hspecial
  obtain ⟨place, hread', rfl⟩ := readScheme?_of_append_slashes hscheme
  rw [parseChars_of_readScheme? hscheme hspecial, readHierarchical_eq hspecial,
    List.dropWhile_append] at hparse
  have hslashes : ∀ c ∈ List.replicate n '/', isSlash true c = true := by
    intro c hc
    rw [(List.mem_replicate.1 hc).2]
    rfl
  -- Behind the scheme there is more than slashes, or there would be no host.
  have hne : ¬ (place.dropWhile (isSlash true)).isEmpty = true := by
    intro hempty
    rw [if_pos hempty, List.dropWhile_eq_nil_iff.2 hslashes, List.takeWhile_nil,
      readAuthority_nil hspecial] at hparse
    cases hparse
  rw [if_neg hne, takeWhile_append_slashes] at hparse
  obtain ⟨edges', hedges', hnone, hmore⟩ :=
    exists_takeWhile_edges (place.dropWhile (isSlash true)) hedges
  refine ⟨(place.dropWhile (isSlash true)).takeWhile (!endsAuthority true ·), edges', ?_, hedges',
    fun h => hnone (hplain h), fun text c hlast hc => ?_⟩
  · cases hauthority : readAuthority root.scheme
        ((place.dropWhile (isSlash true)).takeWhile (!endsAuthority true ·)) with
    | error fault =>
      rw [hauthority] at hparse
      cases hparse
    | ok authority =>
      rw [hauthority, Except.map, Except.ok.injEq] at hparse
      rw [← hparse]
      rfl
  · obtain ⟨-, hread⟩ := readScheme?_append hread'
    rw [hunder text c hlast hc, parseChars_of_readScheme? (hread _) hspecial,
      readHierarchical_eq hspecial, List.dropWhile_append, if_neg hne, hmore]
    exact ⟨_, rfl⟩

/-! ## The user -/

/-- User name and password of what stands before the last `@`. -/
def userOf : Option (List Char) → String × Option String
  | some userInfo => readUserInfo userInfo
  | none => ("", none)

theorem readAuthority_user {scheme : String} {cs : List Char} {authority : Authority}
    (hspecial : isSpecial scheme = true) (h : readAuthority scheme cs = .ok authority) :
    (authority.username, authority.password) = userOf (cutAtLastAt cs).1 := by
  unfold readAuthority at h
  simp only [hspecial, if_true] at h
  split at h
  · cases h
  · obtain ⟨host, -, h⟩ := bind_eq_ok h
    obtain ⟨port, -, h⟩ := bind_eq_ok h
    cases h
    rfl

/-- What holds no `@` does not change what stands before the last one. -/
theorem cutAtLastAt_append {cs edges : List Char} (h : ∀ c ∈ edges, c ≠ '@') :
    (cutAtLastAt (cs ++ edges)).1 = (cutAtLastAt cs).1 := by
  have hdrop : (cs ++ edges).reverse.dropWhile (· ≠ '@') = cs.reverse.dropWhile (· ≠ '@') := by
    rw [List.reverse_append, List.dropWhile_append_of_pos]
    intro c hc
    exact decide_eq_true (h c (List.mem_reverse.1 hc))
  unfold cutAtLastAt
  rw [hdrop]
  cases cs.reverse.dropWhile (· ≠ '@') <;> rfl

/-! ## Addresses -/

/-- An address is under the scheme of a base, names a host and tells the user of the base. -/
structure SharesUser (url root : Url) : Prop where
  scheme : url.scheme = root.scheme
  host : ∃ host, url.host = some host ∧ host ≠ .domain ""
  username : url.username = root.username
  password : url.password = root.password

/-- **Behind a base without its final slashes an address is read with scheme and authority of the
base**, if the base does not end in an edge; if it does, the address may not be read, but never with
another scheme or user. -/
theorem parse_behind {front text : String} {n : Nat} {root : Url}
    (hparse : Url.parse (front ++ String.ofList (List.replicate n '/')) = .ok root)
    (hspecial : isSpecial root.scheme = true) (htext : EndsPlain text) (hne : text ≠ "") :
    (EndsPlain (front ++ String.ofList (List.replicate n '/')) →
      ∃ url, Url.parse (front ++ "/" ++ text) = .ok url ∧ url.scheme = root.scheme ∧
        url.authority = root.authority) ∧
    ∀ url, Url.parse (front ++ "/" ++ text) = .ok url → url.SharesUser root := by
  rw [Url.parse, String.toList_append, String.toList_ofList] at hparse
  obtain ⟨cs, edges, hroot, hedges, hplain, hunder⟩ := exists_readAuthority hparse hspecial
  obtain ⟨c, hlast⟩ : ∃ c, text.toList.getLast? = some c := by
    refine Option.ne_none_iff_exists'.1 fun hnone => hne ?_
    exact String.toList_eq_nil_iff.1 (List.getLast?_eq_none_iff.1 hnone)
  obtain ⟨rest, hread⟩ := hunder text.toList c hlast (htext c hlast)
  have htoList : (front ++ "/" ++ text).toList = front.toList ++ '/' :: text.toList := by simp
  rw [Url.parse, htoList, hread]
  constructor
  · intro hends
    rw [hplain fun d hd => hends d (by simpa using hd), List.append_nil, hroot]
    exact ⟨_, rfl, rfl, rfl⟩
  · intro url hurl
    cases hauthority : readAuthority root.scheme (cs ++ edges) with
    | error fault =>
      rw [hauthority] at hurl
      cases hurl
    | ok authority =>
      rw [hauthority] at hurl
      cases hurl
      have hat : ∀ c ∈ edges, c ≠ '@' := by
        rintro _ hc rfl
        exact absurd (hedges _ hc) (by decide)
      have huser := readAuthority_user hspecial hauthority
      rw [cutAtLastAt_append hat, ← readAuthority_user hspecial hroot, Prod.mk.injEq] at huser
      exact ⟨rfl, readAuthority_host hspecial hauthority, huser.1, huser.2⟩

end ManifestPublish.Url
