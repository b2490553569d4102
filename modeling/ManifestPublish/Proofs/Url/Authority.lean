import ManifestPublish.Proofs.Url.Under

/-!
# What is read before the path of an address

* `Url.IsWebScheme` : the schemes of web services
* `Url.writtenAuthority?` : what is written between the scheme and the path of an address
* `Url.authority` : the parts of a URL before its path
* `Url.NamesPlace` : what is written behind a scheme names a place, and is not slashes only

What is written behind a slash has no influence on the parts before it, if the text in front of that
slash names a place (`Url.IsWebScheme.parse_authority`).  If that text does not, it is skipped, and
the place is read from what is written behind it (`Url.IsWebScheme.parse_astray`).
-/

set_option autoImplicit false

namespace ManifestPublish.Url

/-- The schemes of web services. -/
inductive IsWebScheme : String → Prop where
  | https : IsWebScheme "https"
  | http : IsWebScheme "http"

/-- What is written between the two slashes behind the first colon and the next slash, question mark
or number sign. -/
def writtenAuthority? (address : String) : Option String :=
  match address.toList.dropWhile (· ≠ ':') with
  | ':' :: '/' :: '/' :: rest =>
    some (String.ofList (rest.takeWhile (!endsAuthority false ·)))
  | _ => none

/-- The parts of a URL before its path. -/
def authority (u : Url) : Authority := ⟨u.username, u.password, u.host, u.port⟩

/-- A host alone, without a user or a port. -/
def Authority.ofHost (host : Host) : Authority := ⟨"", none, some host, none⟩

/-- What is written behind the colon of a scheme names a place: not all of it is slashes and what is
dropped. -/
def NamesPlace (text : String) : Prop :=
  ∃ c ∈ text.toList, isSlash true c = false ∧ isDropped c = false

theorem namesPlace_append {a b : String} : NamesPlace (a ++ b) ↔ NamesPlace a ∨ NamesPlace b := by
  simp only [NamesPlace, String.toList_append, List.mem_append, or_and_right, exists_or]

/-- Nothing is dropped at the end of a text. -/
def EndsPlain (text : String) : Prop := ∀ c, text.toList.getLast? = some c → isEdge c = false

/-- A text without what no name of a host holds. -/
structure IsHostText (name : String) : Prop where
  nonempty : name ≠ ""
  allowed : ∀ c ∈ name.toList, Domain.isForbidden c = false

/-! ## As it is written -/

section Written

variable {scheme : String}

theorem IsWebScheme.writtenAuthority?_eq (h : IsWebScheme scheme) (rest : String) :
    writtenAuthority? (scheme ++ "://" ++ rest) =
      some (String.ofList (rest.toList.takeWhile (!endsAuthority false ·))) := by
  cases h <;> simp [writtenAuthority?]

theorem takeWhile_append_slash (special : Bool) (cs more : List Char) :
    (cs ++ '/' :: more).takeWhile (!endsAuthority special ·) =
      cs.takeWhile (!endsAuthority special ·) := by
  have hmore : ('/' :: more).takeWhile (!endsAuthority special ·) = [] := by
    cases special <;> rfl
  rw [List.takeWhile_append, hmore, List.append_nil]
  split
  · rename_i hwhole
    exact ((List.takeWhile_prefix _).eq_of_length hwhole).symm
  · rfl

/-- What is written behind a slash is no part of the authority. -/
theorem IsWebScheme.writtenAuthority?_append (h : IsWebScheme scheme) (rest more : String) :
    writtenAuthority? (scheme ++ "://" ++ rest ++ "/" ++ more) =
      writtenAuthority? (scheme ++ "://" ++ rest) := by
  have hsplit : scheme ++ "://" ++ rest ++ "/" ++ more =
      scheme ++ "://" ++ (rest ++ "/" ++ more) := by
    simp only [String.append_assoc]
  have hlist : (rest ++ "/" ++ more).toList = rest.toList ++ '/' :: more.toList := by simp
  rw [hsplit, h.writtenAuthority?_eq, h.writtenAuthority?_eq, hlist, takeWhile_append_slash]

end Written

/-! ## As it is read -/

section Read

variable {scheme front text : String}

theorem endsPlain_of_getLast? {c : Char} (hlast : text.toList.getLast? = some c)
    (hc : isEdge c = false) : EndsPlain text := by
  intro d hd
  rw [hlast, Option.some.injEq] at hd
  rw [← hd]
  exact hc

theorem EndsPlain.append (htext : EndsPlain text) (hne : text ≠ "") (front : String) :
    EndsPlain (front ++ text) := by
  intro c hc
  have hfilled : text.toList ≠ [] := fun hnil => hne (String.toList_eq_nil_iff.1 hnil)
  rw [String.toList_append, List.getLast?_append_of_ne_nil _ hfilled] at hc
  exact htext c hc

theorem endsPlain_slash (htext : EndsPlain text) : EndsPlain ("/" ++ text) := by
  by_cases hempty : text = ""
  · subst hempty
    intro c hc
    cases hc
    decide
  · exact htext.append hempty "/"

theorem EndsPlain.under (htext : EndsPlain text) (name : String) :
    EndsPlain (name ++ "/" ++ text) := by
  rw [String.append_assoc]
  exact (endsPlain_slash htext).append (by simp) name

theorem kept_append (cs ds : List Char) : kept (cs ++ ds) = kept cs ++ kept ds :=
  List.filter_append ..

/-- What is dropped in a text is not at its ends, if it starts and ends with what is read. -/
theorem significant_eq_kept {cs : List Char} {first last : Char} (hfirst : cs.head? = some first)
    (hedge : isEdge first = false) (hlast : cs.getLast? = some last)
    (hedge' : isEdge last = false) : significant cs = kept cs := by
  obtain ⟨rest, rfl⟩ := List.head?_eq_some_iff.1 hfirst
  rw [significant, List.dropWhile_cons_of_neg (by simp [hedge]), trimEnd_of_getLast? hlast hedge',
    kept]

theorem IsWebScheme.isSpecial (h : IsWebScheme scheme) : isSpecial scheme = true := by
  cases h <;> rfl

/-- An address is read behind the slashes that follow its scheme, however many they are. -/
theorem IsWebScheme.parse_eq (h : IsWebScheme scheme) (htext : EndsPlain text) :
    Url.parse (scheme ++ ":" ++ text) =
      readHierarchical scheme ((kept text.toList).dropWhile (isSlash true)) := by
  have hfirst : (scheme ++ ":" ++ text).toList.head? = some 'h' := by
    cases h <;> simp
  have hlast : ∃ c, (scheme ++ ":" ++ text).toList.getLast? = some c ∧ isEdge c = false := by
    rw [String.toList_append, List.getLast?_append]
    cases hend : text.toList.getLast? with
    | none => exact ⟨':', by simp, by decide⟩
    | some c => exact ⟨c, rfl, htext c hend⟩
  obtain ⟨c, hlast, hc⟩ := hlast
  have hkept : kept (scheme ++ ":" ++ text).toList =
      (scheme ++ ":").toList ++ kept text.toList := by
    rw [String.toList_append, kept_append]
    cases h <;> rfl
  have hscheme : readScheme? (scheme ++ ":").toList = some (scheme.toList, []) := by
    cases h <;> decide
  have hfile : scheme ≠ "file" := by
    cases h <;> decide
  have hread := (readScheme?_append hscheme).2 (kept text.toList)
  rw [Url.parse, significant_eq_kept hfirst (by decide) hlast hc, hkept, parseChars, hread]
  simp only [String.ofList_toList, if_neg hfile, h.isSpecial, if_true, List.nil_append]

theorem readHierarchical_authority (hspecial : isSpecial scheme = true) (cs : List Char) :
    (readHierarchical scheme cs).map authority =
      readAuthority scheme (cs.takeWhile (!endsAuthority true ·)) := by
  rw [readHierarchical_eq hspecial]
  cases readAuthority scheme (cs.takeWhile (!endsAuthority true ·)) <;> rfl

/-- **What is written behind a slash has no influence on what is read before the path**, if the
text in front of the slash names a place. -/
theorem IsWebScheme.parse_authority (h : IsWebScheme scheme) (hplace : NamesPlace front)
    (htext : EndsPlain text) :
    (Url.parse (scheme ++ ":" ++ front ++ "/" ++ text)).map authority =
      readAuthority scheme (((kept front.toList).dropWhile (isSlash true)).takeWhile
        (!endsAuthority true ·)) := by
  obtain ⟨c, hc, hslash, hdropped⟩ := hplace
  have hsplit : scheme ++ ":" ++ front ++ "/" ++ text =
      scheme ++ ":" ++ (front ++ ("/" ++ text)) := by
    simp only [String.append_assoc]
  have hends : EndsPlain (front ++ ("/" ++ text)) := by
    apply (endsPlain_slash htext).append
    simp
  have hkept : kept (front ++ ("/" ++ text)).toList =
      kept front.toList ++ '/' :: kept text.toList := by
    rw [String.toList_append, String.toList_append, kept_append]
    rfl
  have hne : (kept front.toList).dropWhile (isSlash true) ≠ [] := by
    intro hnil
    have hall := List.dropWhile_eq_nil_iff.1 hnil c (List.mem_filter.2 ⟨hc, by simp [hdropped]⟩)
    rw [hslash] at hall
    cases hall
  have hdrop : (kept front.toList ++ '/' :: kept text.toList).dropWhile (isSlash true) =
      (kept front.toList).dropWhile (isSlash true) ++ '/' :: kept text.toList := by
    rw [List.dropWhile_append, if_neg (by simpa using hne)]
  rw [hsplit, h.parse_eq hends, readHierarchical_authority h.isSpecial, hkept, hdrop,
    takeWhile_append_slash]

/-- **Slashes behind a scheme are skipped**, and the place is read from what follows them. -/
theorem IsWebScheme.parse_astray (h : IsWebScheme scheme) (hnone : ¬ NamesPlace front)
    (htext : EndsPlain text) (hne : text ≠ "") :
    Url.parse (scheme ++ ":" ++ front ++ text) = Url.parse (scheme ++ ":" ++ text) := by
  have hslashes : ∀ c ∈ kept front.toList, isSlash true c = true := by
    intro c hc
    obtain ⟨hmem, hkept⟩ := List.mem_filter.1 hc
    by_contra hslash
    exact hnone ⟨c, hmem, by simpa using hslash, by simpa using hkept⟩
  rw [String.append_assoc, h.parse_eq (htext.append hne front), h.parse_eq htext,
    String.toList_append, kept_append, List.dropWhile_append_of_pos hslashes]

end Read

/-! ## A host alone -/

section Host

variable {scheme front name text : String}

theorem isHostText_of_all (hne : name ≠ "")
    (hall : name.toList.all (fun c => Domain.isForbidden c = false) = true) :
    IsHostText name :=
  ⟨hne, fun c hc => of_decide_eq_true (List.all_eq_true.1 hall c hc)⟩

theorem ne_of_allowed {c d : Char} (h : Domain.isForbidden c = false)
    (hd : Domain.isForbidden d = true) : c ≠ d := by
  rintro rfl
  rw [h] at hd
  cases hd

/-- What a name of a host may hold neither ends what stands before the path nor is dropped. -/
theorem stays_of_allowed {c : Char} (h : Domain.isForbidden c = false) (special : Bool) :
    endsAuthority special c = false ∧ isSlash special c = false ∧ isDropped c = false := by
  have hslash : c ≠ '/' := ne_of_allowed h (by decide)
  have hback : c ≠ '\\' := ne_of_allowed h (by decide)
  have hquery : c ≠ '?' := ne_of_allowed h (by decide)
  have hfragment : c ≠ '#' := ne_of_allowed h (by decide)
  have htab : c ≠ '\t' := ne_of_allowed h (by decide)
  have hline : c ≠ '\n' := ne_of_allowed h (by decide)
  have hreturn : c ≠ '\r' := ne_of_allowed h (by decide)
  simp [endsAuthority, isSlash, isDropped, hslash, hback, hquery, hfragment, htab, hline, hreturn]

theorem IsHostText.exists_cons (h : IsHostText name) : ∃ c cs, name.toList = c :: cs :=
  List.exists_cons_of_ne_nil fun hnil => h.nonempty (String.toList_eq_nil_iff.1 hnil)

theorem IsHostText.namesPlace (h : IsHostText name) : NamesPlace name := by
  obtain ⟨c, cs, hname⟩ := h.exists_cons
  have hc : c ∈ name.toList := by
    rw [hname]
    exact List.mem_cons_self
  exact ⟨c, hc, (stays_of_allowed (h.allowed c hc) true).2⟩

/-- A text without what no name of a host holds is taken for a host as a whole. -/
theorem IsHostText.taken (h : IsHostText name) :
    ((kept name.toList).dropWhile (isSlash true)).takeWhile (!endsAuthority true ·) =
      name.toList := by
  have hkept : kept name.toList = name.toList :=
    List.filter_eq_self.2 fun c hc => by simp [(stays_of_allowed (h.allowed c hc) true).2.2]
  have hdrop : name.toList.dropWhile (isSlash true) = name.toList := by
    obtain ⟨c, cs, hname⟩ := h.exists_cons
    have hc := h.allowed c (by rw [hname]; exact List.mem_cons_self)
    rw [hname, List.dropWhile_cons_of_neg (by simp [(stays_of_allowed hc true).2.1])]
  rw [hkept, hdrop, List.takeWhile_eq_self_iff]
  intro c hc
  simp [(stays_of_allowed (h.allowed c hc) true).1]

/-- Without a user and a port the authority is the name of a host. -/
theorem readAuthority_host_only (hspecial : isSpecial scheme = true) {cs : List Char}
    (hne : cs ≠ []) (hplain : ∀ c ∈ cs, c ≠ '@' ∧ c ≠ ':') :
    readAuthority scheme cs = (Host.parse cs).map .ofHost := by
  have hat : cutAtLastAt cs = (none, cs) := by
    have hdrop : cs.reverse.dropWhile (· ≠ '@') = [] := by
      rw [List.dropWhile_eq_nil_iff]
      intro c hc
      simpa using (hplain c (List.mem_reverse.1 hc)).1
    rw [cutAtLastAt, hdrop]
  have hcut : ∀ inBrackets, cutHost inBrackets cs = (cs, []) := by
    clear hne hat
    induction cs with
    | nil => exact fun _ => rfl
    | cons c cs ih =>
      intro inBrackets
      have hcolon : ¬ (decide (c = ':') && !inBrackets) = true := by
        simp [(hplain c List.mem_cons_self).2]
      rw [cutHost, if_neg hcolon]
      simp only [ih fun d hd => hplain d (List.mem_cons_of_mem c hd)]
  rw [readAuthority]
  simp only [hspecial, hat, hcut, if_true, if_neg hne]
  cases Host.parse cs <;> rfl

/-- **A host behind the slashes of a scheme is read as such**, whatever is written behind it. -/
theorem IsWebScheme.parse_host (h : IsWebScheme scheme) (hskip : ¬ NamesPlace front)
    (hname : IsHostText name) (htext : EndsPlain text) :
    (Url.parse (scheme ++ ":" ++ front ++ (name ++ "/" ++ text))).map authority =
      (Host.parse name.toList).map .ofHost := by
  have hfilled : name ++ "/" ++ text ≠ "" := by simp
  have hunder : scheme ++ ":" ++ (name ++ "/" ++ text) = scheme ++ ":" ++ name ++ "/" ++ text := by
    simp only [String.append_assoc]
  have hne : name.toList ≠ [] := fun hnil => hname.nonempty (String.toList_eq_nil_iff.1 hnil)
  rw [h.parse_astray hskip (htext.under name) hfilled, hunder,
    h.parse_authority hname.namesPlace htext, hname.taken]
  apply readAuthority_host_only h.isSpecial hne
  intro c hc
  have hallowed := hname.allowed c hc
  exact ⟨ne_of_allowed hallowed (by decide), ne_of_allowed hallowed (by decide)⟩

end Host

end ManifestPublish.Url
