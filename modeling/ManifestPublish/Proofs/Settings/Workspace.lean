import ManifestPublish.Proofs.Settings.BaseUrl

/-!
# Where a workspace is

* `Subdomain.IsName` : the names of workspaces, character by character
* `Subdomain.host` : the host of a workspace
* `Subdomain.AddressesWorkspace` : an address that leads to a workspace and nowhere else

Whatever text is taken as a subdomain stays inside the name of the host: it holds nothing that ends
the authority, or sets a user or a port apart (`Subdomain.IsCharacter.plain`).

Principal result: `loadConfig_workspace`.
-/

set_option autoImplicit false

namespace ManifestPublish

namespace Subdomain

def IsCharacter (c : Char) : Prop := ('a' ≤ c ∧ c ≤ 'z') ∨ ('0' ≤ c ∧ c ≤ '9') ∨ c = '-'

/-- The names of workspaces: letters, digits and hyphens, with no hyphen at the ends. -/
structure IsName (s : String) : Prop where
  nonempty : s ≠ ""
  characters : ∀ c ∈ s.toList, IsCharacter c
  first : s.toList.head? ≠ some '-'
  last : s.toList.getLast? ≠ some '-'

/-- The host of a workspace. -/
def host (s : String) : String := s ++ ".leanix.net"

/-- An address leads to a workspace: it is written under the services of the host of the workspace,
with no user and no port, and it is read so if the name does not start as punycode does. -/
structure AddressesWorkspace (s address : String) : Prop where
  written : ∃ path, address = "https://" ++ s ++ ".leanix.net/services" ++ "/" ++ path
  authority : Url.writtenAuthority? address = some (host s)
  plain : ∀ c ∈ (host s).toList, c ≠ '@' ∧ c ≠ ':'
  read : ¬ Domain.marker <+: s.toList →
    (Url.parse address).map Url.authority = .ok (.ofHost (.domain (host s)))

/-! ## Names -/

theorem isInner_iff {c : Char} : IsInner c ↔ IsCharacter c := or_assoc

theorem isEdge_iff {c : Char} : IsEdge c ↔ IsCharacter c ∧ c ≠ '-' := by
  constructor
  · intro h
    refine ⟨isInner_iff.1 (.inl h), ?_⟩
    rintro rfl
    exact absurd h (by unfold IsEdge; decide)
  · intro ⟨h, hne⟩
    exact (isInner_iff.2 h).resolve_right hne

/-- The names of workspaces are the words of their language. -/
theorem mem_names_iff {s : String} : s.toList ∈ names ↔ IsName s := by
  rw [mem_names]
  constructor
  · rintro ⟨first, hfirst, hs | ⟨inner, last, hinner, hlast, hs⟩⟩
    · obtain ⟨hcharacter, hne⟩ := isEdge_iff.1 hfirst
      refine ⟨?_, ?_, ?_, ?_⟩
      · rintro rfl
        cases hs
      · simpa [hs] using hcharacter
      · simpa [hs] using hne
      · simpa [hs] using hne
    · obtain ⟨hcharacter, hne⟩ := isEdge_iff.1 hfirst
      obtain ⟨hcharacter', hne'⟩ := isEdge_iff.1 hlast
      refine ⟨?_, ?_, ?_, ?_⟩
      · rintro rfl
        cases hs
      · intro c hc
        rw [hs] at hc
        rcases List.mem_cons.1 hc with rfl | hc
        · exact hcharacter
        · rcases List.mem_append.1 hc with hc | hc
          · exact isInner_iff.1 (hinner c hc)
          · rw [List.mem_singleton.1 hc]
            exact hcharacter'
      · simpa [hs] using hne
      · rw [hs, ← List.cons_append, List.getLast?_concat]
        simpa using hne'
  · intro h
    have hfilled : s.toList ≠ [] := fun hnil => h.nonempty (String.toList_eq_nil_iff.1 hnil)
    obtain ⟨first, rest, hs⟩ := List.exists_cons_of_ne_nil hfilled
    have hhead : first ≠ '-' := by
      rintro rfl
      exact h.first (by rw [hs]; rfl)
    have hfirst : IsEdge first := isEdge_iff.2
      ⟨h.characters first (by rw [hs]; exact List.mem_cons_self), hhead⟩
    refine ⟨first, hfirst, ?_⟩
    rcases List.eq_nil_or_concat rest with rfl | ⟨inner, last, rfl⟩
    · exact .inl hs
    · rw [List.concat_eq_append] at hs
      have hmem : ∀ c ∈ inner ++ [last], IsCharacter c := by
        intro c hc
        exact h.characters c (by rw [hs]; exact List.mem_cons_of_mem first hc)
      have hend : last ≠ '-' := by
        rintro rfl
        apply h.last
        rw [hs, ← List.cons_append, List.getLast?_concat]
      refine .inr ⟨inner, last, ?_, isEdge_iff.2 ⟨hmem last (by simp), hend⟩, hs⟩
      intro c hc
      exact isInner_iff.2 (hmem c (List.mem_append_left _ hc))

/-- A line end behind a name and a letter beyond ASCII are refused. -/
example : isSubdomain "acme\n" = false ∧ isSubdomain "acmé" = false := by decide

/-! ## The characters of a host -/

theorem IsCharacter.number {c : Char} (h : IsCharacter c) :
    (97 ≤ c.toNat ∧ c.toNat ≤ 122) ∨ (48 ≤ c.toNat ∧ c.toNat ≤ 57) ∨ c.toNat = 45 := by
  rcases h with ⟨hlow, hhigh⟩ | ⟨hlow, hhigh⟩ | rfl
  · exact .inl ⟨UInt32.le_iff_toNat_le.1 hlow, UInt32.le_iff_toNat_le.1 hhigh⟩
  · exact .inr (.inl ⟨UInt32.le_iff_toNat_le.1 hlow, UInt32.le_iff_toNat_le.1 hhigh⟩)
  · exact .inr (.inr rfl)

/-- A character that stays as it is in the name of a host, and is no part of anything else. -/
structure IsPlain (c : Char) : Prop where
  folded : Domain.fold c = [c]
  allowed : Domain.isForbidden c = false
  ascii : c.toNat < 0x80

theorem IsCharacter.plain {c : Char} (h : IsCharacter c) : IsPlain c := by
  have hall : ∀ n < 0x80, (97 ≤ n ∧ n ≤ 122) ∨ (48 ≤ n ∧ n ≤ 57) ∨ n = 45 →
      Domain.fold (Char.ofNat n) = [Char.ofNat n] ∧ Domain.isForbidden (Char.ofNat n) = false := by
    decide
  have hnumber := h.number
  have hascii : c.toNat < 0x80 := by omega
  have hfacts := hall c.toNat hascii hnumber
  rw [Char.ofNat_toNat] at hfacts
  exact ⟨hfacts.1, hfacts.2, hascii⟩

theorem toList_host (s : String) : (host s).toList = s.toList ++ ".leanix.net".toList :=
  String.toList_append

theorem host_inj {s t : String} (h : host s = host t) : s = t := by
  have hlist := congrArg String.toList h
  rw [toList_host, toList_host] at hlist
  exact String.toList_inj.1 (List.append_cancel_right hlist)

theorem host_ne_nil (s : String) : (host s).toList ≠ [] := by
  rw [toList_host]
  exact List.append_ne_nil_of_right_ne_nil _ (by decide)

theorem IsName.plain {s : String} (h : IsName s) : ∀ c ∈ (host s).toList, IsPlain c := by
  have hend : ".leanix.net".toList.all (fun c =>
      Domain.fold c = [c] && (Domain.isForbidden c = false && c.toNat < 0x80)) = true := by decide
  intro c hc
  rw [toList_host, List.mem_append] at hc
  rcases hc with hc | hc
  · exact (h.characters c hc).plain
  · have hplain := List.all_eq_true.1 hend c hc
    simp only [Bool.and_eq_true, decide_eq_true_eq] at hplain
    exact ⟨hplain.1, hplain.2.1, hplain.2.2⟩

/-! ## The host as it is read -/

/-- A label in ASCII stays as it is, unless it starts as punycode does. -/
theorem labelToAscii?_eq_self {label : List Char} (h : ∀ c ∈ label, c.toNat < 0x80)
    (unmarked : ¬ Domain.marker <+: label) : Domain.labelToAscii? label = some label := by
  have hnational : ¬ Domain.isInternational label = true := by
    rw [Domain.isInternational, List.any_eq_true]
    rintro ⟨c, hc, hbeyond⟩
    have hascii := h c hc
    have hlarge := of_decide_eq_true hbeyond
    omega
  have hunmarked : Domain.marker.isPrefixOf label = false :=
    Bool.eq_false_iff.2 fun hmarked => unmarked (List.isPrefixOf_iff_prefix.1 hmarked)
  rw [Domain.labelToAscii?, if_neg hnational, hunmarked, Bool.false_and]
  exact if_neg Bool.false_ne_true

variable {s : String}

theorem IsName.splitOn_host (h : IsName s) :
    (host s).toList.splitOn '.' = [s.toList, "leanix".toList, "net".toList] := by
  have hstop : '.' ∉ s.toList := by
    intro hmem
    exact absurd (h.characters '.' hmem) (by unfold IsCharacter; decide)
  have hend : ".leanix.net".toList = '.' :: "leanix.net".toList := by decide
  rw [toList_host, hend, List.splitOn_append_cons_self_of_not_mem hstop]
  rfl

theorem IsName.toAscii?_host (h : IsName s) (unmarked : ¬ Domain.marker <+: s.toList) :
    Domain.toAscii? (host s).toList = some (host s).toList := by
  have hfold : (host s).toList.flatMap Domain.fold = (host s).toList := by
    rw [List.flatMap_congr fun c hc => (h.plain c hc).folded, List.flatMap_singleton']
  have hallowed : (host s).toList.any Domain.isForbidden = false := by
    rw [List.any_eq_false]
    intro c hc
    rw [(h.plain c hc).allowed]
    exact Bool.false_ne_true
  have hname : Domain.labelToAscii? s.toList = some s.toList :=
    labelToAscii?_eq_self (fun c hc => (h.characters c hc).plain.ascii) unmarked
  have hleanix : Domain.labelToAscii? "leanix".toList = some "leanix".toList := by decide
  have hnet : Domain.labelToAscii? "net".toList = some "net".toList := by decide
  have hjoin : List.intercalate ['.'] [s.toList, "leanix".toList, "net".toList] =
      (host s).toList := by
    rw [toList_host]
    simp [List.intercalate]
  rw [Domain.toAscii?]
  simp only [hfold, hallowed, h.splitOn_host, List.mapM_cons, List.mapM_nil, Option.pure_def,
    Option.bind_eq_bind, hname, hleanix, hnet, Option.bind_some, Option.map_some, hjoin,
    Bool.false_eq_true, if_false]

theorem IsName.decode_host (h : IsName s) :
    Percent.decode (Utf8.encode (host s)) = Utf8.encode (host s) := by
  rw [Percent.decode_eq_self_iff]
  intro b c _ _ hinfix
  have hmem : UInt8.ofNat 0x25 ∈ Utf8.encode (host s) := hinfix.subset List.mem_cons_self
  have hpercent := Percent.mem_of_mem_encode (by decide) hmem
  exact Url.ne_of_allowed (h.plain _ hpercent).allowed (d := '%') (by decide) rfl

theorem IsName.not_endsInNumber_host (h : IsName s) :
    Ipv4.endsInNumber (host s).toList = false := by
  have hparts : Ipv4.parts (host s).toList = [s.toList, "leanix".toList, "net".toList] := by
    rw [Ipv4.parts, h.splitOn_host]
    rfl
  rw [Ipv4.endsInNumber, hparts]
  rfl

/-- The host of a workspace is read as a domain name, and as no other. -/
theorem IsName.parse_host (h : IsName s) (unmarked : ¬ Domain.marker <+: s.toList) :
    Host.parse (host s).toList = .ok (.domain (host s)) := by
  have hdecode := h.decode_host
  have hnumber := h.not_endsInNumber_host
  have hascii := h.toAscii?_host unmarked
  unfold Host.parse
  split
  · rename_i rest heq
    have hmem : '[' ∈ (host s).toList := by
      rw [heq]
      exact List.mem_cons_self
    exact absurd rfl (Url.ne_of_allowed (h.plain _ hmem).allowed (d := '[') (by decide))
  · rw [String.ofList_toList, hdecode, Utf8.decode?_encode, Option.bind_some, hascii]
    obtain ⟨c, cs, hhost⟩ := List.exists_cons_of_ne_nil (host_ne_nil s)
    have hname : String.ofList (c :: cs) = host s := by rw [← hhost, String.ofList_toList]
    rw [hhost] at hnumber ⊢
    simp only [hnumber, Bool.false_eq_true, if_false, hname]

/-! ## The addresses of a workspace -/

theorem services_eq (s : String) :
    "https://" ++ s ++ ".leanix.net/services" = "https" ++ "://" ++ host s ++ "/services" := by
  have hend : ".leanix.net/services" = ".leanix.net" ++ "/services" := by decide
  rw [hend, host, ← String.append_assoc, ← String.append_assoc]
  rfl

theorem baseUrl_ofSubdomain (s : String) :
    (Endpoints.ofSubdomain s).baseUrl = "https://" ++ s ++ ".leanix.net/services" := by
  have hlast : ("https://" ++ s ++ ".leanix.net/services").toList.getLast? ≠ some '/' := by
    have hend : ".leanix.net/services".toList.getLast? = some 's' := by decide
    rw [String.toList_append, List.getLast?_append, hend]
    simp
  exact trimSlashes_eq_self hlast

theorem IsName.isHostText (h : IsName s) : Url.IsHostText (host s) where
  nonempty := fun hempty => host_ne_nil s (String.toList_eq_nil_iff.2 hempty)
  allowed := fun c hc => (h.plain c hc).allowed

/-- **The addresses of a workspace lead to it**, whatever its name is made of. -/
theorem IsName.addressesWorkspace (h : IsName s) {id a : String}
    (ha : a ∈ (Endpoints.ofSubdomain s).addresses id) : AddressesWorkspace s a := by
  obtain ⟨name, more, hmore, rfl⟩ := exists_path ha
  rw [baseUrl_ofSubdomain]
  have hallowed := h.isHostText.allowed
  have hsplit : "https://" ++ s ++ ".leanix.net/services" ++ "/" ++ (name ++ "/" ++ more) =
      "https" ++ "://" ++ host s ++ "/" ++ ("services" ++ "/" ++ (name ++ "/" ++ more)) := by
    have hservices : "/services" = "/" ++ "services" := by decide
    rw [services_eq, hservices]
    simp only [String.append_assoc]
  refine ⟨⟨_, rfl⟩, ?_, ?_, ?_⟩
  · have hwhole : (host s).toList.takeWhile (!Url.endsAuthority false ·) = (host s).toList :=
      List.takeWhile_eq_self_iff.2 fun c hc => by
        simp [(Url.stays_of_allowed (hallowed c hc) false).1]
    rw [hsplit, Url.IsWebScheme.https.writtenAuthority?_append,
      Url.IsWebScheme.https.writtenAuthority?_eq, hwhole, String.ofList_toList]
  · intro c hc
    exact ⟨Url.ne_of_allowed (hallowed c hc) (by decide),
      Url.ne_of_allowed (hallowed c hc) (by decide)⟩
  · intro unmarked
    have hskip : ¬ Url.NamesPlace "//" := not_namesPlace_slashes 2
    have hcolon : ∀ path, "https" ++ "://" ++ host s ++ "/" ++ path =
        "https" ++ ":" ++ "//" ++ (host s ++ "/" ++ path) := by
      intro path
      have hweb := web_eq "https" (host s ++ "/" ++ path)
      simpa only [String.append_assoc] using hweb
    rw [hsplit, hcolon, Url.IsWebScheme.https.parse_host hskip h.isHostText
      ((hmore.under name).under "services"),
      h.parse_host unmarked]
    rfl

end Subdomain

/-! ## The workspace of a run -/

section Load

variable {o : Overrides} {env : Environment} {s : String}

/-- A text is refused as a subdomain exactly if it is no name of a workspace. -/
theorem loadConfig_invalidSubdomain_iff (token : ∃ text, env.Holds Variable.apiToken text)
    (named : o.Subdomain env s) (t : String) :
    loadConfig o env = .error (.configuration (.invalidSubdomain t)) ↔
      t = s ∧ ¬ Subdomain.IsName s := by
  have hunique : ∀ {t}, o.Subdomain env t → t = s := by
    intro t ht
    exact (subdomain_iff.1 ht).symm.trans (subdomain_iff.1 named)
  rw [loadConfig_eq_error_iff]
  constructor
  · rintro ⟨fault, hfault, heq⟩
    cases heq
    cases loadSettings_eq_error_iff_firstFault.1 hfault with
    | subdomain _ found wrong =>
      obtain rfl := hunique found
      exact ⟨rfl, fun hname => wrong (Subdomain.mem_names_iff.2 hname)⟩
    | timeout _ _ _ _ wrong =>
      cases wrong with
      | ofOption _ said => cases said
      | ofVariable _ _ said =>
        obtain ⟨_, _, hsaid⟩ := said
        cases hsaid
  · rintro ⟨rfl, hname⟩
    obtain ⟨text, hheld⟩ := token
    refine ⟨_, loadSettings_eq_error_iff_firstFault.2 (.subdomain hheld named ?_), rfl⟩
    exact fun hmem => hname (Subdomain.mem_names_iff.1 hmem)

/-- **Where a workspace is.**  A text is taken as a subdomain exactly if it is the name of a
workspace.  Unless a base URL is given, all addresses lead to the host of that workspace, and to no
other. -/
theorem loadConfig_workspace (token : ∃ text, env.Holds Variable.apiToken text)
    (named : o.Subdomain env s) :
    (∀ t, loadConfig o env = .error (.configuration (.invalidSubdomain t)) ↔
      t = s ∧ ¬ Subdomain.IsName s) ∧
    (o.BaseUrl env none → ∀ config, loadConfig o env = .ok config →
      config.endpoints = .ofSubdomain s) ∧
    (Subdomain.IsName s → ∀ id, ∀ a ∈ (Endpoints.ofSubdomain s).addresses id,
      Subdomain.AddressesWorkspace s a) ∧
    ∀ t a b, Subdomain.AddressesWorkspace s a → Subdomain.AddressesWorkspace t b →
      Url.writtenAuthority? a = Url.writtenAuthority? b → t = s := by
  refine ⟨loadConfig_invalidSubdomain_iff token named, ?_, ?_, ?_⟩
  · intro hbase config hload
    have hresolution := loadSettings_eq_ok_iff_resolution.1 (loadConfig_ok hload)
    obtain ⟨baseUrl, hfound, hendpoints⟩ := hresolution.endpoints
    have hnone : baseUrl = none := (baseUrl_iff.1 hfound).symm.trans (baseUrl_iff.1 hbase)
    have hsame : config.credentials.subdomain = s :=
      (subdomain_iff.1 hresolution.subdomain).symm.trans (subdomain_iff.1 named)
    rw [hendpoints, hnone, hsame]
    rfl
  · intro hname id a ha
    exact hname.addressesWorkspace ha
  · intro t a b ha hb heq
    rw [ha.authority, hb.authority, Option.some.injEq] at heq
    exact Subdomain.host_inj heq.symm

end Load

/-- A hyphen inside a name is taken, a line end behind one is not. -/
theorem loadConfig_workspace_hyphen :
    let env := Environment.empty.set Variable.apiToken (Utf8.encode "secret")
    (∃ config, loadConfig { subdomain := some "a-1" } env = .ok config ∧
      config.endpoints = .ofSubdomain "a-1" ∧
      ∀ id, ∀ a ∈ config.endpoints.addresses id, Subdomain.AddressesWorkspace "a-1" a) ∧
    loadConfig { subdomain := some "a-1\n" } env =
      .error (.configuration (.invalidSubdomain "a-1\n")) := by
  intro env
  have htoken : ∃ text, env.Holds Variable.apiToken text :=
    ⟨"secret", Environment.filled?_eq_some_iff.1 (by decide)⟩
  have hname : Subdomain.IsName "a-1" :=
    Subdomain.mem_names_iff.1 (Subdomain.isSubdomain_iff.1 (by decide))
  have hload : loadConfig { subdomain := some "a-1" }
      (Environment.empty.set Variable.apiToken (Utf8.encode "secret")) = .ok
      ⟨⟨"secret", "a-1"⟩, .ofSubdomain "a-1", Utf8.encode "leanix.yaml",
        Utf8.encode "sbom.json", 20⟩ := by rfl
  obtain ⟨-, hendpoints, haddresses, -⟩ := loadConfig_workspace htoken
    (o := { subdomain := some "a-1" }) (s := "a-1") (subdomain_iff.2 rfl)
  obtain ⟨hrefused, -⟩ := loadConfig_workspace htoken
    (o := { subdomain := some "a-1\n" }) (s := "a-1\n") (subdomain_iff.2 rfl)
  refine ⟨⟨_, hload, hendpoints (baseUrl_iff.2 rfl) _ hload, haddresses hname⟩, ?_⟩
  refine (hrefused _).2 ⟨rfl, ?_⟩
  intro hother
  have hwrong := Subdomain.isSubdomain_iff.2 (Subdomain.mem_names_iff.2 hother)
  exact absurd hwrong (by decide)

end ManifestPublish
