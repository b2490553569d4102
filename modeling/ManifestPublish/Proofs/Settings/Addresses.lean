import ManifestPublish.Proofs.Settings.BaseUrl

/-!
# Addresses told apart

* `SameButSlashes` : two base URLs are the same up to the slashes at their ends
* `OneSlash` : an address is a path behind a base, with one slash between them
* `HasEnding` : a text ends in some letters

The endpoints keep one text for all the base URLs that come to the same.  That text does not end in
a slash, so an address falls apart into it and a path in one way only.  The addresses of different
purposes end differently, whatever base and identifier they are made of.

Principal result: `ofBaseUrl_eq_iff_and_addresses_ne`.
-/

set_option autoImplicit false

namespace ManifestPublish

/-- Two texts are the same up to the slashes at their ends. -/
def SameButSlashes (a b : String) : Prop :=
  ∃ base m n, a = base ++ slashes m ∧ b = base ++ slashes n

/-- An address is a path behind a base, with one slash between them and no more. -/
structure OneSlash (base path address : String) : Prop where
  joined : address = base ++ "/" ++ path
  ended : base.toList.getLast? ≠ some '/'
  started : path.toList.head? ≠ some '/'

/-- A text ends in some letters, whatever stands in front of them. -/
def HasEnding (text ending : String) : Prop := ∃ front, text = front ++ ending

theorem HasEnding.ne {a b x y : String} (ha : HasEnding a x) (hb : HasEnding b y)
    (hlength : x.toList.length = y.toList.length) (hne : x ≠ y) : a ≠ b := by
  obtain ⟨front, rfl⟩ := ha
  obtain ⟨front', rfl⟩ := hb
  intro h
  have hlist : front.toList ++ x.toList = front'.toList ++ y.toList := by
    rw [← String.toList_append, h, String.toList_append]
  exact hne (String.toList_inj.1 (List.append_inj' hlist hlength).2)

/-! ## Base URLs -/

theorem slashes_add (m n : Nat) : slashes (m + n) = slashes m ++ slashes n := by
  apply String.toList_inj.1
  simp [slashes]

theorem trimSlashes_slashes (s : String) (n : Nat) :
    trimSlashes (s ++ slashes n) = trimSlashes s := by
  obtain ⟨m, hm⟩ := exists_trimSlashes s
  have hs : s ++ slashes n = trimSlashes s ++ slashes (m + n) := by
    conv_lhs => rw [hm]
    rw [slashes_add, String.append_assoc]
  rw [hs, trimSlashes_append_slashes (getLast?_trimSlashes s)]

/-- Two texts are left the same exactly if they differ in slashes at their ends only. -/
theorem trimSlashes_eq_iff {a b : String} : trimSlashes a = trimSlashes b ↔ SameButSlashes a b := by
  constructor
  · intro h
    obtain ⟨m, hm⟩ := exists_trimSlashes a
    obtain ⟨n, hn⟩ := exists_trimSlashes b
    refine ⟨trimSlashes a, m, n, hm, ?_⟩
    rw [h]
    exact hn
  · rintro ⟨base, m, n, rfl, rfl⟩
    rw [trimSlashes_slashes, trimSlashes_slashes]

namespace Endpoints

/-- **Two base URLs give the same endpoints exactly if they are the same up to final slashes.** -/
theorem ofBaseUrl_eq_iff {a b : String} : ofBaseUrl a = ofBaseUrl b ↔ SameButSlashes a b := by
  rw [← trimSlashes_eq_iff]
  simp only [ofBaseUrl, Endpoints.mk.injEq]

theorem ofBaseUrl_baseUrl (e : Endpoints) : ofBaseUrl e.baseUrl = e := by
  obtain ⟨base, hbase⟩ := e
  simp only [ofBaseUrl, trimSlashes_eq_self hbase]

theorem baseUrl_ne_append_slash (e : Endpoints) (front : String) : e.baseUrl ≠ front ++ "/" := by
  intro h
  apply e.noFinalSlash
  rw [h, String.toList_append]
  simp

/-! ## Addresses -/

theorem oneSlash_oauth2Token (e : Endpoints) :
    OneSlash e.baseUrl "mtm/v1/oauth2/token" e.oauth2Token where
  joined := by
    rw [e.oauth2Token_eq]
    rfl
  ended := e.noFinalSlash
  started := by decide

theorem oneSlash_manifests (e : Endpoints) :
    OneSlash e.baseUrl "technology-discovery/v1/manifests" e.manifests where
  joined := by
    rw [e.manifests_eq]
    rfl
  ended := e.noFinalSlash
  started := by decide

theorem oneSlash_sboms (e : Endpoints) (id : String) :
    OneSlash e.baseUrl ("technology-discovery/v1/factSheets/" ++ id ++ "/sboms") (e.sboms id) where
  joined := by
    have hpath : "technology-discovery/v1/factSheets/" =
        "technology-discovery" ++ "/" ++ "v1/factSheets/" := by decide
    rw [e.sboms_eq, hpath]
    simp only [String.append_assoc]
  ended := e.noFinalSlash
  started := by
    rw [String.toList_append, String.toList_append, List.append_assoc, List.head?_append]
    simp

theorem oauth2Token_ending (e : Endpoints) : HasEnding e.oauth2Token "token" := by
  have hpath : "/mtm/v1/oauth2/token" = "/mtm/v1/oauth2/" ++ "token" := by decide
  refine ⟨e.baseUrl ++ "/mtm/v1/oauth2/", ?_⟩
  rw [oauth2Token, hpath, String.append_assoc]

theorem manifests_ending (e : Endpoints) : HasEnding e.manifests "fests" := by
  have hpath : "/technology-discovery/v1/manifests" =
      "/technology-discovery/v1/mani" ++ "fests" := by decide
  refine ⟨e.baseUrl ++ "/technology-discovery/v1/mani", ?_⟩
  rw [manifests, hpath, String.append_assoc]

theorem sboms_ending (e : Endpoints) (id : String) : HasEnding (e.sboms id) "sboms" := by
  have hpath : "/sboms" = "/" ++ "sboms" := by decide
  refine ⟨e.baseUrl ++ "/technology-discovery/v1/factSheets/" ++ id ++ "/", ?_⟩
  rw [sboms, hpath, ← String.append_assoc]

/-- **An identifier can be read from the address that it is put into.** -/
theorem sboms_inj {e : Endpoints} {i j : String} : e.sboms i = e.sboms j ↔ i = j := by
  constructor
  · intro h
    simp only [sboms, ← String.toList_inj, String.toList_append] at h
    have hfront := List.append_cancel_right h
    exact String.toList_inj.1 (List.append_cancel_left hfront)
  · rintro rfl
    rfl

end Endpoints

/-- **Endpoints are told apart by their base URL, and addresses by what they are for.**  Base URLs
that are the same up to final slashes give the same endpoints, and no others do.  Each address is
the base URL and a path with one slash between them.  Addresses for different purposes differ, even
under different base URLs and whatever the identifier is, and so do those of different
identifiers. -/
theorem ofBaseUrl_eq_iff_and_addresses_ne :
    (∀ a b, Endpoints.ofBaseUrl a = Endpoints.ofBaseUrl b ↔ SameButSlashes a b) ∧
    (∀ e : Endpoints, Endpoints.ofBaseUrl e.baseUrl = e) ∧
    (∀ (e : Endpoints) front, e.baseUrl ≠ front ++ "/") ∧
    (∀ e : Endpoints, OneSlash e.baseUrl "mtm/v1/oauth2/token" e.oauth2Token ∧
      OneSlash e.baseUrl "technology-discovery/v1/manifests" e.manifests ∧
      ∀ id, OneSlash e.baseUrl ("technology-discovery/v1/factSheets/" ++ id ++ "/sboms")
        (e.sboms id)) ∧
    (∀ e e' : Endpoints, e.oauth2Token ≠ e'.manifests ∧
      ∀ id, e.oauth2Token ≠ e'.sboms id ∧ e.manifests ≠ e'.sboms id) ∧
    ∀ (e : Endpoints) i j, e.sboms i = e.sboms j ↔ i = j := by
  refine ⟨fun a b => Endpoints.ofBaseUrl_eq_iff, Endpoints.ofBaseUrl_baseUrl,
    Endpoints.baseUrl_ne_append_slash, ?_, ?_, fun e i j => Endpoints.sboms_inj⟩
  · intro e
    exact ⟨e.oneSlash_oauth2Token, e.oneSlash_manifests, e.oneSlash_sboms⟩
  · intro e e'
    refine ⟨e.oauth2Token_ending.ne e'.manifests_ending (by decide) (by decide), fun id => ?_⟩
    exact ⟨e.oauth2Token_ending.ne (e'.sboms_ending id) (by decide) (by decide),
      e.manifests_ending.ne (e'.sboms_ending id) (by decide) (by decide)⟩

/-- Of a base of slashes only nothing is left, and an identifier like a path stays an identifier. -/
example : (Endpoints.ofBaseUrl "//").manifests = "/technology-discovery/v1/manifests" ∧
    (Endpoints.ofBaseUrl "//").sboms "../manifests" =
      "/technology-discovery/v1/factSheets/../manifests/sboms" := by
  decide

end ManifestPublish
