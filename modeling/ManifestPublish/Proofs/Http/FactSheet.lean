import ManifestPublish.Proofs.Http.Alike
import ManifestPublish.Proofs.Url.Under

/-!
# Where the SBOM of a fact sheet goes

The identifier of a fact sheet is written into an address as it is.  The request for it goes to that
fact sheet exactly if the identifier reads as itself there.

* `IsPlainSegment` : the texts that read as themselves in a path
* `Url.AddressesFactSheet` : a URL that leads to one fact sheet

Principal result: `registerSbom_addresses_iff`.
-/

set_option autoImplicit false

namespace ManifestPublish

/-- A text that reads as itself when it is written into a path as one segment. -/
structure IsPlainSegment (text : String) : Prop where
  characters : ∀ c ∈ text.toList, c ∉ ['/', '\\', '?', '#', '\t', '\n', '\r']
  unescaped : Percent.Unescaped (Utf8.encode text)
  ne_dot : text ≠ "."
  ne_dots : text ≠ ".."

/-- Where the fact sheets are under a base. -/
def factSheets : List String := ["technology-discovery", "v1", "factSheets"]

/-- The URL leads to the SBOMs of one fact sheet under a base: the identifier stands behind the
escapes of one segment of the path, and there is no query. -/
def Url.AddressesFactSheet (base : List String) (id : String) (url : Url) : Prop :=
  url.query = none ∧ ∃ segment, url.path = .segments (base ++ factSheets ++ [segment, "sboms"]) ∧
    Percent.decode (Utf8.encode segment) = Utf8.encode id

namespace FactSheet

open Url

/-! ## Plain segments -/

theorem isPlain_iff (c : Char) : c ∉ ['/', '\\', '?', '#', '\t', '\n', '\r'] ↔
    isSlash true c = false ∧ isDropped c = false ∧ endsPath c = false := by
  simp only [isSlash, isDropped, endsPath, List.mem_cons, List.not_mem_nil, or_false,
    Bool.true_and, Bool.or_eq_false_iff, decide_eq_false_iff_not]
  tauto

theorem isPlainSegment_of_all {text : String}
    (hall : text.toList.all (fun c => !isSlash true c && (!isDropped c && !endsPath c)) = true)
    (hself : Percent.decode (Utf8.encode text) = Utf8.encode text) (hdot : text ≠ ".")
    (hdots : text ≠ "..") : IsPlainSegment text := by
  refine ⟨fun c hc => (isPlain_iff c).2 ?_, Percent.decode_eq_self_iff.1 hself, hdot, hdots⟩
  simpa using List.all_eq_true.1 hall c hc

theorem encode_eq (text : String) : Utf8.encode text = text.toList.flatMap String.utf8EncodeChar :=
  rfl

/-- A segment without escapes is a step only as one dot or two. -/
theorem isStep_encode_iff {id : String} (h : Percent.Unescaped (Utf8.encode id)) :
    isStep (Percent.encode Percent.inPath id.toList) = true ↔ id = "." ∨ id = ".." := by
  constructor
  · intro hstep
    have hstands := decode_of_isStep hstep
    have hid := Percent.decode_encode_inPath id.toList
    rw [String.ofList_toList, Percent.decode_eq_self_iff.2 h, encode_eq, String.toList_ofList]
      at hid
    have hdots : [[0x2E], [0x2E, 0x2E]] = [Utf8.encode ".", Utf8.encode ".."] := by decide
    rw [hid, hdots] at hstands
    simpa [Utf8.encode_inj] using hstands
  · rintro (rfl | rfl) <;> decide

/-! ## What is read behind the base -/

/-- What is written before the identifier, behind the slash of the base. -/
def front : String := "technology-discovery/v1/factSheets/"

/-- What is written behind the slash of the base. -/
def place (id : String) : String := front ++ id ++ "/sboms"

/-- The names that lead to the fact sheets. -/
def names : List (List Char) := factSheets.map String.toList

/-- The segments that are read from the identifier on. -/
def pieces (id : String) : List (List Char) :=
  (List.splitOnP (isSlash true) (pathPart (id.toList ++ "/sboms".toList))).map
    (Percent.encode Percent.inPath)

theorem sboms_eq (e : Endpoints) (id : String) : e.sboms id = e.baseUrl ++ "/" ++ place id := by
  have hslash : "/technology-discovery/v1/factSheets/" = "/" ++ front := by decide
  unfold Endpoints.sboms place
  rw [hslash]
  simp only [String.append_assoc]

theorem toList_place (id : String) :
    (place id).toList = front.toList ++ (id.toList ++ "/sboms".toList) := by
  rw [place, String.toList_append, String.toList_append, List.append_assoc]

theorem front_plain : ∀ c ∈ front.toList, isDropped c = false ∧ endsPath c = false := by
  have hall : front.toList.all (fun c => !isDropped c && !endsPath c) = true := by decide
  intro c hc
  simpa using List.all_eq_true.1 hall c hc

theorem splitOnP_front (cs : List Char) :
    List.splitOnP (isSlash true) (front.toList ++ cs) =
      names ++ List.splitOnP (isSlash true) cs := rfl

theorem encode_names : names.map (Percent.encode Percent.inPath) = names := by
  decide

theorem foldl_names (stack : List (List Char)) :
    names.foldl advance stack = names.reverse ++ stack := rfl

theorem ofList_names : names.map String.ofList = factSheets := by
  decide

/-- The names that lead to the fact sheets are walked along, whatever follows. -/
theorem walk_place (stack : List (List Char)) (id : String) :
    walkSegments stack ((List.splitOnP (isSlash true) (pathPart (place id).toList)).map
      (Percent.encode Percent.inPath)) = walkSegments (names.reverse ++ stack) (pieces id) := by
  have hpath := (parts_append front_plain (id.toList ++ "/sboms".toList)).1
  have hpieces : pieces id ≠ [] := by
    rw [pieces, ne_eq, List.map_eq_nil_iff]
    exact List.splitOnP_ne_nil _ _
  rw [toList_place, hpath, splitOnP_front, List.map_append, encode_names]
  calc walkSegments stack (names ++ pieces id)
    _ = walkSegments (names.foldl advance stack) (pieces id) :=
        walkSegments_append stack names hpieces
    _ = walkSegments (names.reverse ++ stack) (pieces id) := by rw [foldl_names]

/-! ## Identifiers that are plain segments -/

theorem pathPart_sboms : pathPart "/sboms".toList = '/' :: "sboms".toList := by
  decide

theorem splitOnP_sboms : List.splitOnP (isSlash true) "sboms".toList = ["sboms".toList] := by
  decide

theorem encode_sboms : Percent.encode Percent.inPath "sboms".toList = "sboms".toList := by
  decide

/-- A plain segment is read as one segment, and nothing after it as a query or a fragment. -/
theorem pieces_of_isPlainSegment {id : String} (h : IsPlainSegment id) :
    pieces id = [Percent.encode Percent.inPath id.toList, "sboms".toList] ∧
      tailPart (place id).toList = [] := by
  have hplain := fun c hc => (isPlain_iff c).1 (h.characters c hc)
  have hslash : ∀ c ∈ id.toList, isSlash true c = false := fun c hc => (hplain c hc).1
  obtain ⟨hpath, htail⟩ := parts_append (fun c hc => (hplain c hc).2) "/sboms".toList
  constructor
  · rw [pieces, hpath, pathPart_sboms, List.splitOnP_append_cons _ _ (by decide),
      List.splitOnP_eq_singleton hslash, splitOnP_sboms, List.map_append, List.map_singleton,
      List.map_singleton, encode_sboms]
    rfl
  · rw [toList_place, (parts_append front_plain _).2, htail]
    decide

theorem walk_of_isPlainSegment {id : String} (h : IsPlainSegment id) (stack : List (List Char)) :
    walkSegments stack (pieces id) =
      stack.reverse ++ [Percent.encode Percent.inPath id.toList, "sboms".toList] := by
  have hid : isStep (Percent.encode Percent.inPath id.toList) = false := by
    rw [Bool.eq_false_iff, ne_eq, isStep_encode_iff h.unescaped]
    rintro (hdot | hdots)
    · exact h.ne_dot hdot
    · exact h.ne_dots hdots
  rw [(pieces_of_isPlainSegment h).1, walkSegments_of_forall]
  intro s hs
  rcases List.mem_cons.1 hs with rfl | hs
  · exact hid
  · rw [List.mem_singleton.1 hs]
    decide

/-! ## Identifiers in a segment -/

/-- A piece that is read is a plain part of the identifier, or what is written behind it. -/
theorem mem_pieces {id : String} {s : List Char} (h : s ∈ pieces id) :
    s = "sboms".toList ∨ ∃ part, s = Percent.encode Percent.inPath part ∧ part.Sublist id.toList ∧
      ∀ c ∈ part, c ∉ ['/', '\\', '?', '#', '\t', '\n', '\r'] := by
  obtain ⟨part, hpart, rfl⟩ := List.mem_map.1 h
  have hinside : part ∈ List.splitOnP (isSlash true) (pathPart id.toList) →
      part.Sublist id.toList ∧ ∀ c ∈ part, c ∉ ['/', '\\', '?', '#', '\t', '\n', '\r'] := by
    intro hmem
    obtain ⟨hsub, hplain⟩ := mem_splitOnP_pathPart hmem
    exact ⟨hsub, fun c hc => (isPlain_iff c).2 (hplain c hc)⟩
  rcases pathPart_append id.toList "/sboms".toList with hpath | hpath
  · rw [hpath] at hpart
    exact .inr ⟨part, rfl, hinside hpart⟩
  · rw [hpath, pathPart_sboms, List.splitOnP_append_cons _ _ (by decide), splitOnP_sboms] at hpart
    rcases List.mem_append.1 hpart with hpart | hpart
    · exact .inr ⟨part, rfl, hinside hpart⟩
    · rw [List.mem_singleton.1 hpart]
      exact .inl encode_sboms

/-- An identifier that stands behind the escapes of one segment is plain. -/
theorem isPlainSegment_of_mem_walk {id : String} {stack : List (List Char)} {s : List Char}
    (hmem : s ∈ (walkSegments stack (pieces id)).drop stack.length)
    (hid : Percent.decode (s.flatMap String.utf8EncodeChar) = Utf8.encode id) :
    IsPlainSegment id := by
  rcases mem_drop_walkSegments hmem with hstack | rfl | ⟨hpiece, hstep⟩
  · rw [← List.length_reverse, List.drop_length] at hstack
    cases hstack
  · have hempty : Utf8.encode "" = Utf8.encode id := hid
    rw [← Utf8.encode_inj.1 hempty]
    exact isPlainSegment_of_all rfl rfl (by decide) (by decide)
  · rcases mem_pieces hpiece with rfl | ⟨part, rfl, hsub, hplain⟩
    · have hsboms : Percent.decode (Utf8.encode "sboms") = Utf8.encode "sboms" := by decide
      have hname : Utf8.encode "sboms" = Utf8.encode id := hsboms.symm.trans hid
      rw [← Utf8.encode_inj.1 hname]
      exact isPlainSegment_of_all (by decide) hsboms (by decide) (by decide)
    · -- The escapes of the segment stand for a part of the identifier, hence for all of it.
      have hpart := Percent.decode_encode_inPath part
      rw [encode_eq, encode_eq, String.toList_ofList, String.toList_ofList, hid] at hpart
      obtain ⟨rfl, hunescaped⟩ := Percent.eq_of_decode_sublist hsub hpart.symm
      have hdots := (isStep_encode_iff hunescaped).not.1 (Bool.eq_false_iff.1 hstep)
      exact ⟨hplain, hunescaped, fun hdot => hdots (.inl hdot), fun hdot => hdots (.inr hdot)⟩

/-! ## The address -/

theorem addresses_iff {base : List String} {id segment : String} {url : Url}
    (hquery : url.query = none)
    (hpath : url.path = .segments (base ++ factSheets ++ [segment, "sboms"]))
    (hid : Percent.decode (Utf8.encode segment) = Utf8.encode id) (other : String) :
    url.AddressesFactSheet base other ↔ other = id := by
  constructor
  · rintro ⟨-, segment', hpath', hother⟩
    have hsegments := List.append_cancel_left (UrlPath.segments.inj (hpath.symm.trans hpath'))
    rw [List.cons.injEq] at hsegments
    rw [← hsegments.1, hid, Utf8.encode_inj] at hother
    exact hother.symm
  · rintro rfl
    exact ⟨hquery, segment, hpath, hid⟩

section Path

variable {stack : List (List Char)} {id : String} {url : Url}
  (hpath : url.path =
    .segments ((walkSegments (names.reverse ++ stack) (pieces id)).map String.ofList))

include hpath

theorem path_of_isPlainSegment (hid : IsPlainSegment id) :
    url.path = .segments (stack.reverse.map String.ofList ++ factSheets ++
      [String.ofList (Percent.encode Percent.inPath id.toList), "sboms"]) := by
  rw [hpath, walk_of_isPlainSegment hid, List.reverse_append, List.reverse_reverse, List.map_append,
    List.map_append, ofList_names]
  rfl

theorem isPlainSegment_of_addresses
    (haddresses : url.AddressesFactSheet (stack.reverse.map String.ofList) id) :
    IsPlainSegment id := by
  obtain ⟨-, segment, hpath', hsegment⟩ := haddresses
  have hlength : (stack.reverse.map String.ofList ++ factSheets).length =
      (names.reverse ++ stack).length := by
    rw [List.length_append, List.length_append, List.length_map, List.length_reverse,
      List.length_reverse, Nat.add_comm]
    rfl
  -- Behind the base and the way to the fact sheets there are the segment and one more.
  have hwalk := congrArg (List.drop (names.reverse ++ stack).length)
    (UrlPath.segments.inj (hpath.symm.trans hpath'))
  rw [← List.map_drop, ← hlength, List.drop_left, hlength] at hwalk
  have hmem : segment ∈ ((walkSegments (names.reverse ++ stack) (pieces id)).drop
      (names.reverse ++ stack).length).map String.ofList := by
    rw [hwalk]
    exact List.mem_cons_self
  obtain ⟨s, hs, rfl⟩ := List.mem_map.1 hmem
  rw [encode_eq, String.toList_ofList] at hsegment
  exact isPlainSegment_of_mem_walk hs hsegment

end Path

/-- The address of a fact sheet is a URL with everything but path, query and fragment from the base,
and it leads to that fact sheet, and to no other, exactly if the identifier is a plain segment. -/
theorem exists_parse_sboms {e : Endpoints} {root : Url} (h : IsRoot e.baseUrl root) :
    ∃ base, root.path = .segments (base ++ [""]) ∧ ∀ id, ∃ url, Url.parse (e.sboms id) = .ok url ∧
      url.scheme = root.scheme ∧ url.host = root.host ∧ url.port = root.port ∧
      (IsPlainSegment id ↔ ∀ other, url.AddressesFactSheet base other ↔ other = id) := by
  obtain ⟨stack, hroot, hunder⟩ := h.parse_append
  refine ⟨stack.reverse.map String.ofList, hroot, fun id => ?_⟩
  have hlast : (place id).toList.getLast? = some 's' := by
    rw [toList_place, List.getLast?_append, List.getLast?_append]
    rfl
  have hparse := hunder (place id) 's' hlast (by decide)
  rw [← sboms_eq, walk_place] at hparse
  cases hurl : Url.parse (e.sboms id) with
  | error fault =>
    rw [hurl] at hparse
    cases hparse
  | ok url =>
    rw [hurl, Except.ok.injEq] at hparse
    have hscheme := congrArg Url.scheme hparse
    have hhost := congrArg Url.host hparse
    have hport := congrArg Url.port hparse
    have hpath := congrArg Url.path hparse
    have hquery := congrArg Url.query hparse
    refine ⟨url, rfl, hscheme, hhost, hport, fun hid => ?_, fun haddresses => ?_⟩
    · have htail : url.query = none := by
        rw [hquery, (pieces_of_isPlainSegment hid).2]
        rfl
      have hstands : Percent.decode (Utf8.encode (String.ofList
          (Percent.encode Percent.inPath id.toList))) = Utf8.encode id := by
        rw [Percent.decode_encode_inPath, String.ofList_toList]
        exact Percent.decode_eq_self_iff.2 hid.unescaped
      exact addresses_iff htail (path_of_isPlainSegment hpath hid) hstands
    · exact isPlainSegment_of_addresses hpath ((haddresses id).2 rfl)

end FactSheet

open FactSheet

variable {e : Endpoints} {root : Url}

theorem Request.prepare_of_parse {method : Method} {address authorization : String}
    {body : RequestBody} {url : Url} (hparse : Url.parse address = .ok url)
    (hhost : url.hasHost = true) (hheader : isHeaderValue authorization = true) :
    ∃ r, Request.prepare method address authorization body = .ok r := by
  unfold Request.prepare
  simp only [hparse, hhost, hheader]
  cases url.userInfo? with
  | none => exact ⟨_, rfl⟩
  | some userInfo => exact ⟨_, rfl⟩

/-- What is sent to register an SBOM goes to the address of the fact sheet. -/
theorem sentUrl?_of_registerSbom {token : AccessToken} {id : String} {sbom : LocalFile}
    {s : Session} {r : Request}
    (h : (s.registerSbom e token id sbom).2.requests = s.requests ++ [r]) :
    sentUrl? (e.sboms id) = some r.url := by
  have hexchanged := s.exchanged sbomExchange (sbomRequest e token id sbom) acceptSbom
  have hrecorded : ∀ request, sbomRequest e token id sbom = .ok request →
      (s.record request).requests = s.requests ++ [r] → sentUrl? (e.sboms id) = some r.url := by
    intro request hrequest hrecord
    have hr : request.sent = r := by simpa using hrecord
    rw [← hr]
    exact (Request.prepare_isFor hrequest).url
  rw [Session.registerSbom] at h
  generalize (s.exchange sbomExchange (sbomRequest e token id sbom) acceptSbom).1 = result
    at hexchanged
  generalize (s.exchange sbomExchange (sbomRequest e token id sbom) acceptSbom).2 = s'
    at hexchanged h
  cases hexchanged with
  | unsent fault => simp at h
  | unheard sent context fault => exact hrecorded _ sent h
  | heard sent next tells => exact hrecorded _ sent h

theorem obstacle?_eq_none {s : Session} {url : Url} {name : String} (honline : s.isOnline = true)
    (hscheme : url.scheme = "http") (hhost : url.host = some (.domain name))
    (hname : name.toList.all Url.isHostCharacter = true)
    (hlength : url.render.utf8ByteSize ≤ Url.maxRequestLength) : s.obstacle? url = none := by
  have haddressable : url.isAddressable = true := by
    rw [Url.isAddressable, hhost, Bool.and_eq_true]
    exact ⟨hname, decide_eq_true hlength⟩
  rw [Session.obstacle?, haddressable, hscheme, honline]
  rfl

/-- A request for a URL that says nothing of the sender and can be reached goes out as it is. -/
theorem requests_registerSbom {token : AccessToken} {id : String} {sbom : LocalFile} {s : Session}
    {url : Url} (hparse : Url.parse (e.sboms id) = .ok url) (hhost : url.hasHost = true)
    (htoken : isHeaderValue token.value = true) (hname : url.userInfo? = none)
    (hreached : s.obstacle? url = none) :
    (s.registerSbom e token id sbom).2.requests = s.requests ++ [Request.sent
      ⟨.post, url, [bearerAuthorization token.value], .multipart (sbomPart sbom)⟩] := by
  have hprepared : sbomRequest e token id sbom =
      .ok ⟨.post, url, [bearerAuthorization token.value], .multipart (sbomPart sbom)⟩ := by
    rw [sbomRequest, Request.prepare]
    simp only [hparse, hhost, isHeaderValue_bearer, htoken, hname]
    rfl
  rw [Session.registerSbom, hprepared, Session.exchange_unobstructed hreached,
    Session.record_requests]

/-- **The request for the SBOM of a fact sheet goes to the host of the base, and to that fact sheet
and no other exactly if the identifier is a plain segment.** -/
theorem registerSbom_addresses_iff (h : Url.IsRoot e.baseUrl root) :
    ∃ base, root.path = .segments (base ++ [""]) ∧
      ∀ (token : AccessToken) (id : String) (sbom : LocalFile),
        (isHeaderValue token.value = true → ∃ r, sbomRequest e token id sbom = .ok r ∧
          ∀ s : Session, s.obstacle? r.url = none →
            (s.registerSbom e token id sbom).2 = s.record r) ∧
        ∀ (s : Session) (r : Request),
          (s.registerSbom e token id sbom).2.requests = s.requests ++ [r] →
            r.url.scheme = root.scheme ∧ r.url.host = root.host ∧ r.url.port = root.port ∧
            (IsPlainSegment id ↔ ∀ other, r.url.AddressesFactSheet base other ↔ other = id) := by
  obtain ⟨base, hroot, hparse⟩ := exists_parse_sboms h
  refine ⟨base, hroot, fun token id sbom => ⟨?_, ?_⟩⟩
  · intro htoken
    obtain ⟨url, hurl, -, hhost, -, -⟩ := hparse id
    have hhost : url.hasHost = true := by
      obtain ⟨host, hsome, hne⟩ := h.host
      rw [Url.hasHost, hhost, hsome]
      exact decide_eq_true hne
    have hheader : isHeaderValue (bearerAuthorization token.value) = true := by
      rw [isHeaderValue_bearer]
      exact htoken
    obtain ⟨r, hr⟩ : ∃ r, sbomRequest e token id sbom = .ok r :=
      Request.prepare_of_parse hurl hhost hheader
    refine ⟨r, hr, fun s hs => ?_⟩
    rw [Session.registerSbom, hr, Session.exchange_unobstructed hs]
  · intro s r hsent
    obtain ⟨url, hurl, hscheme, hhost, hport, haddresses⟩ := hparse id
    have hr := sentUrl?_of_registerSbom hsent
    rw [sentUrl?, hurl] at hr
    rw [← Option.some_inj.1 hr]
    exact ⟨hscheme, hhost, hport, haddresses⟩

/-- The blank of an identifier is escaped, its percent sign is not, and it reads as itself. -/
theorem registerSbom_addresses_blank :
    let e := Endpoints.ofBaseUrl "http://fake.test/services"
    let url (names : List String) : Url :=
      ⟨"http", "", none, some (.domain "fake.test"), none, .segments names, none, none⟩
    let s := Session.ofAnswers true []
    let sbom : LocalFile := ⟨[], "sbom.json", []⟩
    Url.IsRoot e.baseUrl (url ["services", ""]) ∧
      ∃ r, (s.registerSbom e ⟨"abc"⟩ "FS 1%" sbom).2.requests = [r] ∧
        r.url.host = some (.domain "fake.test") ∧
        ∀ other, r.url.AddressesFactSheet ["services"] other ↔ other = "FS 1%" := by
  intro e url s sbom
  have hroot : Url.IsRoot e.baseUrl (url ["services", ""]) := ⟨by cbv, by decide, rfl, rfl⟩
  obtain ⟨base, hbase, hall⟩ := registerSbom_addresses_iff hroot
  have hservices : ["services"] = base := List.append_cancel_right (UrlPath.segments.inj hbase)
  subst hservices
  obtain ⟨-, haddresses⟩ := hall ⟨"abc"⟩ "FS 1%" sbom
  have hplain : IsPlainSegment "FS 1%" :=
    isPlainSegment_of_all (by decide) (by decide) (by decide) (by decide)
  have hparse : Url.parse (e.sboms "FS 1%") = .ok (url
      ["services", "technology-discovery", "v1", "factSheets", "FS%201%", "sboms"]) := by cbv
  have hsent : (s.registerSbom e ⟨"abc"⟩ "FS 1%" sbom).2.requests = s.requests ++ [_] :=
    requests_registerSbom hparse (by decide) (by decide) (by cbv)
      (obstacle?_eq_none rfl rfl rfl (by decide) (by cbv))
  obtain ⟨-, hhost, -, hiff⟩ := haddresses s _ hsent
  exact ⟨hroot, _, hsent, hhost, hiff.1 hplain⟩

/-- **An identifier with a slash is read as two segments, and two dots lead out of the fact
sheets.** -/
theorem registerSbom_slash_astray :
    let e := Endpoints.ofBaseUrl "http://fake.test/services"
    let s := Session.ofAnswers true []
    let sbom : LocalFile := ⟨[], "sbom.json", []⟩
    (∃ r, (s.registerSbom e ⟨"abc"⟩ "a/b" sbom).2.requests = [r] ∧
      r.url.path = .segments
        ["services", "technology-discovery", "v1", "factSheets", "a", "b", "sboms"] ∧
      ¬ r.url.AddressesFactSheet ["services"] "a/b") ∧
    ∃ r, (s.registerSbom e ⟨"abc"⟩ ".." sbom).2.requests = [r] ∧
      r.url.path = .segments ["services", "technology-discovery", "v1", "sboms"] := by
  intro e s sbom
  let url (names : List String) : Url :=
    ⟨"http", "", none, some (.domain "fake.test"), none, .segments names, none, none⟩
  have hslash : Url.parse (e.sboms "a/b") = .ok (url
      ["services", "technology-discovery", "v1", "factSheets", "a", "b", "sboms"]) := by cbv
  have hdots : Url.parse (e.sboms "..") = .ok (url
      ["services", "technology-discovery", "v1", "sboms"]) := by cbv
  have htoken : isHeaderValue "abc" = true := by decide
  refine ⟨⟨_, requests_registerSbom hslash (by decide) htoken (by cbv)
      (obstacle?_eq_none rfl rfl rfl (by decide) (by cbv)), rfl, ?_⟩,
    ⟨_, requests_registerSbom hdots (by decide) htoken (by cbv)
      (obstacle?_eq_none rfl rfl rfl (by decide) (by cbv)), rfl⟩⟩
  rintro ⟨-, segment, hpath, -⟩
  have hlength := congrArg List.length (UrlPath.segments.inj hpath)
  cases hlength

end ManifestPublish
