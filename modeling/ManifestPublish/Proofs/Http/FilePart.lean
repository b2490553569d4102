import Mathlib.Data.List.Chain
import ManifestPublish.Proofs.Http.Reception

/-!
# Files as parts of a form

A part says in two header lines to which field it belongs and under which name it is sent, with the
name between quotes.

* `FileName.cutAtQuote` : what stands before the first quotes that no backslash escapes
* `FileName.unescape` : the name behind the backslashes
* `BreaksInto` : a block of two lines, broken in one place
* `TellsFile` : a block that says field, name and media type
* `Request.Carries` : a request with a file as its one part

Principal results: `FileName.cutAtQuote_escape` and `FileName.unescape_escape` (no name ends the
quotes, and none is lost), `Part.tellsFile_header`, and from these `Session.requests_carry`.
-/

set_option autoImplicit false

namespace ManifestPublish

/-! ## Names between quotes -/

namespace FileName

/-- Cuts a text before the first quotes that no backslash escapes. -/
def cutAtQuote : List Char → List Char × List Char
  | [] => ([], [])
  | '"' :: rest => ([], '"' :: rest)
  | '\\' :: c :: rest =>
    let (quoted, rest) := cutAtQuote rest
    ('\\' :: c :: quoted, rest)
  | c :: rest =>
    let (quoted, rest) := cutAtQuote rest
    (c :: quoted, rest)

/-- Drops each backslash and keeps the character after it. -/
def unescape : List Char → List Char
  | [] => []
  | '\\' :: c :: rest => c :: unescape rest
  | c :: rest => c :: unescape rest

/-- A character of a name stands behind a backslash, or as itself if it needs none. -/
theorem escapeFileNameChar_cases (c : Char) :
    escapeFileNameChar c = ['\\', c] ∨
      (escapeFileNameChar c = [c] ∧ c ≠ '\\' ∧ c ≠ '"' ∧ c ≠ '\n') := by
  unfold escapeFileNameChar
  split
  · exact .inl rfl
  · rename_i hplain
    simp only [Bool.or_eq_true, decide_eq_true_eq, not_or] at hplain
    exact .inr ⟨rfl, hplain.1.1.1, hplain.1.1.2, hplain.2⟩

/-- **A name does not end the quotes that it stands between.** -/
theorem cutAtQuote_escape (name rest : List Char) :
    cutAtQuote (name.flatMap escapeFileNameChar ++ '"' :: rest) =
      (name.flatMap escapeFileNameChar, '"' :: rest) := by
  induction name with
  | nil => rw [List.flatMap_nil, List.nil_append, cutAtQuote]
  | cons c name ih =>
    rw [List.flatMap_cons, List.append_assoc]
    rcases escapeFileNameChar_cases c with hc | ⟨hc, hbackslash, hquote, -⟩
    · rw [hc, List.cons_append, List.cons_append, List.nil_append, cutAtQuote, ih]
      rfl
    · rw [hc, List.cons_append, List.nil_append, cutAtQuote, ih]
      · rfl
      · exact hquote
      · rintro _ _ hslash -
        exact hbackslash hslash

/-- **A name is what stands behind its backslashes.** -/
theorem unescape_escape (name : List Char) : unescape (name.flatMap escapeFileNameChar) = name := by
  induction name with
  | nil => rw [List.flatMap_nil, unescape]
  | cons c name ih =>
    rw [List.flatMap_cons]
    rcases escapeFileNameChar_cases c with hc | ⟨hc, hbackslash, -, -⟩
    · rw [hc, List.cons_append, List.cons_append, List.nil_append, unescape, ih]
    · rw [hc, List.cons_append, List.nil_append, unescape, ih]
      rintro _ _ hslash -
      exact hbackslash hslash

example : escapeFileName "a\"\\\r\n" = "a\\\"\\\\\\\r\\\n" := by decide

end FileName

/-! ## Lines -/

/-- A line end does not fall between two characters. -/
def Unbroken (a b : Char) : Prop := ¬(a = '\r' ∧ b = '\n')

/-- A block of two lines, broken in one place. -/
structure BreaksInto (block first second : String) : Prop where
  eq : block = first ++ "\r\n" ++ second
  only : ∀ before after, block = before ++ "\r\n" ++ after → before = first ∧ after = second

theorem eq_of_break {first second before after : List Char}
    (hfirst : List.IsChain Unbroken (first ++ ['\r'])) (hsecond : '\r' ∉ second)
    (h : first ++ '\r' :: '\n' :: second = before ++ '\r' :: '\n' :: after) :
    before = first ∧ after = second := by
  induction first generalizing before with
  | nil =>
    match before with
    | [] =>
      simp only [List.nil_append, List.cons.injEq, true_and] at h
      exact ⟨rfl, h.symm⟩
    | [c] =>
      simp only [List.nil_append, List.cons_append, List.cons.injEq] at h
      exact absurd h.2.1 (by decide)
    | c :: d :: before =>
      simp only [List.nil_append, List.cons_append, List.cons.injEq] at h
      exact absurd (by rw [h.2.2]; simp) hsecond
  | cons c first ih =>
    cases before with
    | nil =>
      obtain ⟨rfl, htail⟩ := List.cons.inj h
      cases first with
      | nil => exact absurd (List.cons.inj htail).1 (by decide)
      | cons d first =>
        obtain ⟨rfl, -⟩ := List.cons.inj htail
        exact absurd ⟨rfl, rfl⟩ (List.isChain_cons_cons.1 hfirst).1
    | cons d before =>
      obtain ⟨rfl, htail⟩ := List.cons.inj h
      obtain ⟨rfl, rfl⟩ := ih hfirst.tail htail
      exact ⟨rfl, rfl⟩

theorem breaksInto_of_unbroken {first second : String}
    (hfirst : List.IsChain Unbroken (first.toList ++ ['\r'])) (hsecond : '\r' ∉ second.toList) :
    BreaksInto (first ++ "\r\n" ++ second) first second := by
  refine ⟨rfl, fun before after h => ?_⟩
  have hchars := congrArg String.toList h
  simp only [String.toList_append, List.append_assoc] at hchars
  obtain ⟨hbefore, hafter⟩ := eq_of_break hfirst hsecond hchars
  exact ⟨String.toList_inj.1 hbefore, String.toList_inj.1 hafter⟩

theorem isChain_of_not_mem {cs : List Char} (h : '\r' ∉ cs) : List.IsChain Unbroken cs := by
  induction cs with
  | nil => exact .nil
  | cons c cs ih =>
    obtain ⟨hc, hcs⟩ := not_or.1 (mt List.mem_cons.2 h)
    refine (ih hcs).cons ?_
    rintro d - ⟨hreturn, -⟩
    exact hc hreturn.symm

theorem isChain_append {before after : List Char} (hbefore : List.IsChain Unbroken before)
    (hafter : List.IsChain Unbroken after) (hhead : after.head? ≠ some '\n') :
    List.IsChain Unbroken (before ++ after) := by
  refine List.isChain_append.2 ⟨hbefore, hafter, ?_⟩
  rintro c - d hd ⟨-, rfl⟩
  exact hhead hd

/-- No line ends within a name between quotes, nor at either of its ends. -/
theorem isChain_escape (name rest : List Char) (hrest : List.IsChain Unbroken rest)
    (hhead : rest.head? ≠ some '\n') :
    List.IsChain Unbroken (name.flatMap escapeFileNameChar ++ rest) ∧
      (name.flatMap escapeFileNameChar ++ rest).head? ≠ some '\n' := by
  induction name with
  | nil => exact ⟨hrest, hhead⟩
  | cons c name ih =>
    have hafter (d : Char) :
        List.IsChain Unbroken (d :: (name.flatMap escapeFileNameChar ++ rest)) :=
      isChain_append (.singleton d) ih.1 ih.2
    rw [List.flatMap_cons, List.append_assoc]
    rcases FileName.escapeFileNameChar_cases c with hc | ⟨hc, -, -, hnewline⟩
    · rw [hc]
      refine ⟨List.isChain_cons_cons.2 ⟨?_, hafter c⟩, ?_⟩
      · rintro ⟨hslash, -⟩
        exact absurd hslash (by decide)
      · rintro ⟨⟩
    · rw [hc]
      refine ⟨hafter c, ?_⟩
      rintro ⟨⟩
      exact hnewline rfl

/-! ## Header blocks -/

/-- A block of two lines that say the field of a part, a name between quotes which end where the
line does, and a media type. -/
structure TellsFile (block field name mediaType : String) (quoted : List Char) : Prop where
  lines : BreaksInto block
    ("Content-Disposition: form-data; name=\"" ++ field ++ "\"; filename=\"" ++
      String.ofList quoted ++ "\"")
    ("Content-Type: " ++ mediaType)
  closes : FileName.cutAtQuote (quoted ++ ['"']) = (quoted, ['"'])
  name : FileName.unescape quoted = name.toList

theorem TellsFile.name_eq {block field name name' mediaType : String} {quoted quoted' : List Char}
    (h : TellsFile block field name mediaType quoted)
    (h' : TellsFile block field name' mediaType quoted') : name = name' := by
  obtain ⟨hline, -⟩ := h'.lines.only _ _ h.lines.eq
  have hquoted : quoted = quoted' := by
    have hchars := congrArg String.toList hline
    simp only [String.toList_append, List.append_cancel_left_eq, List.append_cancel_right_eq,
      String.toList_ofList] at hchars
    exact hchars
  rw [← String.toList_inj, ← h.name, ← h'.name, hquoted]

/-- **The header of a part tells its field, file name and media type**, whatever the name is. -/
theorem Part.tellsFile_header {p : Part} (hfield : '\r' ∉ p.field.toList)
    (hmediaType : '\r' ∉ p.mediaType.toList) :
    TellsFile p.header p.field p.fileName p.mediaType
      (p.fileName.toList.flatMap escapeFileNameChar) := by
  refine ⟨?_, FileName.cutAtQuote_escape _ _, FileName.unescape_escape _⟩
  have hbreak : "\"\r\nContent-Type: " = "\"" ++ "\r\n" ++ "Content-Type: " := by decide
  have hheader : p.header = "Content-Disposition: form-data; name=\"" ++ p.field ++
      "\"; filename=\"" ++ escapeFileName p.fileName ++ "\"" ++ "\r\n" ++
        ("Content-Type: " ++ p.mediaType) := by
    unfold Part.header
    rw [hbreak]
    simp only [String.append_assoc]
  have hopening : '\r' ∉ ("Content-Disposition: form-data; name=\"" ++ p.field ++
      "\"; filename=\"").toList := by
    simp [String.toList_append, hfield]
  obtain ⟨hquoted, hhead⟩ := isChain_escape p.fileName.toList ['"', '\r'] (by simp [Unbroken])
    (by decide)
  rw [hheader]
  refine breaksInto_of_unbroken ?_ ?_
  · rw [String.toList_append, String.toList_append, escapeFileName, String.toList_ofList,
      List.append_assoc, List.append_assoc]
    exact isChain_append (isChain_of_not_mem hopening) hquoted hhead
  · simp [String.toList_append, hmediaType]

/-! ## Requests -/

/-- The header block of the part that a request carries. -/
def Request.partHeader? (r : Request) : Option String :=
  match r.body with
  | .form _ => none
  | .multipart part => some part.header

/-- A request with a file as its one part: the header tells its name, and length and digest are
those of its contents. -/
structure Request.Carries (r : Request) (field mediaType : String) (file : LocalFile) (p : Part) :
    Prop where
  body : r.body = .multipart p
  header : ∃ quoted, TellsFile p.header field file.name mediaType quoted
  contents : p.contents = file.contents
  length : p.contents.length = file.report.size
  sha256 : Sha256.hexDigest p.contents = file.report.sha256

section Sent

variable {s s' : Session} {method : Method} {address authorization : String} {r r' : Request}

theorem body_of_mem_outgoing {body : RequestBody}
    (h : r ∈ s.outgoing (Request.prepare method address authorization body)) : r.body = body := by
  obtain ⟨prepared, hprepare, -, rfl⟩ := Session.mem_outgoing h
  exact (Request.prepare_isFor hprepare).body

theorem carries_of_mem_outgoing {p : Part} {file : LocalFile}
    (h : r ∈ s.outgoing (Request.prepare method address authorization (.multipart p)))
    (hfield : '\r' ∉ p.field.toList) (hmediaType : '\r' ∉ p.mediaType.toList)
    (hname : p.fileName = file.name) (hcontents : p.contents = file.contents) :
    r.Carries p.field p.mediaType file p where
  body := body_of_mem_outgoing h
  header := ⟨_, hname ▸ p.tellsFile_header hfield hmediaType⟩
  contents := hcontents
  length := congrArg List.length hcontents
  sha256 := congrArg Sha256.hexDigest hcontents

/-- The headers of two parts that differ at most in name and contents agree if the names do. -/
theorem Request.partHeader?_eq_iff {field mediaType : String} {file file' : LocalFile}
    (h : r.Carries field mediaType file ⟨field, file.name, mediaType, file.contents⟩)
    (h' : r'.Carries field mediaType file' ⟨field, file'.name, mediaType, file'.contents⟩) :
    r.partHeader? = r'.partHeader? ↔ file.name = file'.name := by
  rw [Request.partHeader?, Request.partHeader?, h.body, h'.body]
  constructor
  · intro heq
    obtain ⟨quoted, htells⟩ := h.header
    obtain ⟨quoted', htells'⟩ := h'.header
    rw [Option.some.inj heq] at htells
    exact htells.name_eq htells'
  · intro hname
    unfold Part.header
    rw [hname]

end Sent

theorem manifest_carries {s : Session} {endpoints : Endpoints} {token : AccessToken}
    {file : LocalFile} {r : Request} (h : r ∈ s.outgoing (manifestRequest endpoints token file)) :
    r.Carries "file" "application/yaml" file (manifestPart file) :=
  carries_of_mem_outgoing h (by simp [manifestPart]) (by simp [manifestPart]) rfl rfl

theorem sbom_carries {s : Session} {endpoints : Endpoints} {token : AccessToken} {id : String}
    {file : LocalFile} {r : Request} (h : r ∈ s.outgoing (sbomRequest endpoints token id file)) :
    r.Carries "sbom" "application/json" file (sbomPart file) :=
  carries_of_mem_outgoing h (by simp [sbomPart]) (by simp [sbomPart]) rfl rfl

namespace Session

/-- **File names cannot break the part that carries a file.**  What is sent for a manifest or an
SBOM is at most one request, and its one part has a header of two lines that tells the name,
whatever the name is, and the contents of the file; so the header is the same for no other name.
Requests to `https` URLs never go out, and redirects, after which a request would be sent again, are
not modelled (see `Session`). -/
theorem requests_carry :
    (∀ (s : Session) endpoints token file,
      (s.uploadManifest endpoints token file).2.requests =
        s.requests ++ s.outgoing (manifestRequest endpoints token file) ∧
      ∀ r ∈ s.outgoing (manifestRequest endpoints token file),
        ∃ p, r.Carries "file" "application/yaml" file p) ∧
    (∀ (s : Session) endpoints token id file,
      (s.registerSbom endpoints token id file).2.requests =
        s.requests ++ s.outgoing (sbomRequest endpoints token id file) ∧
      ∀ r ∈ s.outgoing (sbomRequest endpoints token id file),
        ∃ p, r.Carries "sbom" "application/json" file p) ∧
    (∀ (s s' : Session) endpoints endpoints' token token' file file',
      ∀ r ∈ s.outgoing (manifestRequest endpoints token file),
      ∀ r' ∈ s'.outgoing (manifestRequest endpoints' token' file'),
        (r.partHeader? = r'.partHeader? ↔ file.name = file'.name)) ∧
    ∀ (s s' : Session) endpoints endpoints' token token' id id' file file',
      ∀ r ∈ s.outgoing (sbomRequest endpoints token id file),
      ∀ r' ∈ s'.outgoing (sbomRequest endpoints' token' id' file'),
        (r.partHeader? = r'.partHeader? ↔ file.name = file'.name) := by
  refine ⟨fun s endpoints token file => ⟨s.requests_exchange _, fun r h => ⟨_, manifest_carries h⟩⟩,
    fun s endpoints token id file => ⟨s.requests_exchange _, fun r h => ⟨_, sbom_carries h⟩⟩,
    ?_, ?_⟩
  · intro s s' endpoints endpoints' token token' file file' r h r' h'
    exact Request.partHeader?_eq_iff (manifest_carries h) (manifest_carries h')
  · intro s s' endpoints endpoints' token token' id id' file file' r h r' h'
    exact Request.partHeader?_eq_iff (sbom_carries h) (sbom_carries h')

/-- A name that would end the quotes and the line is told as it is. -/
theorem requests_carry_quotes :
    let e := Endpoints.ofBaseUrl "http://host"
    let s := ofAnswers true []
    let file : LocalFile := ⟨[], "a\"\r\n.yaml", [0x61]⟩
    ∃ r p, (s.uploadManifest e ⟨"abc"⟩ file).2.requests = [r] ∧
      r.Carries "file" "application/yaml" file p ∧
      p.header = "Content-Disposition: form-data; name=\"file\"; filename=\"a\\\"\\\r\\\n.yaml\"" ++
        "\r\nContent-Type: application/yaml" := by
  intro e s file
  obtain ⟨hrequests, hcarries⟩ := requests_carry.1 s e ⟨"abc"⟩ file
  let url : Url := ⟨"http", "", none, some (.domain "host"), none,
    .segments ["technology-discovery", "v1", "manifests"], none, none⟩
  have hrequest : manifestRequest e ⟨"abc"⟩ file = .ok ⟨.put, url, ["Bearer abc"],
      .multipart (manifestPart file)⟩ :=
    Request.prepare_plain (by cbv) (by decide) (by decide) (by cbv)
  have hway : s.obstacle? url = none := obstacle?_eq_none_iff.2 ⟨rfl, by cbv, rfl⟩
  rw [hrequest, outgoing, if_pos hway] at hrequests hcarries
  obtain ⟨p, hp⟩ := hcarries _ (List.mem_singleton.2 rfl)
  refine ⟨_, p, hrequests, hp, ?_⟩
  cases hp.body
  decide

end Session

end ManifestPublish
