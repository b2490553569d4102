import Mathlib.Data.List.TakeWhile
import ManifestPublish.Proofs.File.Grounded
import ManifestPublish.Proofs.Run.Course
import ManifestPublish.Proofs.Text.Utf8

/-!
# Reading the file that a path leads to

* `Path.EndsIn` : the name behind the last slash of a path
* `Entry.isRegular` : a regular file, whether or not it can be read
* `FileTree.NamesFile` : a path leads to a regular file
* `FileTree.Reads` : what reading a path comes to
* `SkipsMissing` : what registering the SBOM at a path comes to if its file may be missing

A path that leads to a regular file ends in a name (`FileTree.LeadsTo.endsIn`): behind a final
slash, `.` or `..` a walk ends at a directory.  So the name under which a file is sent is always
the one behind the last slash.

Principal result: `localFile_reads`.
-/

set_option autoImplicit false

namespace ManifestPublish

/-! ## The name behind the last slash -/

namespace Path

/-- A name stands behind the last slash of a path, or is all of it. -/
structure EndsIn (path name : Bytes) : Prop where
  whole : slash ∉ name
  behind : path = name ∨ ∃ before, path = before ++ slash :: name

/-- What stands behind the last slash is the end of the path up to there. -/
theorem EndsIn.eq {path name : Bytes} (h : EndsIn path name) :
    name = (path.reverse.takeWhile (· ≠ slash)).reverse := by
  have hall : ∀ b ∈ name.reverse, decide (b ≠ slash) = true := by
    intro b hb
    apply decide_eq_true
    rintro rfl
    exact h.whole (List.mem_reverse.1 hb)
  obtain rfl | ⟨before, rfl⟩ := h.behind
  · rw [List.takeWhile_eq_self_iff.2 hall, List.reverse_reverse]
  · rw [List.reverse_append, List.reverse_cons, List.append_assoc,
      List.takeWhile_append_of_pos hall, List.singleton_append,
      List.takeWhile_cons_of_neg (by decide), List.append_nil,
      List.reverse_reverse]

theorem EndsIn.unique {path name other : Bytes} (h : EndsIn path name) (h' : EndsIn path other) :
    name = other :=
  h.eq.trans h'.eq.symm

/-- The last part of a path that is cut at its slashes stands behind the last of them. -/
theorem exists_splitOn (path : Bytes) :
    ∃ front name, path.splitOn slash = front ++ [name] ∧ slash ∉ name ∧
      (front = [] ∧ path = name ∨ front ≠ [] ∧ ∃ before, path = before ++ slash :: name) := by
  induction path with
  | nil => exact ⟨[], [], rfl, List.not_mem_nil, .inl ⟨rfl, rfl⟩⟩
  | cons b bs ih =>
    obtain ⟨front, name, hsplit, hwhole, hbehind⟩ := ih
    have hcons : (b :: bs).splitOn slash =
        if b = slash then [] :: bs.splitOn slash else (bs.splitOn slash).modifyHead (b :: ·) := by
      rw [List.splitOn_cons_eq_if_modifyHead]
      simp only [beq_iff_eq]
    by_cases hb : b = slash
    · subst hb
      refine ⟨[] :: front, name, by rw [hcons, if_pos rfl, hsplit, List.cons_append], hwhole,
        .inr ⟨List.cons_ne_nil _ _, ?_⟩⟩
      rcases hbehind with ⟨-, rfl⟩ | ⟨-, before, rfl⟩
      · exact ⟨[], rfl⟩
      · exact ⟨slash :: before, rfl⟩
    · rcases hbehind with ⟨rfl, rfl⟩ | ⟨hfront, before, rfl⟩
      · refine ⟨[], b :: bs, by rw [hcons, if_neg hb, hsplit]; rfl, ?_, .inl ⟨rfl, rfl⟩⟩
        rw [List.mem_cons, not_or]
        exact ⟨fun heq => hb heq.symm, hwhole⟩
      · obtain ⟨first, more, rfl⟩ := List.exists_cons_of_ne_nil hfront
        exact ⟨(b :: first) :: more, name, by rw [hcons, if_neg hb, hsplit]; rfl, hwhole,
          .inr ⟨List.cons_ne_nil _ _, b :: before, rfl⟩⟩

theorem exists_names {path : Bytes} (hpath : path ≠ []) (hlast : path.getLast? ≠ some slash) :
    ∃ front name, names path = front ++ [name] ∧ name ≠ [] ∧ EndsIn path name := by
  obtain ⟨front, name, hsplit, hwhole, hbehind⟩ := exists_splitOn path
  have hname : name ≠ [] := by
    rintro rfl
    rcases hbehind with ⟨-, rfl⟩ | ⟨-, before, rfl⟩
    · exact hpath rfl
    · exact hlast List.getLast?_concat
  refine ⟨front.filter (· ≠ []), name, ?_, hname, hwhole, ?_⟩
  · rw [names, hsplit, List.filter_append, List.filter_cons_of_pos (by simpa using hname),
      List.filter_nil]
  · exact hbehind.imp And.right And.right

/-- The last step along a path is `.` for a final slash, and else the name in which it ends. -/
theorem exists_steps {path : Bytes} (hpath : path ≠ []) :
    ∃ step, (steps path).getLast? = some step ∧
      (step = dot ∨ step ≠ [] ∧ EndsIn path step ∧ ∃ front, names path = front ++ [step]) := by
  by_cases hlast : path.getLast? = some slash
  · exact ⟨dot, by rw [steps, if_pos hlast, List.getLast?_concat], .inl rfl⟩
  · obtain ⟨front, name, hnames, hname, hends⟩ := exists_names hpath hlast
    exact ⟨name, by rw [steps, if_neg hlast, hnames, List.getLast?_concat],
      .inr ⟨hname, hends, front, hnames⟩⟩

theorem fileName?_of_names {path name : Bytes} {front : List Bytes}
    (hnames : names path = front ++ [name]) (hdot : name ≠ dot) (hdots : name ≠ dotDot) :
    fileName? path = some name := by
  have hlast : ((names path).filter (· ≠ dot)).getLast? = some name := by
    rw [hnames, List.filter_append, List.filter_cons_of_pos (by simpa using hdot), List.filter_nil,
      List.getLast?_concat]
  rw [fileName?, hlast]
  exact if_neg hdots

end Path

/-! ## Names as texts -/

namespace Utf8

/-- A character that is read, other than the stand-in, is written in the bytes. -/
theorem encodeChar_subset_of_mem {bytes : Bytes} {c : Char}
    (h : c ∈ (decodeLossy bytes).toList) (hc : c ≠ replacement) :
    String.utf8EncodeChar c ⊆ bytes := by
  rw [decodeLossy, String.toList_ofList] at h
  obtain ⟨piece, hpiece, rfl⟩ := List.mem_map.1 h
  cases piece with
  | illFormed run => exact absurd rfl hc
  | scalar c =>
    intro b hb
    rw [← bytes_pieces bytes]
    exact List.mem_flatMap.2 ⟨_, hpiece, hb⟩

theorem decodeLossy_ne_empty {bytes : Bytes} (h : bytes ≠ []) : decodeLossy bytes ≠ "" := by
  intro hempty
  have hpieces : pieces bytes = [] := by
    have htext := congrArg String.toList hempty
    rw [decodeLossy, String.toList_ofList] at htext
    exact List.map_eq_nil_iff.1 htext
  apply h
  rw [← bytes_pieces bytes, hpieces]
  rfl

end Utf8

/-! ## Regular files -/

/-- A regular file, whether or not its bytes can be read. -/
def Entry.isRegular : Entry → Bool
  | .file _ => true
  | .unreadable _ => true
  | _ => false

namespace FileTree

/-- A path leads to a regular file. -/
def NamesFile (tree : FileTree) (path : Bytes) : Prop :=
  ∃ place entry, tree.LeadsTo path place ∧ tree.entryAt? place = some entry ∧
    entry.isRegular = true

/-- What reading the file of a path comes to. -/
inductive Reads (tree : FileTree) (path : Bytes) : Except PublishError LocalFile → Prop where
  | missing (h : ¬ tree.NamesFile path) : Reads tree path (.error (.fileNotFound path))
  | unreadable {place : Place} {fault : Nat} (leads : tree.LeadsTo path place)
      (there : tree.entryAt? place = some (.unreadable fault)) :
      Reads tree path (.error (.fileRead path (.system fault)))
  | whole {place : Place} {name contents : Bytes} (leads : tree.LeadsTo path place)
      (there : tree.entryAt? place = some (.file contents)) (ends : Path.EndsIn path name) :
      Reads tree path (.ok ⟨path, Utf8.decodeLossy name, contents⟩)

section Lookup

variable {tree : FileTree} {path : Bytes} {place : Place} {entry : Entry}

theorem lookup?_eq_some_iff :
    tree.lookup? path = some entry ↔
      ∃ place, tree.LeadsTo path place ∧ tree.entryAt? place = some entry := by
  simp only [lookup?, Option.bind_eq_some_iff, resolve?_eq_some_iff]

theorem isFile_iff : tree.isFile path = true ↔ tree.NamesFile path := by
  have hnames : tree.NamesFile path ↔
      ∃ entry, tree.lookup? path = some entry ∧ entry.isRegular = true := by
    simp only [lookup?_eq_some_iff, NamesFile]
    constructor
    · rintro ⟨place, entry, hleads, hthere, hregular⟩
      exact ⟨entry, ⟨place, hleads, hthere⟩, hregular⟩
    · rintro ⟨entry, ⟨place, hleads, hthere⟩, hregular⟩
      exact ⟨place, entry, hleads, hthere, hregular⟩
  rw [hnames, isFile]
  cases tree.lookup? path with
  | none => simp
  | some entry => cases entry <;> simp [Entry.isRegular]

/-- **A path has to lead to a regular file.** -/
theorem ensureFile_eq_ok_iff : tree.ensureFile path = .ok () ↔ tree.NamesFile path := by
  rw [← isFile_iff, ensureFile]
  split <;> simp_all

theorem ensureFile_eq_error_iff :
    tree.ensureFile path = .error (.fileNotFound path) ↔ ¬ tree.NamesFile path := by
  rw [← isFile_iff, ensureFile]
  split <;> simp_all

/-- **A path that leads to something other than a directory ends in a name**, by which it is
known. -/
theorem LeadsTo.endsIn (h : tree.LeadsTo path place) (grounded : tree.Grounded)
    (outside : tree.isDirectory place = false) :
    ∃ name, name ≠ [] ∧ Path.EndsIn path name ∧ Path.fileName? path = some name := by
  have hpath : path ≠ [] := by
    rintro rfl
    exact absurd h.admissible (by decide)
  obtain ⟨step, hlast, hstep⟩ := Path.exists_steps hpath
  obtain ⟨links, -, hwalks⟩ := h.walks
  have hnamed : Path.IsName step := by
    by_contra hunnamed
    rw [hwalks.isDirectory grounded hlast hunnamed] at outside
    cases outside
  rcases hstep with rfl | ⟨hne, hends, front, hnames⟩
  · exact absurd rfl hnamed.ne_dot
  · exact ⟨step, hne, hends,
      Path.fileName?_of_names hnames hnamed.ne_dot hnamed.ne_dotDot⟩

theorem not_isDirectory (h : tree.entryAt? place = some entry) (hentry : entry ≠ .directory) :
    tree.isDirectory place = false := by
  rw [isDirectory, h]
  exact decide_eq_false fun heq => hentry (Option.some.inj heq)

end Lookup

/-! ## Reading -/

section Read

variable {tree : FileTree} {path : Bytes} {result : Except PublishError LocalFile}

theorem read_of_lookup? {contents : Bytes} (h : tree.lookup? path = some (.file contents)) :
    tree.read path = .ok ⟨path, sentName path, contents⟩ := by
  rw [read, h]

theorem read_of_not_namesFile (h : ¬ tree.NamesFile path) :
    tree.read path = .error (.fileNotFound path) := by
  have hfile : tree.isFile path = false := Bool.eq_false_iff.2 fun hfile => h (isFile_iff.1 hfile)
  unfold isFile at hfile
  unfold read
  cases hlookup : tree.lookup? path with
  | none => rfl
  | some entry =>
    rw [hlookup] at hfile
    cases entry with
    | file contents => cases hfile
    | unreadable fault => cases hfile
    | directory => rfl
    | special => rfl
    | link target => rfl

theorem sentName_of_endsIn {name : Bytes} (h : Path.fileName? path = some name) :
    sentName path = Utf8.decodeLossy name := by
  rw [sentName, h]
  rfl

/-- **Reading a path comes to one of three things**: no regular file is there, its bytes cannot be
read, or they are read, under the name behind the last slash. -/
theorem read_eq_iff (grounded : tree.Grounded) :
    tree.read path = result ↔ tree.Reads path result := by
  constructor
  · rintro rfl
    by_cases hfile : tree.NamesFile path
    · obtain ⟨place, entry, hleads, hthere, hregular⟩ := hfile
      have hlookup := lookup?_eq_some_iff.2 ⟨place, hleads, hthere⟩
      cases entry with
      | file contents =>
        obtain ⟨name, -, hends, hname⟩ :=
          hleads.endsIn grounded (not_isDirectory hthere Entry.noConfusion)
        rw [read_of_lookup? hlookup, sentName_of_endsIn hname]
        exact .whole hleads hthere hends
      | unreadable fault =>
        rw [read, hlookup]
        exact .unreadable hleads hthere
      | directory => cases hregular
      | special => cases hregular
      | link target => cases hregular
    · rw [read_of_not_namesFile hfile]
      exact .missing hfile
  · intro h
    cases h with
    | missing hfile => exact read_of_not_namesFile hfile
    | unreadable hleads hthere =>
      rw [read, lookup?_eq_some_iff.2 ⟨_, hleads, hthere⟩]
    | whole hleads hthere hends =>
      obtain ⟨name, -, hends', hname⟩ :=
        hleads.endsIn grounded (not_isDirectory hthere Entry.noConfusion)
      rw [read_of_lookup? (lookup?_eq_some_iff.2 ⟨_, hleads, hthere⟩), sentName_of_endsIn hname,
        hends.unique hends']

/-- A name behind a slash, as a text, is some text without a slash. -/
theorem decodeLossy_endsIn {name : Bytes} (h : Path.EndsIn path name) :
    '/' ∉ (Utf8.decodeLossy name).toList := by
  intro hmem
  have hsubset := Utf8.encodeChar_subset_of_mem hmem (by decide)
  exact h.whole (hsubset (by decide))

end Read

end FileTree

/-! ## The SBOM of a run -/

section Sbom

variable {σ : Type} (service : Service σ) {tree : FileTree} (token : AccessToken) (id : String)
  {path : Bytes} (services : σ)

theorem registerSboms_skipped (h : ¬ tree.NamesFile path) :
    (registerSboms service tree token id path).trace services =
      (.ok (.skipped path), ⟨services, [], [.sbomChecked, .sbomSkipped]⟩) :=
  registerSboms_absent (Bool.eq_false_iff.2 fun hfile => h (FileTree.isFile_iff.1 hfile))

/-- An SBOM that is a regular file is not skipped, and it is called missing only if the service that
takes it says so. -/
theorem registerSboms_present_result (h : tree.NamesFile path) :
    (∀ skipped, ((registerSboms service tree token id path).trace services).1 ≠
      .ok (.skipped skipped)) ∧
    ∀ missing, ((registerSboms service tree token id path).trace services).1 =
        .error (.fileNotFound missing) →
      ∃ sbom, tree.read path = .ok sbom ∧
        (service.registerSbom token id sbom services).1 = .error (.fileNotFound missing) := by
  have hfile := FileTree.isFile_iff.2 h
  rcases FileTree.read_of_isFile hfile with ⟨sbom, hread⟩ | ⟨fault, hread⟩
  · rcases hreply : service.registerSbom token id sbom services with ⟨e | done, services'⟩
    · have htrace : (registerSboms service tree token id path).trace services =
          (.error e, ⟨services', [.registerSbom token id sbom], [.sbomChecked]⟩) :=
        registerSboms_refused hfile hread hreply
      rw [htrace]
      refine ⟨by rintro skipped ⟨⟩, ?_⟩
      rintro missing ⟨⟩
      exact ⟨sbom, hread, by rw [hreply]⟩
    · have htrace : (registerSboms service tree token id path).trace services =
          (.ok (.registered sbom.report), ⟨services', [.registerSbom token id sbom],
            [.sbomChecked, .sbomUploaded]⟩) :=
        registerSboms_registered hfile hread hreply
      rw [htrace]
      exact ⟨by rintro skipped ⟨⟩, by rintro missing ⟨⟩⟩
  · have htrace : (registerSboms service tree token id path).trace services =
        (.error (.fileRead path fault), ⟨services, [], [.sbomChecked]⟩) :=
      registerSboms_unread hfile hread
    rw [htrace]
    exact ⟨by rintro skipped ⟨⟩, by rintro missing ⟨⟩⟩

end Sbom

/-- What registering the SBOM at a path comes to, as far as its file may be missing: it is skipped
exactly if the check of the path fails, then nothing is asked, and nothing else is called missing
but by the service. -/
structure SkipsMissing {σ : Type} (service : Service σ) (tree : FileTree) (token : AccessToken)
    (id : String) (path : Bytes) (services : σ)
    (ended : Except PublishError SbomOutcome × Trace σ) : Prop where
  skipped_iff : (∃ skipped, ended.1 = .ok (.skipped skipped)) ↔
    tree.ensureFile path = .error (.fileNotFound path)
  unasked : ∀ skipped, ended.1 = .ok (.skipped skipped) →
    skipped = path ∧ ended.2.calls = [] ∧ ended.2.services = services
  missing : ∀ other, ended.1 = .error (.fileNotFound other) → ∃ sbom, tree.read path = .ok sbom ∧
    (service.registerSbom token id sbom services).1 = .error (.fileNotFound other)

theorem registerSboms_skipsMissing {σ : Type} (service : Service σ) (tree : FileTree)
    (token : AccessToken) (id : String) (path : Bytes) (services : σ) :
    SkipsMissing service tree token id path services
      ((registerSboms service tree token id path).trace services) := by
  by_cases hfile : tree.NamesFile path
  · obtain ⟨hskipped, hmissing⟩ := registerSboms_present_result service token id services hfile
    have hensure : ¬ tree.ensureFile path = .error (.fileNotFound path) := fun herror =>
      FileTree.ensureFile_eq_error_iff.1 herror hfile
    refine ⟨⟨?_, fun herror => absurd herror hensure⟩, ?_, hmissing⟩
    · rintro ⟨skipped, heq⟩
      exact absurd heq (hskipped skipped)
    · intro skipped heq
      exact absurd heq (hskipped skipped)
  · rw [registerSboms_skipped service token id services hfile]
    refine ⟨⟨fun _ => FileTree.ensureFile_eq_error_iff.2 hfile, fun _ => ⟨path, rfl⟩⟩, ?_, ?_⟩
    · rintro skipped ⟨⟩
      exact ⟨rfl, rfl, rfl⟩
    · rintro other ⟨⟩

/-- **Local files.**  Reading a path fails exactly as the check of it does if it leads to no regular
file; else it gives the bytes of that file, or tells why they cannot be read.  What is read is sent
under the name behind the last slash of the path, which there always is.  In a tree that does not
change, an SBOM is skipped exactly if the check of its path fails, and is not missing after it. -/
theorem localFile_reads (tree : FileTree) (grounded : tree.Grounded) (path : Bytes) :
    (∀ result, tree.read path = result ↔ tree.Reads path result) ∧
    (tree.ensureFile path = .error (.fileNotFound path) ↔ ¬ tree.NamesFile path) ∧
    (tree.ensureFile path = .ok () ↔ tree.NamesFile path) ∧
    (∀ file, tree.read path = .ok file → file.name ≠ "" ∧ '/' ∉ file.name.toList ∧
      ∃ name, Path.fileName? path = some name ∧ file.name = Utf8.decodeLossy name) ∧
    ∀ {σ : Type} (service : Service σ) (token : AccessToken) (id : String) (services : σ),
      SkipsMissing service tree token id path services
        ((registerSboms service tree token id path).trace services) := by
  refine ⟨fun result => FileTree.read_eq_iff grounded, FileTree.ensureFile_eq_error_iff,
    FileTree.ensureFile_eq_ok_iff, ?_, fun service token id services =>
      registerSboms_skipsMissing service tree token id path services⟩
  intro file hread
  cases (FileTree.read_eq_iff grounded).1 hread with
  | whole hleads hthere hends =>
    obtain ⟨name, hname, hends', hfileName⟩ :=
      hleads.endsIn grounded (FileTree.not_isDirectory hthere Entry.noConfusion)
    obtain rfl := hends.unique hends'
    exact ⟨Utf8.decodeLossy_ne_empty hname, FileTree.decodeLossy_endsIn hends, _, hfileName, rfl⟩

/-- A link is read under its own name, and a link to itself leads to no file. -/
theorem localFile_reads_link :
    let tree := ((FileTree.write ⟨[], []⟩ (Utf8.encode "data/real.yaml") (.file [0x61])).makeLink
      (Utf8.encode "link.yaml") (Utf8.encode "data/real.yaml")).makeLink
        (Utf8.encode "loop") (Utf8.encode "loop")
    let path := Utf8.encode "data/../link.yaml"
    tree.Grounded ∧
      tree.Reads path (.ok ⟨path, "link.yaml", [0x61]⟩) ∧
      ¬ tree.NamesFile (Utf8.encode "loop") := by
  intro tree path
  have hgrounded : tree.Grounded :=
    (((FileTree.grounded_empty []).write _ Entry.noConfusion).makeLink _ _).makeLink _ _
  obtain ⟨hreads, -⟩ := localFile_reads tree hgrounded path
  obtain ⟨-, hensure, -⟩ := localFile_reads tree hgrounded (Utf8.encode "loop")
  exact ⟨hgrounded, (hreads _).1 (by decide), hensure.1 (by decide)⟩

end ManifestPublish
