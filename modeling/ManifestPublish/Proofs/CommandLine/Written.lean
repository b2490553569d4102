import ManifestPublish.Proofs.CommandLine.Given

/-!
# Settings as arguments

* `Setting.option` : the name of a setting as an argument
* `Form` : the two ways to write a setting with its value
* `Overrides.value?` : the value that an option gives a setting
* `Overrides.only` : some of the settings that are given
* `Overrides.Layout` : an order of the settings that are given and a form for each
* `Setting.NamedBy` : an argument names a setting
* `Arguments.named` : the settings that the arguments read so far name

What is written for one setting is read as giving that setting (`Arguments.take_write`); over a
whole layout, the settings read so far are some of the settings written
(`Arguments.take_settings`).  In the other direction, the settings named in arguments that are
accepted are all different (`Arguments.nodup_of_take`).

Principal result: `parseArguments_layout`.
-/

set_option autoImplicit false

namespace ManifestPublish

/-! ## Writing settings -/

/-- The name of a setting as an argument. -/
def Setting.option (setting : Setting) : Bytes := hyphen :: hyphen :: Utf8.encode setting.name

/-- The two ways to write a setting with its value. -/
inductive Form where
  /-- One argument, with an equals sign in front of the value. -/
  | joined
  /-- Two arguments. -/
  | apart
  deriving DecidableEq, Repr

/-- A setting with its value as arguments. -/
def Form.write (form : Form) (setting : Setting) (value : Bytes) : List Bytes :=
  match form with
  | .joined => [setting.flag value]
  | .apart => [setting.option, value]

/-- A value that starts with a hyphen does not stand alone. -/
def Form.Suits (form : Form) (value : Bytes) : Prop := form = .apart → value.head? ≠ some hyphen

/-- The value that an option gives a setting. -/
def Overrides.value? (o : Overrides) : Setting → Option Bytes
  | .manifest => o.manifestFile
  | .sbom => o.sbomFile
  | .subdomain => o.subdomain.map Utf8.encode
  | .baseUrl => o.baseUrl.map Utf8.encode
  | .timeoutSecs => o.timeoutSecs.map fun secs => Utf8.encode (toString secs.toNat)

/-- Paths that are given are not empty. -/
structure Overrides.HasPaths (o : Overrides) : Prop where
  manifest : o.manifestFile ≠ some []
  sbom : o.sbomFile ≠ some []

/-- An order of the settings that are given and a form for each. -/
structure Overrides.Layout (o : Overrides) where
  order : List Setting
  form : Setting → Form
  nodup : order.Nodup
  complete : ∀ s, s ∈ order ↔ o.gives s = true
  suits : ∀ s value, o.value? s = some value → (form s).Suits value

/-- A setting as arguments, if it is given. -/
def Overrides.writeSetting (o : Overrides) (form : Setting → Form) (s : Setting) : List Bytes :=
  match o.value? s with
  | some value => (form s).write s value
  | none => []

/-- The settings that are given as arguments. -/
def Overrides.Layout.arguments {o : Overrides} (layout : o.Layout) : List Bytes :=
  layout.order.flatMap (o.writeSetting layout.form)

/-- Every setting that is given as one argument. -/
def Overrides.joined (o : Overrides) : o.Layout where
  order := Setting.all.filter o.gives
  form := fun _ => .joined
  nodup := List.Nodup.filter _ (by decide)
  complete := by
    intro s
    cases s <;> simp [Setting.all]
  suits := by
    intro s value hvalue hapart
    cases hapart

instance {o : Overrides} : Inhabited o.Layout := ⟨o.joined⟩

/-- The settings that are given among some. -/
def Overrides.only (o : Overrides) (settings : List Setting) : Overrides where
  manifestFile := if .manifest ∈ settings then o.manifestFile else none
  sbomFile := if .sbom ∈ settings then o.sbomFile else none
  subdomain := if .subdomain ∈ settings then o.subdomain else none
  baseUrl := if .baseUrl ∈ settings then o.baseUrl else none
  timeoutSecs := if .timeoutSecs ∈ settings then o.timeoutSecs else none

section Overrides

variable {o : Overrides} {s : Setting} {value : Bytes} {settings : List Setting}

theorem Overrides.value?_isSome (o : Overrides) (s : Setting) :
    (o.value? s).isSome = o.gives s := by
  cases s with
  | manifest => rfl
  | sbom => rfl
  | subdomain => exact Option.isSome_map
  | baseUrl => exact Option.isSome_map
  | timeoutSecs => exact Option.isSome_map

theorem Overrides.only_eq_self (h : ∀ s, o.gives s = true → s ∈ settings) :
    o.only settings = o := by
  have hfield : ∀ {α : Type} {field : Option α} (s : Setting), o.gives s = field.isSome →
      (if s ∈ settings then field else none) = field := by
    intro α field s hgives
    split
    · rfl
    · rename_i habsent
      cases field with
      | none => rfl
      | some a => exact absurd (h s hgives) habsent
  obtain ⟨manifestFile, sbomFile, subdomain, baseUrl, timeoutSecs⟩ := o
  simp only [only, hfield .manifest rfl, hfield .sbom rfl, hfield .subdomain rfl,
    hfield .baseUrl rfl, hfield .timeoutSecs rfl]

/-- One more setting is what its option gives. -/
theorem Overrides.HasPaths.given_only (hpaths : o.HasPaths) (hvalue : o.value? s = some value) :
    (o.only settings).Given s value (o.only (settings ++ [s])) := by
  cases s with
  | manifest =>
    have hfield : o.manifestFile = some value := hvalue
    have hnext : o.only (settings ++ [.manifest]) =
        { o.only settings with manifestFile := some value } := by
      simpa [only] using hfield
    rw [hnext]
    apply Given.manifest
    rintro rfl
    exact hpaths.manifest hfield
  | sbom =>
    have hfield : o.sbomFile = some value := hvalue
    have hnext : o.only (settings ++ [.sbom]) =
        { o.only settings with sbomFile := some value } := by
      simpa [only] using hfield
    rw [hnext]
    apply Given.sbom
    rintro rfl
    exact hpaths.sbom hfield
  | subdomain =>
    obtain ⟨text, htext, rfl⟩ := Option.map_eq_some_iff.1 hvalue
    have hnext : o.only (settings ++ [.subdomain]) =
        { o.only settings with subdomain := some text } := by
      simpa [only] using htext
    rw [hnext]
    exact .subdomain
  | baseUrl =>
    obtain ⟨text, htext, rfl⟩ := Option.map_eq_some_iff.1 hvalue
    have hnext : o.only (settings ++ [.baseUrl]) =
        { o.only settings with baseUrl := some text } := by
      simpa [only] using htext
    rw [hnext]
    exact .baseUrl
  | timeoutSecs =>
    obtain ⟨secs, hsecs, rfl⟩ := Option.map_eq_some_iff.1 hvalue
    have hnext : o.only (settings ++ [.timeoutSecs]) =
        { o.only settings with timeoutSecs := some secs } := by
      simpa [only] using hsecs
    rw [hnext]
    exact .timeoutSecs (Decimal.denotes_toString secs.toNat)

end Overrides

/-! ## Reading what is written -/

section Shapes

variable {s : Setting} {value : Bytes}

theorem switch_of_name (s : Setting) :
    (Utf8.decode? (Utf8.encode s.name)).bind Switch.ofName? = some (.setting s) := by
  rw [Utf8.decode?_encode]
  exact ofName?_name s

theorem ofBytes_option (s : Setting) :
    Argument.ofBytes s.option = .long (Utf8.encode s.name) none := by
  cases s <;> decide

theorem ofBytes_value (h : value.head? ≠ some hyphen) : Argument.ofBytes value = .plain value := by
  cases value with
  | nil => rfl
  | cons b rest =>
    have hb : b ≠ hyphen := by
      rintro rfl
      exact h rfl
    simp only [Argument.ofBytes, if_neg hb]

end Shapes

namespace Arguments

variable {a : Arguments} {o o' : Overrides} {s : Setting} {value : Bytes} {given : List Setting}
  {rest : List Bytes} {form : Form}

theorem give_settled (hfresh : s ∉ given) (hgiven : o.Given s value o')
    (pending : Option (Setting × Option Bytes)) :
    (Arguments.mk o given pending).give s value = .ok ⟨o', given ++ [s], none⟩ :=
  give_eq_ok_iff.2 ⟨hfresh, hgiven, rfl, rfl⟩

theorem take_joined (hsettle : a.settle = .ok ⟨o, given, none⟩) (hfresh : s ∉ given)
    (hgiven : o.Given s value o') :
    a.take (s.flag value :: rest) = (Arguments.mk o' (given ++ [s]) none).take rest := by
  have hlong : a.takeLong (Utf8.encode s.name) (some value) = .ok ⟨o', given ++ [s], none⟩ :=
    takeLong_eq_ok_iff.2 ⟨s, switch_of_name s, takeSetting_eq_ok_iff.2
      ⟨_, hsettle, .inl ⟨value, rfl, give_settled hfresh hgiven none⟩⟩⟩
  rw [take, ofBytes_flag]
  simp only [hlong]

theorem take_apart (hsettle : a.settle = .ok ⟨o, given, none⟩)
    (hhead : value.head? ≠ some hyphen) :
    a.take (s.option :: value :: rest) =
      (Arguments.mk o given (some (s, some value))).take rest := by
  have hlong : a.takeLong (Utf8.encode s.name) none = .ok ⟨o, given, some (s, none)⟩ :=
    takeLong_eq_ok_iff.2 ⟨s, switch_of_name s, takeSetting_eq_ok_iff.2
      ⟨_, hsettle, .inr ⟨rfl, rfl⟩⟩⟩
  have hplain : (Arguments.mk o given (some (s, none))).takePlain value =
      .ok ⟨o, given, some (s, some value)⟩ :=
    takePlain_eq_ok_iff.2 ⟨s, rfl, rfl⟩
  rw [take, ofBytes_option]
  simp only [hlong]
  rw [take, ofBytes_value hhead]
  simp only [hplain]

/-- **What is written for a setting gives it**, at the latest when the arguments read so far are
settled. -/
theorem take_write (hsettle : a.settle = .ok ⟨o, given, none⟩) (hfresh : s ∉ given)
    (hgiven : o.Given s value o') (hsuits : form.Suits value) (rest : List Bytes) :
    ∃ a' : Arguments, a'.settle = .ok ⟨o', given ++ [s], none⟩ ∧
      a.take (form.write s value ++ rest) = a'.take rest := by
  cases form with
  | joined => exact ⟨⟨o', given ++ [s], none⟩, rfl, take_joined hsettle hfresh hgiven⟩
  | apart =>
    refine ⟨⟨o, given, some (s, some value)⟩, ?_, take_apart hsettle (hsuits rfl)⟩
    exact settle_eq_ok_iff.2 (.inr ⟨s, value, rfl, give_settled hfresh hgiven _⟩)

/-- **What is written for some settings gives them and no others.** -/
theorem take_settings (hpaths : o.HasPaths) {form : Setting → Form}
    (hsuits : ∀ s value, o.value? s = some value → (form s).Suits value) {order : List Setting}
    (hnodup : (given ++ order).Nodup) (hgives : ∀ s ∈ order, o.gives s = true)
    (hsettle : a.settle = .ok ⟨o.only given, given, none⟩) :
    a.take (order.flatMap (o.writeSetting form)) = .ok (o.only (given ++ order)) := by
  -- On the settings still to be read; those in `given` are read.
  induction order generalizing a given with
  | nil =>
    rw [List.append_nil]
    exact finish_eq_ok_iff.2 ⟨_, hsettle, rfl⟩
  | cons s order ih =>
    have hsome : (o.value? s).isSome = true := by
      rw [o.value?_isSome]
      exact hgives s List.mem_cons_self
    obtain ⟨value, hvalue⟩ := Option.isSome_iff_exists.1 hsome
    have hwrite : o.writeSetting form s = (form s).write s value := by
      rw [Overrides.writeSetting, hvalue]
    have hfresh : s ∉ given := by
      intro hmem
      exact (List.nodup_append.1 hnodup).2.2 s hmem s List.mem_cons_self rfl
    rw [List.append_cons] at hnodup
    obtain ⟨a', hsettle', htake⟩ := take_write hsettle hfresh (hpaths.given_only hvalue)
      (hsuits s value hvalue) (order.flatMap (o.writeSetting form))
    rw [List.flatMap_cons, hwrite, htake, List.append_cons]
    apply ih hnodup
    · intro t ht
      exact hgives t (List.mem_cons_of_mem s ht)
    · exact hsettle'

end Arguments

/-! ## No setting twice -/

/-- An argument names a setting, with or without a value. -/
inductive Setting.NamedBy (s : Setting) : Bytes → Prop where
  | option : NamedBy s s.option
  | flag (value : Bytes) : NamedBy s (s.flag value)

/-- The setting that an argument names, if it is read as a switch. -/
def Argument.setting? : Argument → Option Setting
  | .long name _ =>
    match (Utf8.decode? name).bind Switch.ofName? with
    | some (.setting s) => some s
    | _ => none
  | _ => none

/-- The settings that arguments name. -/
def namedSettings (args : List Bytes) : List Setting :=
  args.filterMap fun text => (Argument.ofBytes text).setting?

theorem Setting.NamedBy.setting? {s : Setting} {text : Bytes} (h : s.NamedBy text) :
    (Argument.ofBytes text).setting? = some s := by
  cases h with
  | option => rw [ofBytes_option, Argument.setting?, switch_of_name]
  | flag value => rw [ofBytes_flag, Argument.setting?, switch_of_name]

namespace Arguments

variable {a a' : Arguments} {s t : Setting} {v : Bytes} {o : Overrides} {args : List Bytes}

/-- The settings that the arguments read so far name. -/
def named (a : Arguments) : List Setting := a.given ++ (a.pending.map Prod.fst).toList

theorem named_of_pending_eq_none (h : a.pending = none) : a.named = a.given := by
  rw [named, h]
  exact List.append_nil _

theorem nodup_of_give (hnodup : a.given.Nodup) (h : a.give t v = .ok a') :
    a'.named = a.given ++ [t] ∧ a'.given.Nodup := by
  obtain ⟨hfresh, -, hgiven, hpending⟩ := give_eq_ok_iff.1 h
  have hnamed := named_of_pending_eq_none hpending
  rw [hnamed, hgiven]
  refine ⟨rfl, List.nodup_append.2 ⟨hnodup, List.nodup_singleton t, ?_⟩⟩
  intro u hu w hw heq
  rw [List.mem_singleton.1 hw] at heq
  exact hfresh (heq ▸ hu)

theorem nodup_of_settle (hnodup : a.given.Nodup) (h : a.settle = .ok a') :
    a'.given = a.named ∧ a'.given.Nodup := by
  obtain ⟨hpending, rfl⟩ | ⟨t, v, hpending, hgive⟩ := settle_eq_ok_iff.1 h
  · exact ⟨(named_of_pending_eq_none hpending).symm, hnodup⟩
  · have hsettled := nodup_of_give hnodup hgive
    rw [named_of_pending_eq_none (give_eq_ok_iff.1 hgive).2.2.2] at hsettled
    rw [named, hpending]
    exact hsettled

theorem nodup_of_takeSetting {value : Option Bytes} (hnodup : a.given.Nodup)
    (h : a.takeSetting t value = .ok a') : a'.named = a.named ++ [t] ∧ a'.given.Nodup := by
  obtain ⟨settled, hsettle, ⟨v, -, hgive⟩ | ⟨-, rfl⟩⟩ := takeSetting_eq_ok_iff.1 h
  · obtain ⟨hnamed, hsettled⟩ := nodup_of_settle hnodup hsettle
    rw [← hnamed]
    exact nodup_of_give hsettled hgive
  · obtain ⟨hnamed, hsettled⟩ := nodup_of_settle hnodup hsettle
    rw [← hnamed]
    exact ⟨rfl, hsettled⟩

theorem nodup_of_finish (hnodup : a.given.Nodup) (h : a.finish = .ok o) : a.named.Nodup := by
  obtain ⟨settled, hsettle, -⟩ := finish_eq_ok_iff.1 h
  obtain ⟨hnamed, hsettled⟩ := nodup_of_settle hnodup hsettle
  exact hnamed ▸ hsettled

/-- **The settings named in arguments that are accepted are all different.** -/
theorem nodup_of_take (hnodup : a.given.Nodup) (h : a.take args = .ok o) :
    (a.named ++ namedSettings args).Nodup := by
  -- On the arguments: every setting they name goes to the end of those named so far.
  induction args generalizing a with
  | nil =>
    rw [namedSettings, List.filterMap_nil, List.append_nil]
    exact nodup_of_finish hnodup h
  | cons text args ih =>
    rw [namedSettings, List.filterMap_cons]
    obtain ⟨hshape, rfl, hend⟩ | ⟨name, value, a', hshape, hlong, hrest⟩ |
      ⟨value, a', hshape, hplain, hrest⟩ := take_cons_eq_ok h
    · rw [hshape]
      simpa [Argument.setting?] using nodup_of_finish hnodup hend
    · obtain ⟨t, hname, hsetting⟩ := takeLong_eq_ok_iff.1 hlong
      obtain ⟨hnamed, hgiven⟩ := nodup_of_takeSetting hnodup hsetting
      have hlater := ih hgiven hrest
      rw [hnamed, List.append_assoc] at hlater
      rw [hshape, Argument.setting?, hname]
      exact hlater
    · obtain ⟨t, hpending, rfl⟩ := takePlain_eq_ok_iff.1 hplain
      have hlater : ((Arguments.mk a.overrides a.given (some (t, some value))).named ++
          namedSettings args).Nodup := ih hnodup hrest
      have hnamed : a.named = a.given ++ [t] := by
        rw [named, hpending]
        rfl
      rw [hshape, hnamed]
      exact hlater

end Arguments

/-- Arguments that name a setting twice are not accepted. -/
theorem exists_error_of_twice {args : List Bytes} {s : Setting} {first second : Bytes}
    (htwice : [first, second].Sublist args) (hfirst : s.NamedBy first)
    (hsecond : s.NamedBy second) : ∃ stop, parseArguments args = .error stop := by
  cases hparse : parseArguments args with
  | error stop => exact ⟨stop, rfl⟩
  | ok o =>
    have hnodup : (Arguments.empty.named ++ namedSettings args).Nodup :=
      Arguments.nodup_of_take List.nodup_nil hparse
    have hnamed : namedSettings [first, second] = [s, s] := by
      simp only [namedSettings, List.filterMap_cons, hfirst.setting?, hsecond.setting?,
        List.filterMap_nil]
    have hsub : [s, s].Sublist (namedSettings args) := by
      rw [← hnamed]
      exact htwice.filterMap _
    have hpair : [s, s].Nodup := hnodup.sublist hsub
    exact absurd List.mem_cons_self (List.nodup_cons.1 hpair).1

/-! ## There and back -/

/-- **Settings come back from the arguments they are written as**, in any order and in any of the
two forms, and arguments that name a setting twice are never accepted. -/
theorem parseArguments_layout :
    (∀ (o : Overrides) (layout : o.Layout), o.HasPaths →
      parseArguments layout.arguments = .ok o) ∧
    ∀ (args : List Bytes) (s : Setting) (first second : Bytes), [first, second].Sublist args →
      s.NamedBy first → s.NamedBy second → ∃ stop, parseArguments args = .error stop := by
  constructor
  · intro o layout hpaths
    have hgives : ∀ s ∈ layout.order, o.gives s = true := fun s => (layout.complete s).1
    have hempty : Arguments.empty.settle = .ok ⟨o.only [], [], none⟩ := rfl
    have hnodup : ([] ++ layout.order).Nodup := layout.nodup
    have htake := Arguments.take_settings hpaths layout.suits hnodup hgives hempty
    have hall : o.only layout.order = o :=
      Overrides.only_eq_self fun s => (layout.complete s).2
    rw [List.nil_append, hall] at htake
    exact htake
  · intro args s first second htwice hfirst hsecond
    exact exists_error_of_twice htwice hfirst hsecond

/-- All settings in one order and both forms, with values that hold an equals sign, a byte that is
no text, quotes and the name of another setting; and the same setting twice. -/
theorem parseArguments_layout_mixed :
    parseArguments [Setting.timeoutSecs.option, Utf8.encode "18446744073709551615",
        Setting.sbom.flag (Utf8.encode "--manifest=x"), Setting.baseUrl.option,
        Utf8.encode "a \"b\"", Setting.manifest.flag [0xFF, equalsSign], Setting.subdomain.option,
        Utf8.encode "é"] =
      .ok ⟨some [0xFF, equalsSign], some (Utf8.encode "--manifest=x"), some "é",
        some "a \"b\"", some 18446744073709551615⟩ ∧
    ∃ stop, parseArguments [Setting.sbom.flag (Utf8.encode "x"), Setting.manifest.option,
      Utf8.encode "y", Setting.sbom.option, Utf8.encode "x"] = .error stop := by
  have hwritten := parseArguments_layout.1
    ⟨some [0xFF, equalsSign], some (Utf8.encode "--manifest=x"), some "é", some "a \"b\"",
      some 18446744073709551615⟩
    { order := [.timeoutSecs, .sbom, .baseUrl, .manifest, .subdomain]
      form := fun s => if s = .sbom ∨ s = .manifest then .joined else .apart
      nodup := by decide
      complete := by
        intro s
        cases s <;> decide
      suits := by
        intro s value hvalue
        cases s <;> cases hvalue <;> unfold Form.Suits <;> decide }
    ⟨by decide, by decide⟩
  refine ⟨hwritten, ?_⟩
  apply parseArguments_layout.2 _ .sbom (Setting.sbom.flag (Utf8.encode "x")) Setting.sbom.option
  · exact .cons_cons _ (.cons _ (.cons _ (.cons_cons _ (.cons _ .slnil))))
  · exact .flag _
  · exact .option

end ManifestPublish
