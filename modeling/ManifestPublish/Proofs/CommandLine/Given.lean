import ManifestPublish.CommandLine.Arguments
import ManifestPublish.Proofs.Text.Decimal
import ManifestPublish.Proofs.Text.Utf8

/-!
# Settings given with options

* `Setting.flag` : a setting as one argument
* `Overrides.gives` : a setting is given with an option
* `Overrides.Given` : what giving a setting with an option comes to
* `Arguments.Ahead` : the arguments read are the same but for one option in front of them

Two settings can be given in either order (`Overrides.Given.comm`), and no setting is taken back
(`Arguments.keeps_of_take`).  So an option in front of arguments that do not give it stays in its
place while they are read (`Arguments.Ahead.take`).

Principal result: `parseArguments_flag`.
-/

set_option autoImplicit false

namespace ManifestPublish

/-! ## Giving a setting -/

/-- The setting as one argument. -/
def Setting.flag (setting : Setting) (value : Bytes) : Bytes :=
  hyphen :: hyphen :: (Utf8.encode setting.name ++ equalsSign :: value)

/-- Whether a setting is given with an option. -/
def Overrides.gives (o : Overrides) : Setting → Bool
  | .manifest => o.manifestFile.isSome
  | .sbom => o.sbomFile.isSome
  | .subdomain => o.subdomain.isSome
  | .baseUrl => o.baseUrl.isSome
  | .timeoutSecs => o.timeoutSecs.isSome

/-- What giving a setting with an option comes to. -/
inductive Overrides.Given (o : Overrides) : Setting → Bytes → Overrides → Prop where
  | manifest {path : Bytes} (h : path ≠ []) :
      Given o .manifest path { o with manifestFile := some path }
  | sbom {path : Bytes} (h : path ≠ []) : Given o .sbom path { o with sbomFile := some path }
  | subdomain {text : String} :
      Given o .subdomain (Utf8.encode text) { o with subdomain := some text }
  | baseUrl {text : String} : Given o .baseUrl (Utf8.encode text) { o with baseUrl := some text }
  | timeoutSecs {text : String} {secs : UInt64} (h : Decimal.Denotes text secs.toNat) :
      Given o .timeoutSecs (Utf8.encode text) { o with timeoutSecs := some secs }

/-! ## One option -/

theorem map_eq_ok_iff {ε α β : Type} {x : Except ε α} {f : α → β} {b : β} :
    x.map f = .ok b ↔ ∃ a, x = .ok a ∧ f a = b := by
  cases x <;> simp [Except.map]

theorem map_eq_error_iff {ε α β : Type} {x : Except ε α} {f : α → β} {e : ε} :
    x.map f = .error e ↔ x = .error e := by
  cases x <;> simp [Except.map]

section Give

variable {o o' o₁ o₂ : Overrides} {s t : Setting} {v w : Bytes}

theorem readPath_eq_ok_iff {path : Bytes} : readPath s v = .ok path ↔ v ≠ [] ∧ v = path := by
  rw [readPath]
  by_cases hv : v = [] <;> simp [hv]

theorem readText_eq_ok_iff {text : String} : readText v = .ok text ↔ v = Utf8.encode text := by
  rw [← Utf8.decode?_eq_some_iff, readText]
  cases Utf8.decode? v <;> simp

theorem readNumber_eq_ok_iff {n : UInt64} :
    readNumber s v = .ok n ↔ ∃ text, v = Utf8.encode text ∧ Decimal.Denotes text n.toNat := by
  simp only [← Decimal.read_eq_ok_iff, ← readText_eq_ok_iff, readNumber]
  cases readText v with
  | error stop => simp [bind, Except.bind]
  | ok text => cases hread : Decimal.read text <;> simp [bind, Except.bind, Except.mapError, hread]

theorem give_eq_ok_iff : o.give s v = .ok o' ↔ o.Given s v o' := by
  constructor
  · intro h
    cases s with
    | manifest =>
      obtain ⟨path, hread, rfl⟩ := map_eq_ok_iff.1 h
      obtain ⟨hfilled, rfl⟩ := readPath_eq_ok_iff.1 hread
      exact .manifest hfilled
    | sbom =>
      obtain ⟨path, hread, rfl⟩ := map_eq_ok_iff.1 h
      obtain ⟨hfilled, rfl⟩ := readPath_eq_ok_iff.1 hread
      exact .sbom hfilled
    | subdomain =>
      obtain ⟨text, hread, rfl⟩ := map_eq_ok_iff.1 h
      obtain rfl := readText_eq_ok_iff.1 hread
      exact .subdomain
    | baseUrl =>
      obtain ⟨text, hread, rfl⟩ := map_eq_ok_iff.1 h
      obtain rfl := readText_eq_ok_iff.1 hread
      exact .baseUrl
    | timeoutSecs =>
      obtain ⟨secs, hread, rfl⟩ := map_eq_ok_iff.1 h
      obtain ⟨text, rfl, hdenotes⟩ := readNumber_eq_ok_iff.1 hread
      exact .timeoutSecs hdenotes
  · intro h
    cases h with
    | manifest hfilled => exact map_eq_ok_iff.2 ⟨_, readPath_eq_ok_iff.2 ⟨hfilled, rfl⟩, rfl⟩
    | sbom hfilled => exact map_eq_ok_iff.2 ⟨_, readPath_eq_ok_iff.2 ⟨hfilled, rfl⟩, rfl⟩
    | subdomain => exact map_eq_ok_iff.2 ⟨_, readText_eq_ok_iff.2 rfl, rfl⟩
    | baseUrl => exact map_eq_ok_iff.2 ⟨_, readText_eq_ok_iff.2 rfl, rfl⟩
    | timeoutSecs hdenotes =>
      exact map_eq_ok_iff.2 ⟨_, readNumber_eq_ok_iff.2 ⟨_, rfl, hdenotes⟩, rfl⟩

theorem Overrides.Given.gives (h : o.Given s v o') : o'.gives s := by
  cases h <;> rfl

/-- No setting is taken back. -/
theorem Overrides.Given.keeps (h : o.Given s v o') (hgives : o.gives t) : o'.gives t := by
  cases h <;> cases t <;> first | exact hgives | rfl

/-- Giving two settings comes to the same in either order. -/
theorem Overrides.Given.comm (hne : t ≠ s) (h₁ : o.Given s v o₁) (h₂ : o.Given t w o₂) :
    ∃ o', o₁.Given t w o' ∧ o₂.Given s v o' := by
  cases h₁ <;> cases h₂ <;> first
    | exact absurd rfl hne
    | exact ⟨_, by constructor <;> assumption, by constructor <;> assumption⟩

theorem exitCode_of_readPath {stop : Stop} (h : readPath s v = .error stop) :
    stop.exitCode = 2 := by
  unfold readPath at h
  split at h
  · cases h
    rfl
  · cases h

theorem exitCode_of_readText {stop : Stop} (h : readText v = .error stop) : stop.exitCode = 2 := by
  unfold readText at h
  split at h
  · cases h
  · cases h
    rfl

theorem exitCode_of_readNumber {stop : Stop} (h : readNumber s v = .error stop) :
    stop.exitCode = 2 := by
  unfold readNumber at h
  cases htext : readText v with
  | error other =>
    rw [htext] at h
    cases h
    exact exitCode_of_readText htext
  | ok text =>
    rw [htext] at h
    simp only [bind, Except.bind] at h
    cases hread : Decimal.read text with
    | ok n =>
      rw [hread] at h
      cases h
    | error fault =>
      rw [hread] at h
      cases h
      rfl

/-- Why an option is refused does not depend on the others. -/
theorem give_eq_error {stop : Stop} (h : o.give s v = .error stop) (o' : Overrides) :
    o'.give s v = .error stop ∧ stop.exitCode = 2 := by
  cases s with
  | manifest =>
    have hread := map_eq_error_iff.1 h
    exact ⟨map_eq_error_iff.2 hread, exitCode_of_readPath hread⟩
  | sbom =>
    have hread := map_eq_error_iff.1 h
    exact ⟨map_eq_error_iff.2 hread, exitCode_of_readPath hread⟩
  | subdomain =>
    have hread := map_eq_error_iff.1 h
    exact ⟨map_eq_error_iff.2 hread, exitCode_of_readText hread⟩
  | baseUrl =>
    have hread := map_eq_error_iff.1 h
    exact ⟨map_eq_error_iff.2 hread, exitCode_of_readText hread⟩
  | timeoutSecs =>
    have hread := map_eq_error_iff.1 h
    exact ⟨map_eq_error_iff.2 hread, exitCode_of_readNumber hread⟩

end Give

/-! ## An option in front of others -/

/-- The arguments read are the same but for one option in front of them. -/
structure Arguments.Ahead (s : Setting) (v : Bytes) (a b : Arguments) : Prop where
  overrides : a.overrides.Given s v b.overrides
  given : b.given = s :: a.given
  pending : b.pending = a.pending

namespace Arguments

variable {a a' b : Arguments} {s t u : Setting} {v w : Bytes} {o : Overrides}

theorem give_eq_ok_iff :
    a.give t w = .ok a' ↔
      t ∉ a.given ∧ a.overrides.Given t w a'.overrides ∧ a'.given = a.given ++ [t] ∧
        a'.pending = none := by
  obtain ⟨overrides', given', pending'⟩ := a'
  rw [← ManifestPublish.give_eq_ok_iff, give]
  by_cases hmem : t ∈ a.given
  · simp [hmem]
  · cases hgive : a.overrides.give t w with
    | error stop => simp [hmem]
    | ok overrides => simp [hmem, eq_comm]

theorem settle_eq_ok_iff :
    a.settle = .ok a' ↔
      (a.pending = none ∧ a' = a) ∨ ∃ t w, a.pending = some (t, some w) ∧ a.give t w = .ok a' := by
  rw [settle]
  constructor
  · intro h
    split at h
    · cases h
      exact .inl ⟨‹_›, rfl⟩
    · exact .inr ⟨_, _, ‹_›, h⟩
    · cases h
  · rintro (⟨hpending, rfl⟩ | ⟨t, w, hpending, hgive⟩)
    · rw [hpending]
    · rw [hpending]
      exact hgive

theorem takeSetting_eq_ok_iff {value : Option Bytes} :
    a.takeSetting t value = .ok a' ↔
      ∃ settled, a.settle = .ok settled ∧
        ((∃ w, value = some w ∧ settled.give t w = .ok a') ∨
          value = none ∧ a' = { settled with pending := some (t, none) }) := by
  rw [takeSetting]
  cases a.settle with
  | error halt => simp
  | ok settled =>
    cases value with
    | none => simp [eq_comm]
    | some w => cases hgive : settled.give t w <;> simp [Except.mapError, hgive]

theorem takeLong_eq_ok_iff {name : Bytes} {value : Option Bytes} :
    a.takeLong name value = .ok a' ↔
      ∃ t, (Utf8.decode? name).bind Switch.ofName? = some (.setting t) ∧
        a.takeSetting t value = .ok a' := by
  rw [takeLong]
  cases (Utf8.decode? name).bind Switch.ofName? with
  | none => simp
  | some switch => cases switch <;> cases value <;> simp

theorem takePlain_eq_ok_iff {text : Bytes} :
    a.takePlain text = .ok a' ↔
      ∃ t, a.pending = some (t, none) ∧ a' = { a with pending := some (t, some text) } := by
  rw [takePlain]
  split
  · simp [*, eq_comm]
  · rename_i hpending
    constructor
    · rintro ⟨⟩
    · rintro ⟨t, ht, -⟩
      exact (hpending t ht).elim

/-! ### No setting is taken back -/

theorem keeps_of_give (h : a.give u w = .ok a') (hgives : a.overrides.gives t) :
    a'.overrides.gives t :=
  (give_eq_ok_iff.1 h).2.1.keeps hgives

theorem keeps_of_settle (h : a.settle = .ok a') (hgives : a.overrides.gives t) :
    a'.overrides.gives t := by
  obtain ⟨-, rfl⟩ | ⟨u, w, -, hgive⟩ := settle_eq_ok_iff.1 h
  · exact hgives
  · exact keeps_of_give hgive hgives

theorem keeps_of_takeSetting {value : Option Bytes} (h : a.takeSetting u value = .ok a')
    (hgives : a.overrides.gives t) : a'.overrides.gives t := by
  obtain ⟨settled, hsettle, ⟨w, -, hgive⟩ | ⟨-, rfl⟩⟩ := takeSetting_eq_ok_iff.1 h
  · exact keeps_of_give hgive (keeps_of_settle hsettle hgives)
  · have hkept := keeps_of_settle hsettle hgives
    exact hkept

theorem finish_eq_ok_iff : a.finish = .ok o ↔ ∃ a', a.settle = .ok a' ∧ a'.overrides = o := by
  rw [finish]
  cases a.settle <;> simp

theorem take_cons_eq_ok {text : Bytes} {rest : List Bytes} (h : a.take (text :: rest) = .ok o) :
    (Argument.ofBytes text = .separator ∧ rest = [] ∧ a.finish = .ok o) ∨
    (∃ name value a', Argument.ofBytes text = .long name value ∧
      a.takeLong name value = .ok a' ∧ a'.take rest = .ok o) ∨
    ∃ value a', Argument.ofBytes text = .plain value ∧ a.takePlain value = .ok a' ∧
      a'.take rest = .ok o := by
  rw [take] at h
  split at h
  · rename_i hshape
    unfold takeRest at h
    split at h
    · exact .inl ⟨hshape, rfl, h⟩
    · cases h
  · cases h
  · rename_i hshape
    split at h
    · exact .inr (.inl ⟨_, _, _, hshape, ‹_›, h⟩)
    · cases h
  · rename_i hshape
    split at h
    · exact .inr (.inr ⟨_, _, hshape, ‹_›, h⟩)
    · cases h

theorem keeps_of_take {args : List Bytes} (h : a.take args = .ok o)
    (hgives : a.overrides.gives t) : o.gives t := by
  have hfinish : ∀ {a : Arguments}, a.finish = .ok o → a.overrides.gives t → o.gives t := by
    intro a h hgives
    obtain ⟨a', hsettle, rfl⟩ := finish_eq_ok_iff.1 h
    exact keeps_of_settle hsettle hgives
  induction args generalizing a with
  | nil => exact hfinish h hgives
  | cons text rest ih =>
    obtain ⟨-, -, hend⟩ | ⟨name, value, a', -, hlong, hrest⟩ | ⟨value, a', -, hplain, hrest⟩ :=
      take_cons_eq_ok h
    · exact hfinish hend hgives
    · obtain ⟨u, -, hsetting⟩ := takeLong_eq_ok_iff.1 hlong
      exact ih hrest (keeps_of_takeSetting hsetting hgives)
    · obtain ⟨u, -, rfl⟩ := takePlain_eq_ok_iff.1 hplain
      exact ih hrest hgives

/-! ### The others do not matter -/

namespace Ahead

theorem give (hahead : Ahead s v a b) (h : a.give t w = .ok a')
    (hsilent : a'.overrides.gives s = false) :
    ∃ b', b.give t w = .ok b' ∧ Ahead s v a' b' := by
  obtain ⟨hfresh, hgiven, hgivens, hpending⟩ := give_eq_ok_iff.1 h
  have hne : t ≠ s := by
    rintro rfl
    rw [hgiven.gives] at hsilent
    cases hsilent
  obtain ⟨o', hgiven', hahead'⟩ := hahead.overrides.comm hne hgiven
  refine ⟨⟨o', b.given ++ [t], none⟩, ?_, hahead', ?_, hpending.symm⟩
  · refine give_eq_ok_iff.2 ⟨?_, hgiven', rfl, rfl⟩
    rw [hahead.given, List.mem_cons, not_or]
    exact ⟨hne, hfresh⟩
  · rw [hahead.given, hgivens]
    rfl

theorem settle (hahead : Ahead s v a b) (h : a.settle = .ok a')
    (hsilent : a'.overrides.gives s = false) : ∃ b', b.settle = .ok b' ∧ Ahead s v a' b' := by
  obtain ⟨hpending, rfl⟩ | ⟨t, w, hpending, hgive⟩ := settle_eq_ok_iff.1 h
  · exact ⟨b, settle_eq_ok_iff.2 (.inl ⟨hahead.pending.trans hpending, rfl⟩), hahead⟩
  · obtain ⟨b', hgive', hahead'⟩ := hahead.give hgive hsilent
    exact ⟨b', settle_eq_ok_iff.2 (.inr ⟨t, w, hahead.pending.trans hpending, hgive'⟩), hahead'⟩

theorem takeSetting {value : Option Bytes} (hahead : Ahead s v a b)
    (h : a.takeSetting t value = .ok a') (hsilent : a'.overrides.gives s = false) :
    ∃ b', b.takeSetting t value = .ok b' ∧ Ahead s v a' b' := by
  obtain ⟨settled, hsettle, ⟨w, rfl, hgive⟩ | ⟨rfl, rfl⟩⟩ := takeSetting_eq_ok_iff.1 h
  · have hsilent' : settled.overrides.gives s = false := by
      by_contra hgives
      have hkept := keeps_of_give hgive (eq_true_of_ne_false hgives)
      rw [hkept] at hsilent
      cases hsilent
    obtain ⟨b₁, hsettle', hahead₁⟩ := hahead.settle hsettle hsilent'
    obtain ⟨b₂, hgive', hahead₂⟩ := hahead₁.give hgive hsilent
    exact ⟨b₂, takeSetting_eq_ok_iff.2 ⟨b₁, hsettle', .inl ⟨w, rfl, hgive'⟩⟩, hahead₂⟩
  · obtain ⟨b', hsettle', hahead'⟩ := hahead.settle hsettle hsilent
    exact ⟨{ b' with pending := some (t, none) },
      takeSetting_eq_ok_iff.2 ⟨b', hsettle', .inr ⟨rfl, rfl⟩⟩, hahead'.overrides, hahead'.given,
      rfl⟩

theorem finish (hahead : Ahead s v a b) (h : a.finish = .ok o) (hsilent : o.gives s = false) :
    ∃ o', b.finish = .ok o' ∧ o.Given s v o' := by
  obtain ⟨a', hsettle, rfl⟩ := finish_eq_ok_iff.1 h
  obtain ⟨b', hsettle', hahead'⟩ := hahead.settle hsettle hsilent
  exact ⟨b'.overrides, finish_eq_ok_iff.2 ⟨b', hsettle', rfl⟩, hahead'.overrides⟩

/-- **Reading on keeps the option in front in its place**, if it is not given again. -/
theorem take {args : List Bytes} (hahead : Ahead s v a b) (h : a.take args = .ok o)
    (hsilent : o.gives s = false) : ∃ o', b.take args = .ok o' ∧ o.Given s v o' := by
  induction args generalizing a b with
  | nil => exact hahead.finish h hsilent
  | cons text rest ih =>
    rw [Arguments.take]
    obtain ⟨hshape, rfl, hend⟩ | ⟨name, value, a', hshape, hlong, hrest⟩ |
      ⟨value, a', hshape, hplain, hrest⟩ := take_cons_eq_ok h
    · rw [hshape]
      exact hahead.finish hend hsilent
    · rw [hshape]
      have hsilent' : a'.overrides.gives s = false := by
        by_contra hgives
        have hkept := keeps_of_take hrest (eq_true_of_ne_false hgives)
        rw [hkept] at hsilent
        cases hsilent
      obtain ⟨t, hname, hsetting⟩ := takeLong_eq_ok_iff.1 hlong
      obtain ⟨b', hsetting', hahead'⟩ := hahead.takeSetting hsetting hsilent'
      simp only [takeLong_eq_ok_iff.2 ⟨t, hname, hsetting'⟩]
      exact ih hahead' hrest
    · rw [hshape]
      obtain ⟨t, hpending, rfl⟩ := takePlain_eq_ok_iff.1 hplain
      simp only [takePlain_eq_ok_iff.2 ⟨t, hahead.pending.trans hpending, rfl⟩]
      refine ih ?_ hrest
      exact ⟨hahead.overrides, hahead.given, rfl⟩

end Ahead

end Arguments

/-! ## All arguments -/

section Flag

variable {s : Setting} {v : Bytes}

theorem ofName?_name (s : Setting) : Switch.ofName? s.name = some (.setting s) := by
  cases s <;> decide

theorem equalsSign_not_mem_name (s : Setting) : equalsSign ∉ Utf8.encode s.name := by
  cases s <;> decide

theorem ofBytes_flag : Argument.ofBytes (s.flag v) = .long (Utf8.encode s.name) (some v) := by
  have hname : ∀ b ∈ Utf8.encode s.name, decide (b ≠ equalsSign) = true := by
    intro b hb
    refine decide_eq_true ?_
    rintro rfl
    exact equalsSign_not_mem_name s hb
  have hdrop : (Utf8.encode s.name ++ equalsSign :: v).dropWhile (· ≠ equalsSign) =
      equalsSign :: v := by
    rw [List.dropWhile_append_of_pos hname, List.dropWhile_cons_of_neg (by decide)]
  have htake : (Utf8.encode s.name ++ equalsSign :: v).takeWhile (· ≠ equalsSign) =
      Utf8.encode s.name := by
    rw [List.takeWhile_append_of_pos hname, List.takeWhile_cons_of_neg (by decide),
      List.append_nil]
  have hfilled : Utf8.encode s.name ++ equalsSign :: v ≠ [] :=
    List.append_ne_nil_of_right_ne_nil _ (List.cons_ne_nil _ _)
  rw [Setting.flag, Argument.ofBytes, if_pos rfl]
  simp only [if_true]
  rw [Argument.ofLong, if_neg hfilled, hdrop, htake]

/-- **An option in front of arguments that do not give it** comes to giving it after them. -/
theorem parseArguments_flag {args : List Bytes} {o : Overrides} (h : parseArguments args = .ok o)
    (hsilent : o.gives s = false) : parseArguments (s.flag v :: args) = o.give s v := by
  have hname : (Utf8.decode? (Utf8.encode s.name)).bind Switch.ofName? = some (.setting s) := by
    rw [Utf8.decode?_encode]
    exact ofName?_name s
  rw [parseArguments, Arguments.take, ofBytes_flag]
  cases hgive : Overrides.give {} s v with
  | error stop =>
    obtain ⟨hrefused, -⟩ := give_eq_error hgive o
    have hlong : Arguments.empty.takeLong (Utf8.encode s.name) (some v) = .error stop := by
      rw [Arguments.takeLong, hname]
      simp [Arguments.takeSetting, Arguments.settle, Arguments.give, Arguments.empty, hgive,
        Except.mapError]
    simp only [hlong, hrefused]
  | ok first =>
    have hfirst : Arguments.empty.give s v = .ok ⟨first, [s], none⟩ :=
      Arguments.give_eq_ok_iff.2 ⟨List.not_mem_nil, give_eq_ok_iff.1 hgive, rfl, rfl⟩
    have hlong : Arguments.empty.takeLong (Utf8.encode s.name) (some v) =
        .ok ⟨first, [s], none⟩ :=
      Arguments.takeLong_eq_ok_iff.2 ⟨s, hname, Arguments.takeSetting_eq_ok_iff.2
        ⟨Arguments.empty, rfl, .inl ⟨v, rfl, hfirst⟩⟩⟩
    have hahead : Arguments.Ahead s v Arguments.empty ⟨first, [s], none⟩ :=
      ⟨give_eq_ok_iff.1 hgive, rfl, rfl⟩
    obtain ⟨o', hrest, hgiven⟩ := hahead.take h hsilent
    simp only [hlong]
    rw [hrest, give_eq_ok_iff.2 hgiven]

end Flag

end ManifestPublish
