import Mathlib.Computability.Language
import ManifestPublish.Settings.Load

/-!
# The names of workspaces

* `Subdomain.letters` : the words of one letter of some kind
* `Subdomain.names` : the names as a regular language: a letter or digit, and after it nothing or
  letters, digits and hyphens up to another letter or digit

Principal result: `Subdomain.isSubdomain_iff`.
-/

set_option autoImplicit false

open scoped Computability

namespace ManifestPublish.Subdomain

def IsEdge (c : Char) : Prop := ('a' ≤ c ∧ c ≤ 'z') ∨ ('0' ≤ c ∧ c ≤ '9')

def IsInner (c : Char) : Prop := IsEdge c ∨ c = '-'

/-- The words of one letter of some kind. -/
def letters (p : Char → Prop) : Language Char := {w : List Char | ∃ c, p c ∧ w = [c]}

/-- The names that a workspace can have. -/
def names : Language Char := letters IsEdge * (1 + (letters IsInner)∗ * letters IsEdge)

theorem mem_letters {p : Char → Prop} {w : List Char} : w ∈ letters p ↔ ∃ c, p c ∧ w = [c] :=
  Iff.rfl

theorem mem_kstar_letters {p : Char → Prop} {w : List Char} :
    w ∈ (letters p)∗ ↔ ∀ c ∈ w, p c := by
  rw [Language.mem_kstar]
  constructor
  · rintro ⟨words, rfl, hwords⟩ c hc
    obtain ⟨word, hword, hc⟩ := List.mem_flatten.1 hc
    obtain ⟨d, hd, rfl⟩ := mem_letters.1 (hwords word hword)
    rw [List.mem_singleton.1 hc]
    exact hd
  · intro h
    refine ⟨w.map fun c => [c], (List.flatMap_singleton' w).symm, ?_⟩
    intro word hword
    obtain ⟨c, hc, rfl⟩ := List.mem_map.1 hword
    exact ⟨c, h c hc, rfl⟩

theorem mem_names {w : List Char} :
    w ∈ names ↔ ∃ first, IsEdge first ∧
      (w = [first] ∨ ∃ inner last, (∀ c ∈ inner, IsInner c) ∧ IsEdge last ∧
        w = first :: (inner ++ [last])) := by
  rw [names, Language.mem_mul]
  constructor
  · rintro ⟨_, ⟨first, hfirst, rfl⟩, rest, hrest, rfl⟩
    refine ⟨first, hfirst, ?_⟩
    rcases (Language.mem_add _ _ _).1 hrest with hone | hmore
    · rw [(Language.mem_one _).1 hone]
      exact .inl rfl
    · obtain ⟨inner, hinner, _, ⟨last, hlast, rfl⟩, rfl⟩ := Language.mem_mul.1 hmore
      exact .inr ⟨inner, last, mem_kstar_letters.1 hinner, hlast, rfl⟩
  · rintro ⟨first, hfirst, hw⟩
    rcases hw with rfl | ⟨inner, last, hinner, hlast, rfl⟩
    · exact ⟨[first], ⟨first, hfirst, rfl⟩, [], (Language.mem_add _ _ _).2 (.inl rfl), rfl⟩
    · refine ⟨[first], ⟨first, hfirst, rfl⟩, inner ++ [last], ?_, rfl⟩
      refine (Language.mem_add _ _ _).2 (.inr ?_)
      exact Language.mem_mul.2 ⟨inner, mem_kstar_letters.2 hinner, [last], ⟨last, hlast, rfl⟩, rfl⟩

theorem isSubdomainEdge_iff {c : Char} : isSubdomainEdge c ↔ IsEdge c := by
  simp [isSubdomainEdge, IsEdge]

theorem isSubdomainInner_iff {c : Char} : isSubdomainInner c ↔ IsInner c := by
  simp [isSubdomainInner, IsInner, isSubdomainEdge_iff]

/-- **The names that are taken for workspaces are those of the language.** -/
theorem isSubdomain_iff {s : String} : isSubdomain s ↔ s.toList ∈ names := by
  rw [mem_names, isSubdomain]
  split
  · rename_i hnil
    simp [hnil]
  · rename_i first rest hcons
    rw [hcons, Bool.and_eq_true, isSubdomainEdge_iff]
    split
    · rename_i hrest
      have hnil : rest = [] := List.reverse_eq_nil_iff.1 hrest
      subst hnil
      simp
    · rename_i last inner hrest
      have happend : rest = inner.reverse ++ [last] := by
        rw [← List.reverse_reverse rest, hrest, List.reverse_cons]
      subst happend
      rw [Bool.and_eq_true, isSubdomainEdge_iff, List.all_eq_true]
      simp only [isSubdomainInner_iff]
      constructor
      · rintro ⟨hfirst, hlast, hinner⟩
        exact ⟨first, hfirst, .inr ⟨inner.reverse, last,
          fun c hc => hinner c (List.mem_reverse.1 hc), hlast, rfl⟩⟩
      · rintro ⟨found, hfound, hone | ⟨cs, d, hcs, hd, hmore⟩⟩
        · simp at hone
        · obtain ⟨rfl, hsame⟩ := List.cons.inj hmore
          obtain ⟨rfl, hlast⟩ := List.append_inj' hsame rfl
          obtain rfl := List.singleton_injective hlast
          exact ⟨hfound, hd, fun c hc => hcs c (List.mem_reverse.2 hc)⟩

end ManifestPublish.Subdomain
